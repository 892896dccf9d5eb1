import GuestSeat.Proofs.Clip.Run
import GuestSeat.Proofs.Seat.Upshot
import GuestSeat.Proofs.Windows.Ancestry

/-!
Which window focus goes to when the one that it was offered to does not take it. The candidates are asked
in turn until one is willing, and no window is asked twice, not even where one and the same window is a
candidate for several reasons. A window that keeps its answer to itself costs time and is taken as willing.
-/

namespace GuestSeat

theorem eraseDups_sublist {α : Type*} [BEq α] [LawfulBEq α] (xs : List α) : xs.eraseDups.Sublist xs := by
  match xs with
  | [] => exact .slnil
  | x :: xs =>
      rw [List.eraseDups_cons]
      exact .cons_cons x ((eraseDups_sublist _).trans List.filter_sublist)
termination_by xs.length
decreasing_by exact Nat.lt_succ_of_le (List.length_filter_le _ _)

theorem nodup_eraseDups {α : Type*} [BEq α] [LawfulBEq α] (xs : List α) : xs.eraseDups.Nodup := by
  match xs with
  | [] => exact .nil
  | x :: xs =>
      rw [List.eraseDups_cons, List.nodup_cons]
      exact ⟨by simp, nodup_eraseDups _⟩
termination_by xs.length
decreasing_by exact Nat.lt_succ_of_le (List.length_filter_le _ _)

/-- Where a first occurrence is, it stays when repetitions are dropped. -/
theorem eraseDups_of_first {α : Type*} [BEq α] [LawfulBEq α] {x : α} {before : List α}
    (first : x ∉ before) (after : List α) :
    ∃ rest, (before ++ x :: after).eraseDups = before.eraseDups ++ x :: rest := by
  refine ⟨((after.removeAll before).filter fun y => !y == x).eraseDups, ?_⟩
  rw [List.eraseDups_append, List.cons_removeAll, if_pos (by simpa using first), List.eraseDups_cons]

/-- The places up to the first of a kind are those with none of the kind before them. -/
theorem mem_upto_first_iff {α : Type*} {P : α → Prop} {x : α} {before : List α}
    (passed : ∀ y ∈ before, ¬ P y) (found : P x) (after : List α) (k : α) :
    (∃ front back, before ++ x :: after = front ++ k :: back ∧ ∀ y ∈ front, ¬ P y) ↔
      k ∈ before ++ [x] := by
  induction before with
  | nil =>
      simp only [List.nil_append, List.mem_singleton]
      constructor
      · rintro ⟨front, back, split, none⟩
        cases front with
        | nil => exact (List.cons.inj split).1.symm
        | cons y front =>
            obtain ⟨rfl, -⟩ := List.cons.inj split
            exact absurd found (none _ List.mem_cons_self)
      · rintro rfl
        exact ⟨[], after, rfl, nofun⟩
  | cons y before ih =>
      rw [List.forall_mem_cons] at passed
      have later := ih passed.2
      rw [List.cons_append, List.cons_append, List.mem_cons, ← later]
      constructor
      · rintro ⟨front, back, split, none⟩
        cases front with
        | nil => exact .inl (List.cons.inj split).1.symm
        | cons z front =>
            obtain ⟨-, split⟩ := List.cons.inj split
            exact .inr ⟨front, back, split, (List.forall_mem_cons.mp none).2⟩
      · rintro (rfl | ⟨front, back, split, none⟩)
        · exact ⟨[], _, rfl, nofun⟩
        · exact ⟨y :: front, back, congrArg (y :: ·) split, List.forall_mem_cons.mpr ⟨passed.1, none⟩⟩

namespace Scene

open Environment (desktop)

variable (s : Scene) {h : Handle} {event : EventRecord} {time : Timestamp}

def tickAfter (wait tick : Nat) : Nat := min (tick + wait) Environment.tickLimit

def offerTo (env : Environment) (k : Handle) : Delivered :=
  ⟨k, .mouseActivate (env.ancestorRoot k) .menu, true⟩

/-- Between two scenes some windows were asked whether they take focus. The question arrives at those that
answer, and the others take up the time that an answer is waited for. -/
structure Polled (s : Scene) (windows : List Handle) (t : Scene) : Prop where
  asked : s.Asked t
  messages : t.env.journal.messages = s.env.journal.messages ++
    (windows.filter fun k => !s.env.unresponsive.contains k).map (offerTo s.env)
  tick : t.env.tick =
    (tickAfter s.seat.config.focus.probeTimeout)^[windows.countP s.env.unresponsive.contains] s.env.tick

/-- Whether focus that a window refused may go to another one. -/
def Eligible (env : Environment) (refused k : Handle) : Prop :=
  k.isNull = false ∧ k ≠ refused ∧ Willing env k

instance (env : Environment) (h : Handle) : Decidable (env.Declines h) :=
  inferInstanceAs (Decidable (env.unresponsive.contains h = false ∧ (_ ∨ _)))

instance (env : Environment) (h : Handle) : Decidable (Willing env h) :=
  inferInstanceAs (Decidable (_ ∧ _))

instance (env : Environment) (refused k : Handle) : Decidable (Eligible env refused k) :=
  inferInstanceAs (Decidable (_ ∧ _ ∧ _))

def askInTurn (s : Scene) (windows : List Handle) : Scene :=
  windows.foldl (fun s k => (s.agreesToActivate k).1) s

theorem Polled.nobody : s.Polled [] s := ⟨.refl s, (List.append_nil _).symm, rfl⟩

variable {s} in
theorem Polled.trans {t u : Scene} {earlier later : List Handle} (first : s.Polled earlier t)
    (second : t.Polled later u) : s.Polled (earlier ++ later) u := by
  have silent : t.env.unresponsive = s.env.unresponsive :=
    first.asked.env.keeps Environment.unresponsive fun _ => rfl
  have offer : offerTo t.env = offerTo s.env := by
    funext k
    unfold offerTo
    rw [Environment.ancestorRoot_congr first.asked.env.windows]
  refine ⟨first.asked.trans second.asked, ?_, ?_⟩
  · rw [second.messages, first.messages, silent, offer, List.filter_append, List.map_append,
      List.append_assoc]
  · rw [second.tick, first.tick, silent, first.asked.seat, List.countP_append, Nat.add_comm,
      Function.iterate_add_apply]

theorem polled_takesActivation {k : Handle} (there : (k.isNull || !s.env.windows.contains k) = false) :
    s.Polled [k] (s.takesActivation k).1 := by
  have asked : s.Asked (s.takesActivation k).1 := s.asked_probeActivation k .menu
  cases silent : s.env.unresponsive.contains k with
  | true =>
      have waited : (s.takesActivation k).1.env = s.env.elapse s.seat.config.focus.probeTimeout := by
        unfold takesActivation probeActivation Environment.sendWithin
        rw [silent]
        rfl
      refine ⟨asked, ?_, ?_⟩
      · rw [waited, List.filter_singleton, silent]
        exact (List.append_nil _).symm
      · rw [waited, List.countP_singleton, silent]
        rfl
  | false =>
      have arrives : s.env.deliver k (.mouseActivate (s.env.ancestorRoot k) .menu) true =
          .ok (s.env.note fun j => { j with messages := j.messages ++ [offerTo s.env k] }) := by
        unfold Environment.deliver
        rw [if_neg (by simp [there])]
        rfl
      have reached : (s.takesActivation k).1.env =
          s.env.note fun j => { j with messages := j.messages ++ [offerTo s.env k] } := by
        unfold takesActivation probeActivation Environment.sendWithin Environment.send
        rw [silent]
        dsimp only
        rw [if_neg Bool.false_ne_true, arrives]
      refine ⟨asked, ?_, ?_⟩
      · rw [reached, List.filter_singleton, silent]
        rfl
      · rw [reached, List.countP_singleton, silent]
        rfl

/-- A window is asked if it may be activated. -/
theorem polled_agreesToActivate (k : Handle) :
    s.Polled ([k].filter (canActivate s.env)) (s.agreesToActivate k).1 := by
  unfold agreesToActivate
  rw [List.filter_singleton]
  cases able : canActivate s.env k with
  | false => exact .nobody s
  | true => exact s.polled_takesActivation (there_of_canActivate able)

theorem polled_askInTurn (windows : List Handle) :
    s.Polled (windows.filter (canActivate s.env)) (s.askInTurn windows) := by
  induction windows generalizing s with
  | nil => exact .nobody s
  | cons k rest ih =>
      have first := s.polled_agreesToActivate k
      have able : canActivate (s.agreesToActivate k).1.env = canActivate s.env :=
        funext (canActivate_congr first.asked.env.windows)
      have more := first.trans (ih _)
      rw [able, ← List.filter_append] at more
      exact more

/-- Windows that are not willing are asked and passed over. -/
theorem activateFirst_append (event : EventRecord) (time : Timestamp) {before : List Handle}
    (unwilling : ∀ k ∈ before, ¬ Willing s.env k) (rest : List Handle) :
    s.activateFirst event time (before ++ rest) =
      (s.askInTurn before).activateFirst event time rest := by
  induction before generalizing s with
  | nil => rfl
  | cons k before ih =>
      have refused : (s.agreesToActivate k).2 = false := by
        rw [← Bool.not_eq_true, s.agreesToActivate_iff]
        exact unwilling k List.mem_cons_self
      have asked := (s.asked_agreesToActivate k).env
      have further : s.activateFirst event time (k :: (before ++ rest)) =
          (s.agreesToActivate k).1.activateFirst event time (before ++ rest) := by
        rw [activateFirst, show s.agreesToActivate k = ((s.agreesToActivate k).1, false) from
          Prod.ext rfl refused]
      refine further.trans (ih _ fun j member willing => ?_)
      exact unwilling j (List.mem_cons_of_mem k member) (willing_of_asked asked willing)

/-- The first that is willing gets focus. -/
theorem activateFirst_cons {k : Handle} (willing : Willing s.env k) (rest : List Handle) :
    s.activateFirst event time (k :: rest) = (s.agreesToActivate k).1.giveFocus event k time := by
  have agreed : (s.agreesToActivate k).2 = true := (s.agreesToActivate_iff k).mpr willing
  rw [activateFirst, show s.agreesToActivate k = ((s.agreesToActivate k).1, true) from
    Prod.ext rfl agreed]

structure Settles (s : Scene) (h : Handle) (t : Scene) : Prop where
  foreground : t.env.foreground = h
  messages : t.env.journal.messages = s.env.journal.messages
  tick : t.env.tick = s.env.tick

theorem settles_focusHost {t : Scene} (settles : s.Settles h t) (info : WindowInfo) :
    s.Settles h (t.focusHost info time) := by
  unfold focusHost
  split
  · exact settles
  · split <;> exact ⟨settles.foreground, settles.messages, settles.tick⟩

theorem settles_focusRoot {t : Scene} (settles : s.Settles h t) (focused : Handle) :
    s.Settles h (if focused.isNull then t else
      match t.env.info? (t.env.ancestorRoot focused) with
      | none => t
      | some info => t.focusHost info time) := by
  split
  · exact settles
  · split
    · exact settles
    · exact s.settles_focusHost settles _

theorem settles_giveFocus (granted : s.canGrab.2 = true) : s.Settles h (s.giveFocus event h time) := by
  have probed : s.canGrab.1.env.journal.messages = s.env.journal.messages ∧
      s.canGrab.1.env.tick = s.env.tick := by
    unfold canGrab
    split <;> exact ⟨rfl, rfl⟩
  have fronted : s.Settles h (s.canGrab.1.setForeground h) := ⟨rfl, probed.1, probed.2⟩
  unfold giveFocus
  rw [show s.canGrab = (s.canGrab.1, true) from Prod.ext rfl granted]
  exact s.settles_focusRoot fronted _

/-- The windows that are considered in place of one that refused, repetitions included. -/
def candidates (s : Scene) : List Handle :=
  [if s.env.focus.isNull then Handle.null else s.env.ancestorRoot s.env.focus, s.env.active,
    s.seat.input.lastFocus]

def standIns (refused : Handle) (windows : List Handle) : List Handle :=
  windows.eraseDups.filter fun k => !k.isNull && k != refused

theorem fallbacks_eq (refused : Handle) : s.fallbacks refused = standIns refused s.candidates := rfl

theorem mem_standIns_iff {refused k : Handle} {windows : List Handle} :
    k ∈ standIns refused windows ↔ k ∈ windows ∧ k.isNull = false ∧ k ≠ refused := by
  simp [standIns]

theorem nodup_standIns (refused : Handle) (windows : List Handle) : (standIns refused windows).Nodup :=
  (nodup_eraseDups windows).filter _

theorem standIns_sublist (refused : Handle) (windows : List Handle) :
    (standIns refused windows).Sublist windows :=
  List.filter_sublist.trans (eraseDups_sublist windows)

theorem standIns_of_first {refused k : Handle} {before : List Handle} (named : k.isNull = false)
    (other : k ≠ refused) (first : k ∉ before) (after : List Handle) :
    ∃ rest, standIns refused (before ++ k :: after) = standIns refused before ++ k :: rest := by
  obtain ⟨rest, erased⟩ := eraseDups_of_first first after
  refine ⟨rest.filter fun k => !k.isNull && k != refused, ?_⟩
  unfold standIns
  rw [erased, List.filter_append, List.filter_cons_of_pos (by simp [named, other])]

/-- A stand-in that is not eligible is not willing. -/
theorem unwilling_standIns {refused : Handle} {windows : List Handle}
    (none : ∀ k ∈ windows, ¬ Eligible s.env refused k) :
    ∀ k ∈ standIns refused windows, ¬ Willing s.env k := by
  intro k member willing
  obtain ⟨listed, named, other⟩ := mem_standIns_iff.mp member
  exact none k listed ⟨named, other, willing⟩

/-- Which windows are asked in place of one that refused, and where focus goes then. -/
structure Picks (s : Scene) (refused : Handle) (windows : List Handle) (u t : Scene) : Prop where
  polled : s.Polled windows u
  settles : u.Settles ((s.candidates.find? fun k => Eligible s.env refused k).getD desktop) t
  sublist : windows.Sublist (standIns refused s.candidates)
  mem_iff : ∀ k, k ∈ windows ↔ canActivate s.env k = true ∧ k ≠ refused ∧ ∃ before after,
    s.candidates = before ++ k :: after ∧ ∀ j ∈ before, ¬ Eligible s.env refused j

/-- Focus goes to the first eligible candidate. The windows up to it that may be activated are asked. -/
theorem picks_of_eligible (granted : s.canGrab.2 = true) {refused k : Handle}
    (found : (s.candidates.find? fun k => Eligible s.env refused k) = some k) :
    ∃ windows u, s.Picks refused windows u (s.activateFallback event refused time) := by
  obtain ⟨eligible, before, after, split, none⟩ := List.find?_eq_some_iff_append.mp found
  simp only [decide_eq_true_eq, Bool.not_eq_true', decide_eq_false_iff_not] at eligible none
  obtain ⟨named, other, willing⟩ := eligible
  have first : k ∉ before := fun member => none k member ⟨named, other, willing⟩
  obtain ⟨rest, erased⟩ := standIns_of_first named other first after
  rw [← split] at erased
  let passed := standIns refused before
  -- the window that takes focus was asked as well, after those that are passed over
  have polled := s.polled_askInTurn (passed ++ [k])
  refine ⟨_, _, polled, ?_, ?_, fun j => ?_⟩
  · have asked := (s.polled_askInTurn passed).asked
    have last : s.askInTurn (passed ++ [k]) = ((s.askInTurn passed).agreesToActivate k).1 :=
      List.foldl_append
    rw [found, last]
    unfold activateFallback
    rw [fallbacks_eq, erased, s.activateFirst_append event time (s.unwilling_standIns none),
      activateFirst_cons _ ((willing_iff_of_asked asked.env k).mpr willing), ← last]
    exact settles_giveFocus _ (polled.asked.granted.trans granted)
  · rw [erased]
    refine List.filter_sublist.trans ?_
    exact (List.Sublist.refl passed).append (List.singleton_sublist.mpr List.mem_cons_self)
  · rw [split, mem_upto_first_iff none ⟨named, other, willing⟩ after j, List.mem_filter, List.mem_append,
      List.mem_append, List.mem_singleton, mem_standIns_iff]
    constructor
    · rintro ⟨⟨listed, -, apart⟩ | rfl, able⟩
      · exact ⟨able, apart, .inl listed⟩
      · exact ⟨able, other, .inr rfl⟩
    · rintro ⟨able, apart, listed | last⟩
      · exact ⟨.inl ⟨listed, named_of_canActivate able, apart⟩, able⟩
      · exact ⟨.inr last, able⟩

/-- If no candidate is eligible, all that may be activated are asked. -/
theorem picks_of_none {refused : Handle}
    (found : (s.candidates.find? fun k => Eligible s.env refused k) = none) :
    ∃ windows u, s.Picks refused windows u (s.activateFallback event refused time) := by
  have none : ∀ k ∈ s.candidates, ¬ Eligible s.env refused k := fun k member =>
    of_decide_eq_false (eq_false_of_ne_true (List.find?_eq_none.mp found k member))
  refine ⟨_, _, s.polled_askInTurn (standIns refused s.candidates), ?_, List.filter_sublist, fun k => ?_⟩
  · have through := s.activateFirst_append event time (s.unwilling_standIns none) []
    rw [List.append_nil] at through
    rw [found]
    unfold activateFallback
    rw [fallbacks_eq, through]
    exact ⟨rfl, rfl, rfl⟩
  · rw [List.mem_filter, mem_standIns_iff]
    constructor
    · rintro ⟨⟨listed, -, apart⟩, able⟩
      obtain ⟨before, after, split⟩ := List.append_of_mem listed
      exact ⟨able, apart, before, after, split, fun j earlier =>
        none j (split ▸ List.mem_append_left _ earlier)⟩
    · rintro ⟨able, apart, before, after, split, -⟩
      have listed : k ∈ s.candidates := split ▸ List.mem_append_right _ List.mem_cons_self
      exact ⟨⟨listed, named_of_canActivate able, apart⟩, able⟩

theorem picks_fallback (event : EventRecord) (time : Timestamp) (granted : s.canGrab.2 = true)
    (refused : Handle) :
    ∃ windows u, s.Picks refused windows u (s.activateFallback event refused time) := by
  cases found : s.candidates.find? fun k => Eligible s.env refused k with
  | some k => exact s.picks_of_eligible granted found
  | none => exact s.picks_of_none found

variable {s} in
/-- The candidates are the same after questions, and so is their eligibility. -/
theorem Picks.of_asked {t u v : Scene} {refused : Handle} {windows : List Handle} (asked : s.Asked t)
    (picks : t.Picks refused windows u v) :
    u.Settles ((s.candidates.find? fun k => Eligible s.env refused k).getD desktop) v ∧
      windows.Nodup ∧ windows.Sublist s.candidates ∧
      ∀ k, k ∈ windows ↔ canActivate s.env k = true ∧ k ≠ refused ∧ ∃ before after,
        s.candidates = before ++ k :: after ∧ ∀ j ∈ before, ¬ Eligible s.env refused j := by
  have same : t.candidates = s.candidates := by
    unfold candidates
    rw [Environment.ancestorRoot_congr asked.env.windows, asked.seat,
      asked.env.keeps Environment.focus fun _ => rfl, asked.env.keeps Environment.active fun _ => rfl]
  have eligible : ∀ k, Eligible t.env refused k ↔ Eligible s.env refused k := fun k =>
    and_congr_right fun _ => and_congr_right fun _ => willing_iff_of_asked asked.env k
  have able : canActivate t.env = canActivate s.env := funext (canActivate_congr asked.env.windows)
  obtain ⟨-, settles, sublist, mem_iff⟩ := picks
  simp only [eligible, able, same] at settles mem_iff
  refine ⟨settles, sublist.nodup (nodup_standIns _ _), ?_, mem_iff⟩
  exact same ▸ sublist.trans (standIns_sublist _ _)

/-- A window that is offered focus and does not take it is asked if it may be activated, and then passed
over. -/
theorem takeFocus_of_unwilling (other : h ≠ desktop) (unwilling : ¬ Willing s.env h) :
    s.takeFocus h event time = (s.agreesToActivate h).1.activateFallback event h time := by
  have refused : (s.agreesToActivate h).2 = false := by
    rw [← Bool.not_eq_true, s.agreesToActivate_iff]
    exact unwilling
  unfold takeFocus
  rw [show s.agreesToActivate h = ((s.agreesToActivate h).1, false) from Prod.ext rfl refused]
  dsimp only
  rw [if_neg (by simpa using other)]

/-- Focus that is offered to a window which does not take it goes to the first of the candidates that is
eligible, and to the desktop if none is. Each window is asked once at most, and none after the one that
focus goes to. -/
theorem offered_focus_falls_back (acyclic : s.env.Acyclic) (offers : event.OffersFocus)
    (about : target s.env event = h) (named : h.isNull = false) (other : h ≠ desktop)
    (unwilling : ¬ Willing s.env h)
    (granted : s.seat.config.pointer.grabPointer = false ∨ s.seat.input.isClipping = true ∨
      s.env.probeSucceeds = true) :
    let t := (s.dispatch event).1
    ∃ top, (if s.env.focus.isNull then top = Handle.null else s.env.RootedAt s.env.focus top) ∧
      let candidates := [top, s.env.active, s.seat.input.lastFocus]
      t.env.foreground = (candidates.find? fun k => Eligible s.env h k).getD desktop ∧
      ∃ windows : List Handle, windows.Nodup ∧ windows.Sublist (h :: candidates) ∧
        (∀ k, k ∈ windows ↔ canActivate s.env k = true ∧ (k = h ∨ ∃ before after,
          candidates = before ++ k :: after ∧ ∀ j ∈ before, ¬ Eligible s.env h j)) ∧
        t.env.journal.messages = s.env.journal.messages ++
          (windows.filter fun k => !s.env.unresponsive.contains k).map (offerTo s.env) ∧
        t.env.tick = (tickAfter s.seat.config.focus.probeTimeout)^[windows.countP
          s.env.unresponsive.contains] s.env.tick := by
  obtain ⟨e, time, kind, format, protocol⟩ := offers
  let received := s.receiving event
  let first := (received.agreesToActivate h).1
  have handled : (received.handle (target s.env event) event).1 = first.activateFallback event h time := by
    rw [about]
    unfold handle
    rw [kind]
    dsimp only
    unfold clientMessage
    rw [named, format, protocol]
    exact takeFocus_of_unwilling received other unwilling
  have polled : received.Polled ([h].filter (canActivate s.env)) first := received.polled_agreesToActivate h
  have grabbed : first.canGrab.2 = true := by
    rw [polled.asked.granted, canGrab_snd]
    rcases granted with off | clipping | succeeds
    · rw [show received.seat.config.pointer.grabPointer = false from off]
      rfl
    · rw [show received.seat.input.isClipping = true from clipping, Bool.or_true]
      rfl
    · rw [show received.env.probeSucceeds = true from succeeds, Bool.or_true]
  obtain ⟨windows, u, picks⟩ := first.picks_fallback event time grabbed h
  obtain ⟨settles, nodup, sublist, mem_iff⟩ := picks.of_asked polled.asked
  have all := polled.trans picks.polled
  rw [s.fst_dispatch handled]
  generalize first.activateFallback event h time = t at settles
  refine ⟨if s.env.focus.isNull then Handle.null else s.env.ancestorRoot s.env.focus, ?_,
    settles.foreground, [h].filter (canActivate s.env) ++ windows, ?_, ?_, fun k => ?_, ?_, ?_⟩
  · split
    · rfl
    · exact acyclic.rootedAt s.env.focus
  · refine List.nodup_append.mpr ⟨(List.nodup_singleton h).filter _, nodup, ?_⟩
    rintro k own j member rfl
    obtain rfl := List.mem_singleton.mp (List.mem_of_mem_filter own)
    exact ((mem_iff k).mp member).2.1 rfl
  · exact List.filter_sublist.append sublist
  · have others := mem_iff k
    rw [List.mem_append, List.mem_filter, List.mem_singleton, others]
    constructor
    · rintro (⟨rfl, able⟩ | ⟨able, -, place⟩)
      · exact ⟨able, .inl rfl⟩
      · exact ⟨able, .inr place⟩
    · rintro ⟨able, own | place⟩
      · exact .inl ⟨own, able⟩
      · by_cases own : k = h
        · exact .inl ⟨own, able⟩
        · exact .inr ⟨able, own, place⟩
  · exact settles.messages.trans all.messages
  · exact settles.tick.trans all.tick

/-- A seat with three windows. The first two decline focus and the third does not answer. The guest's focus
is in the second, which also lost the host's last, and the third is active. -/
def reluctant : Scene :=
  let s := alone ⟨0, 0, 1920, 1080⟩
  let (env, one, _) := s.env.createWindow WindowStyle.visible ⟨10, 10, 110, 60⟩
  let (env, two, _) := env.createWindow WindowStyle.visible ⟨200, 10, 300, 60⟩
  let (env, three, _) := env.createWindow WindowStyle.visible ⟨400, 10, 500, 60⟩
  let refusal (h : Handle) : (Handle × GuestMessage) × MessageReply :=
    ((h, .mouseActivate h .menu), .activate .noActivate)
  { seat := { s.seat with input := { s.seat.input with lastFocus := two } }
    env := { env with
      focus := two, active := three, unresponsive := [three],
      replies := OrderedMap.ofList [refusal one, refusal two] } }

/-- Focus that is offered to the first window goes to the third. The second is asked once. -/
theorem reluctant_falls_back :
    let offer : EventRecord :=
      { serial := ⟨1⟩
        window := ⟨0x04000001⟩
        kind := .clientMessage { format := 32, message := .wmProtocols .takeFocus 0 } }
    let t := (reluctant.dispatch offer).1
    t.env.foreground = ⟨0x20004⟩ ∧
      t.env.journal.messages = [offerTo reluctant.env ⟨0x20000⟩, offerTo reluctant.env ⟨0x20002⟩] ∧
      t.env.tick = reluctant.env.tick + reluctant.seat.config.focus.probeTimeout := by
  intro offer t
  have acyclic : reluctant.env.Acyclic := by decide +kernel
  have unwilling : ¬ Willing reluctant.env ⟨0x20000⟩ := by decide +kernel
  have about : target reluctant.env offer = ⟨0x20000⟩ := by decide +kernel
  obtain ⟨top, rooted, foreground, -⟩ := offered_focus_falls_back reluctant acyclic ⟨_, 0, rfl, rfl, rfl⟩
    about rfl (by decide) unwilling (.inr (.inr rfl))
  have second : top = ⟨0x20002⟩ :=
    (rooted.unique (acyclic.rootedAt _)).trans (by decide +kernel)
  rw [second] at foreground
  exact ⟨foreground.trans (by decide +kernel), by decide +kernel, by decide +kernel⟩

end Scene

end GuestSeat
