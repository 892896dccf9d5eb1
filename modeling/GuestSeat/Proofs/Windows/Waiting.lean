import GuestSeat.Proofs.Clip.Run
import GuestSeat.Proofs.Windows.Frame
import GuestSeat.Proofs.Windows.Withdrawal

/-!
What a wait for a withdrawal does by the time it is over. It takes events about one host window out of
the queue and notes what they say of the window's state; all else is left as it was, and nothing is said
to anyone. A wait that succeeds has seen the window where it should be, or gone, and one that fails has
used up its time and read all there was to read.
-/

namespace GuestSeat

/-- A list from which some elements of a kind were taken. The others are still there in their order. -/
inductive Thinned {α : Type} (P : α → Prop) : List α → List α → Prop
  | none : Thinned P [] []
  | kept (a : α) {before after : List α} (more : Thinned P before after) :
      Thinned P (a :: before) (a :: after)
  | taken {a : α} {before after : List α} (kind : P a) (more : Thinned P before after) :
      Thinned P (a :: before) after

namespace Thinned

variable {α : Type} {P Q : α → Prop} {xs ys zs ws : List α}

theorem refl (P : α → Prop) (xs : List α) : Thinned P xs xs := by
  induction xs with
  | nil => exact .none
  | cons x rest ih => exact .kept x ih

theorem trans (first : Thinned P xs ys) (second : Thinned P ys zs) : Thinned P xs zs := by
  induction first generalizing zs with
  | none => exact second
  | kept a more ih =>
      cases second with
      | kept _ rest => exact .kept a (ih rest)
      | taken kind rest => exact .taken kind (ih rest)
  | taken kind more ih => exact .taken kind (ih second)

theorem append (first : Thinned P xs ys) (second : Thinned P zs ws) :
    Thinned P (xs ++ zs) (ys ++ ws) := by
  induction first with
  | none => exact second
  | kept a more ih => exact .kept a ih
  | taken kind more ih => exact .taken kind ih

theorem length_le (thinned : Thinned P xs ys) : ys.length ≤ xs.length := by
  induction thinned with
  | none => exact Nat.le_refl _
  | kept a more ih => exact Nat.succ_le_succ ih
  | taken kind more ih => exact Nat.le_succ_of_le ih

theorem mono (thinned : Thinned P xs ys) (weaker : ∀ a, P a → Q a) : Thinned Q xs ys := by
  induction thinned with
  | none => exact .none
  | kept a more ih => exact .kept a ih
  | taken kind more ih => exact .taken (weaker _ kind) ih

/-- To filter a list is to thin it out. -/
theorem filter (p : α → Bool) (xs : List α) : Thinned (fun a => p a = false) xs (xs.filter p) := by
  induction xs with
  | nil => exact .none
  | cons x rest ih =>
      cases keep : p x with
      | true =>
          rw [List.filter_cons_of_pos keep]
          exact .kept x ih
      | false =>
          rw [List.filter_cons_of_neg (by simp [keep])]
          exact .taken keep ih

end Thinned

namespace Scene

variable {s t u : Scene} {h : Handle} {host : HostWindow}

structure Touched (h : Handle) (s t : Scene) : Prop where
  env : t.env = s.env
  seat : t.seat = { s.seat with windows := t.seat.windows }
  others : ∀ k, k ≠ h → t.seat.windows.get? k = s.seat.windows.get? k

def Recorded (h : Handle) (s t : Scene) : Prop :=
  t.seat.windows.get? h = s.seat.windows.get? h ∨
    ∃ state, t.seat.windows.get? h = some { s.window h with wmState := state }

structure Noted (h : Handle) (s t : Scene) : Prop extends Touched h s t where
  own : s.Recorded h t

structure Forgotten (h : Handle) (s t : Scene) : Prop extends Touched h s t where
  gone : t.seat.windows.get? h = none

theorem Touched.trans (first : Touched h s t) (second : Touched h t u) : Touched h s u := by
  refine ⟨second.env.trans first.env, ?_, ?_⟩
  · rw [second.seat, first.seat]
  · intro k other
    exact (second.others k other).trans (first.others k other)

theorem Recorded.trans (first : s.Recorded h t) (second : t.Recorded h u) : s.Recorded h u := by
  obtain same | ⟨state, changed⟩ := second
  · obtain before | ⟨state, before⟩ := first
    · exact Or.inl (same.trans before)
    · exact Or.inr ⟨state, same.trans before⟩
  · obtain before | ⟨_, before⟩ := first
    · exact Or.inr ⟨state, by rw [changed, window_get?_congr before]⟩
    · exact Or.inr ⟨state, by rw [changed, window_of_get? before]⟩

theorem Noted.refl (h : Handle) (s : Scene) : Noted h s s :=
  ⟨⟨rfl, rfl, fun _ _ => rfl⟩, Or.inl rfl⟩

theorem Noted.trans (first : Noted h s t) (second : Noted h t u) : Noted h s u :=
  ⟨first.toTouched.trans second.toTouched, first.own.trans second.own⟩

theorem forgotten_forgetWindow (s : Scene) (h : Handle) : Forgotten h s (s.forgetWindow h) := by
  refine ⟨⟨rfl, rfl, ?_⟩, ?_⟩
  · intro k other
    rw [get?_forgetWindow, if_neg other]
  · rw [get?_forgetWindow, if_pos rfl]

theorem noted_wmStateChanged (s : Scene) (h : Handle) (change : PropertyChange) :
    Noted h s (s.wmStateChanged h change false) := by
  unfold wmStateChanged
  split
  · exact .refl h s
  split
  · exact .refl h s
  next w _ =>
  have observed : Noted h s (s.observeWmState h w change).1 := by
    obtain ⟨state, seen⟩ := observe_fst (s.window h) change (s.env.wmState? w)
    refine ⟨⟨rfl, rfl, fun k other => s.get?_editWindow_of_ne other _⟩, Or.inr ⟨state, ?_⟩⟩
    rw [← seen]
    exact s.get?_editWindow h _
  split
  all_goals
    next t told =>
      rw [told] at observed
      exact observed

def ReadsEnd (host : HostWindow) (before after : List EventRecord) : Prop :=
  ∃ first event rest left, before = first ++ event :: rest ∧ TellsOfEnd host event ∧
    Thinned (IsAbout host) first left ∧ after = left ++ rest

theorem ReadsEnd.exists_end {before after : List EventRecord} (read : ReadsEnd host before after) :
    ∃ event ∈ before, TellsOfEnd host event := by
  obtain ⟨first, event, rest, -, rfl, ending, -⟩ := read
  exact ⟨event, by simp, ending⟩

/-- Reading takes the event out of the queue. -/
theorem ReadsEnd.ne {before after : List EventRecord} (read : ReadsEnd host before after) :
    after ≠ before := by
  obtain ⟨first, event, rest, left, rfl, -, thinned, rfl⟩ := read
  intro same
  have lengths := congrArg List.length same
  have shorter := thinned.length_le
  simp only [List.length_append, List.length_cons] at lengths
  omega

theorem ReadsEnd.thinned {before after : List EventRecord} (read : ReadsEnd host before after) :
    Thinned (IsAbout host) before after := by
  obtain ⟨first, event, rest, left, rfl, ending, thinned, rfl⟩ := read
  exact thinned.append (.taken ending.isAbout (.refl _ rest))

theorem ReadsEnd.after {event : EventRecord} {before after : List EventRecord}
    (read : ReadsEnd host before after) (about : IsAbout host event) :
    ReadsEnd host (event :: before) after := by
  obtain ⟨first, ending, rest, left, rfl, tells, thinned, rfl⟩ := read
  exact ⟨event :: first, ending, rest, left, rfl, tells, .taken about thinned, rfl⟩

theorem ReadsEnd.beside (event : EventRecord) {before after : List EventRecord}
    (read : ReadsEnd host before after) : ReadsEnd host (event :: before) (event :: after) := by
  obtain ⟨first, ending, rest, left, rfl, tells, thinned, rfl⟩ := read
  exact ⟨event :: first, ending, rest, event :: left, rfl, tells, .kept event thinned, rfl⟩

/-- As long as the window is there, a look at the queue notes what the events say. -/
theorem noted_takeStates {events : List EventRecord}
    (there : (s.takeStates h host events).2.2 = false) :
    Noted h s (s.takeStates h host events).1 := by
  induction events generalizing s with
  | nil => exact .refl h s
  | cons event rest ih =>
      obtain ⟨-, taken⟩ | ⟨e, -, -, taken⟩ | ⟨-, left⟩ := s.takeStates_cons h host event rest
      · rw [taken] at there
        cases there
      · rw [taken] at there ⊢
        exact (s.noted_wmStateChanged h e.change).trans (ih there)
      · rw [left] at there ⊢
        exact ih there

/-- A look at the queue that comes upon the end of the window forgets it and reads no further. -/
theorem forgotten_takeStates {events : List EventRecord}
    (gone : (s.takeStates h host events).2.2 = true) :
    Forgotten h s (s.takeStates h host events).1 ∧
      ReadsEnd host events (s.takeStates h host events).2.1 := by
  induction events generalizing s with
  | nil => cases gone
  | cons event rest ih =>
      obtain ⟨ending, taken⟩ | ⟨e, -, about, taken⟩ | ⟨-, left⟩ :=
        s.takeStates_cons h host event rest
      · rw [taken]
        exact ⟨s.forgotten_forgetWindow h, [], event, rest, [], rfl, ending, .none, rfl⟩
      · rw [taken] at gone ⊢
        obtain ⟨forgotten, read⟩ := ih gone
        have noted := s.noted_wmStateChanged h e.change
        exact ⟨⟨noted.toTouched.trans forgotten.toTouched, forgotten.gone⟩, read.after about⟩
      · rw [left] at gone ⊢
        obtain ⟨forgotten, read⟩ := ih gone
        exact ⟨forgotten, read.beside event⟩

/-- Whether there is nothing to wait for: the window is gone or of no concern to the window manager, or
it is mapped or withdrawn as it should be. -/
inductive Arrived (s : Scene) (h : Handle) (withdrawn : Bool) : Prop
  | unknown (absent : s.env.info? h = none)
  | unmanaged {info : WindowInfo} (known : s.env.info? h = some info) (own : info.managed = false)
  | embedded {info : WindowInfo} (known : s.env.info? h = some info) (inside : info.embedded = true)
  | hostless {info : WindowInfo} (known : s.env.info? h = some info) (bare : info.host = none)
  | mapped {info : WindowInfo} (known : s.env.info? h = some info) (shown : info.mapped = withdrawn)
  | state (same : (s.window h).wmState = .withdrawn ↔ withdrawn = true)

theorem isSettled_iff (s : Scene) (h : Handle) (withdrawn : Bool) :
    s.isSettled h withdrawn = true ↔ s.Arrived h withdrawn := by
  have state : (((s.window h).wmState == .withdrawn) == withdrawn) = true ↔
      ((s.window h).wmState = .withdrawn ↔ withdrawn = true) := by
    rw [beq_iff_eq, Bool.eq_iff_iff, beq_iff_eq]
  unfold isSettled
  constructor
  · intro settled
    split at settled
    · next absent => exact .unknown absent
    · next info known =>
        simp only [Bool.or_eq_true, Bool.not_eq_true', Option.isNone_iff_eq_none] at settled
        obtain (((own | inside) | bare) | shown) | same := settled
        · exact .unmanaged known own
        · exact .embedded known inside
        · exact .hostless known bare
        · exact .mapped known (beq_iff_eq.mp shown)
        · exact .state (state.mp same)
  · intro arrived
    cases arrived with
    | unknown absent => rw [absent]
    | unmanaged known own => simp [known, own]
    | embedded known inside => simp [known, inside]
    | hostless known bare => simp [known, bare]
    | mapped known shown => simp [known, shown]
    | state same =>
        split
        · rfl
        · rw [state.mpr same, Bool.or_true]

theorem not_arrived_of_unsettled {withdrawn : Bool} (unsettled : ¬ s.isSettled h withdrawn = true) :
    ¬ s.Arrived h withdrawn :=
  mt (s.isSettled_iff h withdrawn).mpr unsettled

theorem arrived_of_host? (withdrawn : Bool) (bare : s.env.host? h = none) : s.Arrived h withdrawn := by
  unfold Environment.host? at bare
  cases known : s.env.info? h with
  | none => exact .unknown known
  | some info =>
      rw [known] at bare
      exact .hostless known bare

/-- Where a window is shows in its description and in what is known of it. -/
theorem Arrived.congr {withdrawn : Bool} (info : t.env.info? h = s.env.info? h)
    (window : t.window h = s.window h) (arrived : t.Arrived h withdrawn) : s.Arrived h withdrawn := by
  rw [← isSettled_iff] at arrived ⊢
  unfold isSettled at arrived ⊢
  rwa [info, window] at arrived

/-- Whether an event is about the host window of a window. -/
def Hears (s : Scene) (h : Handle) (event : EventRecord) : Prop :=
  ∃ host, s.env.host? h = some host ∧ IsAbout host event

/-- Whether the end of a window was read, of which nothing is known any more. -/
def LosesWindow (s : Scene) (h : Handle) (t : Scene) : Prop :=
  t.seat.windows.get? h = none ∧
    ∃ host, s.env.host? h = some host ∧ ReadsEnd host s.env.queue t.env.queue

/-- What became of a scene while a window was waited for. Time passed, and events about the window's
host window were taken; what is known of the window follows them, and everything else is as it was. -/
structure WaitedFor (h : Handle) (s t : Scene) : Prop where
  env : t.env = { s.env with queue := t.env.queue, tick := t.env.tick, signaled := t.env.signaled }
  seat : t.seat = { s.seat with windows := t.seat.windows }
  queue : Thinned (s.Hears h) s.env.queue t.env.queue
  others : ∀ k, k ≠ h → t.seat.windows.get? k = s.seat.windows.get? k
  own : s.Recorded h t ∨ s.LosesWindow h t

theorem WaitedFor.refl (h : Handle) (s : Scene) : WaitedFor h s s :=
  ⟨rfl, rfl, .refl _ _, fun _ _ => rfl, Or.inl (Or.inl rfl)⟩

theorem WaitedFor.host? (waited : WaitedFor h s t) (k : Handle) : t.env.host? k = s.env.host? k :=
  congrArg (·.host? k) waited.env

/-- Under a known host window, what is heard of a window is what is about that host window. -/
theorem hears_iff (known : s.env.host? h = some host) (event : EventRecord) :
    s.Hears h event ↔ IsAbout host event := by
  unfold Hears
  simp [known]

theorem not_hears_of_silent (known : s.env.host? h = some host)
    (silent : ∀ event ∈ s.env.queue, ¬ IsAbout host event) :
    ∀ event ∈ s.env.queue, ¬ s.Hears h event := by
  intro event present
  rw [hears_iff known]
  exact silent event present

theorem LosesWindow.exists_end (lost : s.LosesWindow h t) (known : s.env.host? h = some host) :
    ∃ event ∈ s.env.queue, TellsOfEnd host event := by
  obtain ⟨-, own, same, read⟩ := lost
  cases known.symm.trans same
  exact read.exists_end

theorem not_losesWindow_of_silent (silent : ∀ event ∈ s.env.queue, ¬ s.Hears h event) :
    ¬ s.LosesWindow h t := by
  rintro ⟨-, host, known, read⟩
  obtain ⟨event, present, ending⟩ := read.exists_end
  exact silent event present ⟨host, known, ending.isAbout⟩

/-- A wait can go on if the window is still there and nothing about it is left in the queue. -/
theorem WaitedFor.trans (first : WaitedFor h s t) (recorded : s.Recorded h t)
    (silent : ∀ event ∈ t.env.queue, ¬ t.Hears h event) (second : WaitedFor h t u) :
    WaitedFor h s u := by
  have hears : ∀ event, t.Hears h event → s.Hears h event := by
    rintro event ⟨host, known, about⟩
    exact ⟨host, (first.host? h).symm.trans known, about⟩
  refine ⟨?env, ?seat, first.queue.trans (second.queue.mono hears), ?others, ?own⟩
  case env => rw [second.env, first.env]
  case seat => rw [second.seat, first.seat]
  case others => exact fun k other => (second.others k other).trans (first.others k other)
  case own =>
    obtain more | lost := second.own
    · exact Or.inl (recorded.trans more)
    · exact absurd lost (not_losesWindow_of_silent silent)

/-- To take what is read out of the queue and to note it is to wait. -/
theorem waitedFor_noting (touched : Touched h s (s.takeStates h host s.env.queue).1)
    (queue : Thinned (s.Hears h) s.env.queue (s.takeStates h host s.env.queue).2.1)
    (own : s.Recorded h (s.takeStates h host s.env.queue).1 ∨ s.LosesWindow h (s.noting h host)) :
    WaitedFor h s (s.noting h host) := by
  have env := s.env_noting h host
  have left : (s.noting h host).env.queue = (s.takeStates h host s.env.queue).2.1 := by rw [env]
  refine ⟨?_, touched.seat, by rwa [left], touched.others, own⟩
  rw [left, env]

/-- A look at the queue that comes upon the end of the window. -/
theorem loses_noting (known : s.env.host? h = some host)
    (ending : ∃ event ∈ s.env.queue, TellsOfEnd host event) :
    WaitedFor h s (s.noting h host) ∧ s.LosesWindow h (s.noting h host) := by
  obtain ⟨forgotten, read⟩ :=
    forgotten_takeStates ((s.gone_takeStates_iff h host s.env.queue).mpr ending)
  have lost : s.LosesWindow h (s.noting h host) := by
    refine ⟨forgotten.gone, host, known, ?_⟩
    rw [env_noting]
    exact read
  refine ⟨waitedFor_noting forgotten.toTouched ?_ (Or.inr lost), lost⟩
  exact read.thinned.mono fun event about => ⟨host, known, about⟩

/-- A look at the queue that does not. -/
theorem keeps_noting (known : s.env.host? h = some host)
    (unended : ∀ event ∈ s.env.queue, ¬ TellsOfEnd host event) :
    WaitedFor h s (s.noting h host) ∧ s.Recorded h (s.noting h host) ∧
      ∀ event ∈ (s.noting h host).env.queue, ¬ (s.noting h host).Hears h event := by
  have there := there_of_unended (h := h) unended
  have noted := noted_takeStates there
  refine ⟨waitedFor_noting noted.toTouched ?_ (Or.inl noted.own), noted.own, ?_⟩
  · rw [s.left_takeStates h host there]
    refine (Thinned.filter _ s.env.queue).mono fun event taken => ⟨host, known, ?_⟩
    exact (tellsOfState_iff host event).mp (by simpa using taken)
  · have hosts : (s.noting h host).env.host? h = some host := by
      rw [env_noting]
      exact known
    exact not_hears_of_silent hosts fun event present =>
      ((mem_queue_noting unended event).mp present).2

section
variable {withdrawn reached : Bool} {deadline fuel : Nat}

/-- What the rounds of a wait come to, whether the window arrives or time runs out. -/
theorem waited_withdrawalRounds (timely : deadline ≤ Environment.tickLimit)
    (ended : withdrawalRounds h withdrawn deadline fuel s = some (t, reached)) :
    WaitedFor h s t ∧ t.env.tick ≤ max s.env.tick deadline ∧
      (reached = true → t.Arrived h withdrawn ∨ s.LosesWindow h t) ∧
      (reached = false → deadline ≤ t.env.tick ∧ ¬ t.Arrived h withdrawn ∧ ¬ s.LosesWindow h t ∧
        ∀ event ∈ t.env.queue, ¬ s.Hears h event) := by
  induction fuel generalizing s with
  | zero => cases ended
  | succ fuel ih =>
      unfold withdrawalRounds at ended
      split at ended
      · next settled =>
          cases ended
          have arrived := (t.isSettled_iff h withdrawn).mp settled
          exact ⟨.refl h t, Nat.le_max_left _ _, fun _ => Or.inl arrived, by simp⟩
      next unsettled =>
      have astray := not_arrived_of_unsettled unsettled
      split at ended
      · next bare => exact absurd (arrived_of_host? withdrawn bare) astray
      next host known =>
      have time : (s.noting h host).env.tick = s.env.tick := by rw [env_noting]
      have look := s.look_withdrawalRound h host deadline
      generalize s.withdrawalRound h host deadline = round at look ended
      cases look with
      | gone ending =>
          cases ended
          obtain ⟨waited, lost⟩ := loses_noting known ending
          refine ⟨waited, ?_, fun _ => Or.inr lost, by simp⟩
          rw [time]
          exact Nat.le_max_left _ _
      | noted unended telling =>
          obtain ⟨first, recorded, silent⟩ := keeps_noting known unended
          obtain ⟨waited, late, success, failure⟩ := ih ended
          rw [time] at late
          refine ⟨first.trans recorded silent waited, late, fun got => ?_, fun missed => ?_⟩
          · exact (success got).imp_right fun lost => absurd lost (not_losesWindow_of_silent silent)
          · obtain ⟨due, away, -, unheard⟩ := failure missed
            refine ⟨due, away, fun lost => ?_, fun event present => ?_⟩
            · obtain ⟨event, present, ending⟩ := lost.exists_end known
              exact unended event present ending
            · rintro ⟨own, same, about⟩
              exact unheard event present ⟨own, (first.host? h).trans same, about⟩
      | late silent expired =>
          cases ended
          have unheard := not_hears_of_silent known silent
          refine ⟨.refl h t, Nat.le_max_left _ _, by simp, fun _ => ?_⟩
          exact ⟨expired, astray, not_losesWindow_of_silent unheard, unheard⟩
      | idle silent early empty =>
          cases ended
          have unheard := not_hears_of_silent known silent
          have due : min (s.env.tick + (deadline - s.env.tick)) Environment.tickLimit = deadline := by
            omega
          refine ⟨⟨rfl, rfl, .refl _ _, fun _ _ => rfl, Or.inl (Or.inl rfl)⟩, ?_, by simp, fun _ => ?_⟩
          · exact Nat.le_trans (Nat.le_of_eq due) (Nat.le_max_right _ _)
          · refine ⟨Nat.le_of_eq due.symm, fun arrived => astray ?_,
              not_losesWindow_of_silent unheard, unheard⟩
            refine arrived.congr ?_ ?_ <;> rfl
      | stuck _ _ _ => cases ended

/-- A wait loses the window if it looks at the queue and comes upon the end of the window. -/
theorem losesWindow_iff
    (ended : withdrawalRounds h withdrawn deadline fuel s = some (t, reached)) :
    s.LosesWindow h t ↔ s.isSettled h withdrawn = false ∧
      ∃ host, s.env.host? h = some host ∧ ∃ event ∈ s.env.queue, TellsOfEnd host event := by
  cases fuel with
  | zero => cases ended
  | succ fuel =>
      unfold withdrawalRounds at ended
      split at ended
      · next settled =>
          cases ended
          refine iff_of_false ?_ (by simp [settled])
          rintro ⟨-, host, -, read⟩
          exact read.ne rfl
      next unsettled =>
      split at ended
      · next bare =>
          exact absurd (arrived_of_host? withdrawn bare) (not_arrived_of_unsettled unsettled)
      next host known =>
      rw [and_iff_right (eq_false_of_ne_true unsettled)]
      constructor
      · exact fun lost => ⟨host, known, lost.exists_end known⟩
      · rintro ⟨own, same, event, present, ending⟩
        cases known.symm.trans same
        have look := s.look_withdrawalRound h host deadline
        generalize s.withdrawalRound h host deadline = round at look ended
        cases look with
        | gone ending =>
            cases ended
            exact (loses_noting known ending).2
        | noted unended _ => exact absurd ending (unended event present)
        | late silent _ | idle silent _ _ | stuck silent _ _ =>
            exact absurd ending.isAbout (silent event present)

/-- What a note of the state property leaves of a window's state is as it was after a wait, unless the
wait lost the window. -/
theorem view_withdrawalRounds {α : Type} (view : ManagedState → α)
    (note : ∀ (m : ManagedState) wmState, view { m with wmState } = view m) (k : Handle)
    (timely : deadline ≤ Environment.tickLimit)
    (ended : withdrawalRounds h withdrawn deadline fuel s = some (t, reached))
    (kept : ¬ (h = k ∧ s.LosesWindow h t)) : view (t.window k) = view (s.window k) := by
  obtain ⟨waited, -⟩ := waited_withdrawalRounds timely ended
  by_cases own : k = h
  · subst own
    obtain (same | ⟨state, changed⟩) | lost := waited.own
    · rw [window_get?_congr same]
    · rw [window_of_get? changed, note]
    · exact absurd ⟨rfl, lost⟩ kept
  · rw [window_get?_congr (waited.others k own)]

end

/-- The time at which a wait for a withdrawal is given up. -/
def withdrawalDeadline (s : Scene) : Nat :=
  min (s.env.tick + s.seat.config.window.waitWithdrawnTimeout) Environment.tickLimit

/-- What a wait comes to. A wait that succeeds finds the window where it should be, or has read its end;
one that fails has used up its time, and nothing about the window is left to read. -/
theorem awaitWithdrawal_upshot {withdrawn reached : Bool}
    (ended : s.awaitWithdrawal h withdrawn = some (t, reached)) :
    WaitedFor h s t ∧ (reached = true → t.Arrived h withdrawn ∨ s.LosesWindow h t) ∧
      (reached = false → s.withdrawalDeadline ≤ t.env.tick ∧ ¬ t.Arrived h withdrawn ∧
        ¬ s.LosesWindow h t ∧ ∀ event ∈ t.env.queue, ¬ s.Hears h event) := by
  obtain ⟨waited, -, success, failure⟩ := waited_withdrawalRounds (Nat.min_le_right _ _) ended
  exact ⟨waited, success, failure⟩

/-- A window whose state the host is about to tell, after an event about another window. -/
def toldLater : Scene :=
  let s := alone ⟨0, 0, 1920, 1080⟩
  let (env, _, host) := s.env.createWindow WindowStyle.visible ⟨0, 0, 800, 600⟩
  let foreign : EventRecord := { serial := ⟨1⟩, window := ⟨7⟩, kind := .destroy }
  let told : EventRecord :=
    { serial := ⟨2⟩, window := host, kind := .property { atom := .wmState, change := .newValue } }
  { s with env := { env with queue := [foreign, told] } }

/-- The wait ends at the notification, and the event about the other window stays in the queue. -/
theorem toldLater_arrives : ∃ t, toldLater.awaitWithdrawal ⟨0x20000⟩ false = some (t, true) ∧
    t.env.queue.length = 1 ∧ WaitedFor ⟨0x20000⟩ toldLater t ∧
      (t.Arrived ⟨0x20000⟩ false ∨ toldLater.LosesWindow ⟨0x20000⟩ t) := by
  obtain ⟨t, ended, left⟩ : ∃ t, toldLater.awaitWithdrawal ⟨0x20000⟩ false = some (t, true) ∧
      t.env.queue.length = 1 := ⟨_, rfl, rfl⟩
  obtain ⟨waited, success, -⟩ := awaitWithdrawal_upshot ended
  exact ⟨t, ended, left, waited, success rfl⟩

end Scene

end GuestSeat
