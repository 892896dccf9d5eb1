import GuestSeat.Proofs.Clip.FocusLoss
import GuestSeat.Proofs.Drain.Trail
import GuestSeat.Proofs.Seat.Grab

/-!
Resets of a clip from outside. A reset that the seat notes keeps it from taking the primary output on its
own until the interval has passed, whatever happens meanwhile. A request to let go of the pointer ends
the clip just as well but is not noted: the seat goes on as if the clip had ended by itself, and may take
the pointer back at once.
-/

namespace GuestSeat.Scene

open Environment (tickLimit)

variable {L : Licence} {m n since interval : Nat} {s t u v : Scene} {call : Call} {turn : Turn}

/-- Time did not run backwards, and a record of an earlier reset was replaced by a later one at most. -/
structure Onward (s t : Scene) : Prop where
  config : t.seat.config = s.seat.config
  time : s.env.tick ≤ tickLimit → s.env.tick ≤ t.env.tick ∧ t.env.tick ≤ tickLimit ∧
    (t.seat.input.clipResetAt = s.seat.input.clipResetAt ∨
      ∃ reset, t.seat.input.clipResetAt = some reset ∧ s.env.tick ≤ reset)

namespace Onward

theorem refl (s : Scene) : Onward s s := ⟨rfl, fun limit => ⟨Nat.le_refl _, limit, Or.inl rfl⟩⟩

theorem trans (first : Onward s t) (second : Onward t u) : Onward s u := by
  refine ⟨second.config.trans first.config, fun limit => ?_⟩
  obtain ⟨later, within, earlier⟩ := first.time limit
  obtain ⟨latest, within, noted⟩ := second.time within
  refine ⟨Nat.le_trans later latest, within, ?_⟩
  rcases noted with kept | ⟨reset, noted, after⟩
  · rw [kept]
    exact earlier
  · exact Or.inr ⟨reset, noted, Nat.le_trans later after⟩

theorem of_routine (h : s.Routine t) : Onward s t := by
  refine ⟨h.config, fun limit => ?_⟩
  obtain ⟨later, within⟩ := h.tick limit
  exact ⟨later, within, Or.inl h.clipResetAt⟩

theorem of_interlude {env : Environment} (h : s.Interlude env) : Onward s { s with env } := by
  refine ⟨rfl, fun limit => ?_⟩
  obtain ⟨later, within⟩ := h.tick limit
  exact ⟨later, within, Or.inl rfl⟩

theorem of_clock (config : t.seat.config = s.seat.config) (clock : t.face.clock = s.face.clock) :
    Onward s t := by
  have tick : t.env.tick = s.env.tick := congrArg Prod.fst clock
  refine ⟨config, fun limit => ?_⟩
  rw [tick]
  exact ⟨Nat.le_refl _, limit, Or.inl (congrArg Prod.snd clock)⟩

end Onward

theorem clock_release (s : Scene) (report : Bool) : (s.release report).face.clock = s.face.clock := by
  rw [face_release]
  split
  · rfl
  · exact Face.clock_without ..

theorem Deed.onward (h : Deed L n s t) : Onward s t := by
  have config : t.seat.config = s.seat.config := congrArg (fun g : Ground => g.config) h.ground
  cases h with
  | routine h => exact .of_routine h
  | touch region w => exact .of_clock config (by rw [face_visit, Face.clock_display])
  | visit h info => exact .of_clock config (by rw [face_visit, Face.clock_display])
  | confine rect => exact .of_clock config (s.grab_grabbed rect .explicit).clock
  | cover t since =>
      have still := (t.grab_grabbed t.env.primaryMonitor .fullscreen).clock
      exact (Onward.of_routine since).trans (.of_clock (config.trans since.config.symm) still)
  | release report => exact .of_clock config (s.clock_release report)
  | mark => exact ⟨rfl, fun limit => ⟨Nat.le_refl _, limit, Or.inr ⟨_, rfl, Nat.le_refl _⟩⟩⟩

theorem Deeds.onward (h : Deeds L n s t) : Onward s t :=
  h.keeps (P := Onward s) (fun deed hu => hu.trans deed.onward) (.refl s)

theorem Doings.onward (h : Doings L n s t) : Onward s t := by
  induction h with
  | deeds h => exact h.onward
  | aside queue inFlight => exact .of_clock rfl rfl
  | trans _ _ first second => exact first.trans second

theorem clipState_eq_unclipped : s.seat.input.clipState = .unclipped ↔ s.seat.input.clip = none := by
  unfold InputState.clipState ClipState.ofRegion
  split <;> simp [*]

theorem clipState_eq_fullscreen : s.seat.input.clipState = .clippingFullscreen ↔
    ∃ region, s.seat.input.clip = some region ∧ region.kind = .fullscreen := by
  unfold InputState.clipState ClipState.ofRegion
  split <;> simp [*]

theorem clipState_of_free (free : s.seat.input.clip = none) :
    s.seat.input.clipState ≠ .clippingFullscreen := by
  simp [clipState_eq_unclipped.mpr free]

structure Cooling (since interval : Nat) (s : Scene) : Prop where
  interval : s.seat.config.pointer.clipResetDebounce = interval
  later : since ≤ s.env.tick
  limit : s.env.tick ≤ tickLimit
  noted : ∃ reset, s.seat.input.clipResetAt = some reset ∧ since ≤ reset

def Waited (since interval : Nat) (s : Scene) : Prop :=
  ∀ region, s.seat.input.clip = some region → region.kind = .fullscreen →
    since + interval ≤ s.env.tick

theorem Onward.cooling (h : Onward s t) (hs : Cooling since interval s) :
    Cooling since interval t := by
  obtain ⟨later, limit, noted⟩ := h.time hs.limit
  refine ⟨by rw [h.config]; exact hs.interval, Nat.le_trans hs.later later, limit, ?_⟩
  rcases noted with kept | ⟨reset, noted, after⟩
  · rw [kept]
    exact hs.noted
  · exact ⟨reset, noted, Nat.le_trans hs.later after⟩

/-- A seat that finds the last reset far enough back has waited. -/
theorem Cooling.le_tick (h : Cooling since interval s) (debounced : s.seat.input.isDebounced s.env.tick
    s.seat.config.pointer.clipResetDebounce = true) : since + interval ≤ s.env.tick := by
  obtain ⟨reset, noted, late⟩ := h.noted
  simp only [InputState.isDebounced, noted, Option.all_some, decide_eq_true_eq, h.interval] at debounced
  have := h.later
  omega

theorem Waited.kept (hs : Waited since interval s) (clip : t.seat.input.clip = s.seat.input.clip)
    (later : s.env.tick ≤ t.env.tick) : Waited since interval t := by
  intro region held kind
  rw [clip] at held
  exact Nat.le_trans (hs region held kind) later

theorem waited_of_free (free : s.seat.input.clip = none) : Waited since interval s := by
  intro region held
  simp [free] at held

/-- The guest's own rectangle is not the primary output's clip. -/
theorem Grabbed.waited (h : Grabbed .explicit s t) (hs : Waited since interval s) :
    Waited since interval t := by
  have still : s.env.tick ≤ t.env.tick := Nat.le_of_eq (congrArg Prod.fst h.clock).symm
  have explicit : ∀ rect capture, t.seat.input.clip = some ⟨rect, capture, .explicit⟩ →
      Waited since interval t := by
    intro rect capture clip region held kind
    rw [clip] at held
    cases held
    cases kind
  cases h with
  | kept clip => exact hs.kept clip still
  | declined _ clip | ended _ _ clip => exact waited_of_free clip
  | opened rect _ clip | moved rect _ _ clip => exact explicit _ _ clip

/-- After a reset a seat takes the primary output on its own only when it has waited. -/
theorem Deed.waited (h : Deed L n s t) (careful : ¬ L.direct) (cooling : Cooling since interval s)
    (hs : Waited since interval s) : Waited since interval t := by
  obtain ⟨later, -, -⟩ := h.onward.time cooling.limit
  cases h with
  | routine h => exact hs.kept h.clip later
  | touch region w => exact hs.kept (s.quiet_visit region.captureWindow (some w)).clip later
  | visit h info => exact hs.kept (s.quiet_visit h info.host).clip later
  | confine rect => exact (s.grab_grabbed rect .explicit).waited hs
  | cover t since guard =>
      obtain ⟨debounced, -⟩ := guard.resolve_left careful
      exact fun _ _ _ => Nat.le_trans (cooling.le_tick debounced) later
  | release report => exact waited_of_free (s.clip_release report)
  | mark => exact hs.kept rfl later

theorem Doings.waited (h : Doings L m s t) (careful : ¬ L.direct) (cooling : Cooling since interval s)
    (hs : Waited since interval s) : Waited since interval t := by
  refine (h.preserves (P := fun _ u => Cooling since interval u ∧ Waited since interval u)
    (fun deed hu => ?_) id (fun queue inFlight hu => ?_) 0 ⟨cooling, hs⟩).2
  · exact ⟨deed.onward.cooling hu.1, deed.waited careful hu.1 hu.2⟩
  · exact ⟨⟨hu.1.interval, hu.1.later, hu.1.limit, hu.1.noted⟩, hu.2⟩

theorem clock_tell (s : Scene) (h : Handle) (message : GuestMessage) :
    (s.tell h message).face.clock = s.face.clock := by
  unfold tell act Environment.tell Environment.post
  dsimp only
  split
  · next delivered =>
      unfold Environment.deliver at delivered
      split at delivered
      · cases delivered
      · cases delivered
        rfl
  · rfl

/-- What is no ordinary call takes no time, and leaves the clip alone. -/
theorem call_still (taken : s.call? call = some t) (special : ¬ call.IsOrdinary) :
    t.seat.config = s.seat.config ∧ t.seat.input.clip = s.seat.input.clip ∧
      t.face.clock = s.face.clock := by
  have chosen : ∀ cursor, (s.setCursor cursor).face.clock = s.face.clock := by
    intro cursor
    unfold setCursor
    dsimp only
    split
    · exact clock_tell ..
    · rfl
  have shown : ∀ h cursor, (s.defineCursor h cursor).face.clock = s.face.clock := by
    intro h cursor
    unfold defineCursor
    split
    · rfl
    · rw [face_showCursor, Face.clock_display]
  cases s.special_of_call taken special with
  | chosen cursor =>
      exact ⟨(s.quiet_setCursor cursor).config, (s.quiet_setCursor cursor).clip, chosen cursor⟩
  | shown h cursor =>
      exact ⟨(s.quiet_defineCursor h cursor).config, (s.quiet_defineCursor h cursor).clip,
        shown h cursor⟩
  | destroyed | ignored | heard => exact ⟨rfl, rfl, rfl⟩
  | ruled => exact ⟨rfl, rfl, clock_tell ..⟩

theorem call_onward (taken : s.call? call = some t) : Onward s t := by
  by_cases ordinary : call.IsOrdinary
  · exact (s.doings_licence taken ordinary).onward
  · obtain ⟨config, -, clock⟩ := call_still taken ordinary
    exact .of_clock config clock

theorem dispatch_onward (s : Scene) (event : EventRecord) : Onward s (s.dispatch event).1 :=
  call_onward (show s.call? (.dispatch event) = _ from rfl)

/-- A call that does not ask for the primary output by itself takes it only when the interval has
passed. -/
theorem call_waited (taken : s.call? call = some t) (careful : ¬ ∃ h, call = .clipFullscreen h true)
    (cooling : Cooling since interval s) (hs : Waited since interval s) : Waited since interval t := by
  by_cases ordinary : call.IsOrdinary
  · exact (s.doings_licence taken ordinary).waited careful cooling hs
  · obtain ⟨-, clip, clock⟩ := call_still taken ordinary
    exact hs.kept clip (Nat.le_of_eq (congrArg Prod.fst clock).symm)

/-- Whatever the seat is called for; the surroundings may change, but time does not run backwards. -/
def Passing (s : Scene) : Turn → Prop
  | .call _ => True
  | .change env => s.env.tick ≤ tickLimit → s.env.tick ≤ env.tick ∧ env.tick ≤ tickLimit

theorem take_onward (ok : Passing s turn) (taken : s.take? turn = some t) : Onward s t := by
  cases turn with
  | call call => exact call_onward taken
  | change env =>
      cases taken
      refine ⟨rfl, fun limit => ?_⟩
      obtain ⟨later, within⟩ := ok limit
      exact ⟨later, within, Or.inl rfl⟩

theorem Run.cooling (run : Run Passing s t) (hs : Cooling since interval s) :
    Cooling since interval t :=
  run.preserves hs fun hu ok taken => (take_onward ok taken).cooling hu

/-- Time goes on from event to event of a call, and from each of them to the end of the call. -/
theorem callTrail_onward (taken : s.call? call = some t) :
    (s.callTrail call).Pairwise (fun a b => Onward (a.1.dispatch a.2).1 b.1) ∧
      ∀ a ∈ s.callTrail call, Onward s a.1 ∧ Onward (a.1.dispatch a.2).1 t := by
  by_cases only : call.OnlyHandles
  · refine (s.call_induct (P := fun done v => Onward s v ∧
      done.Pairwise (fun a b => Onward (a.1.dispatch a.2).1 b.1) ∧
        ∀ a ∈ done, Onward s a.1 ∧ Onward (a.1.dispatch a.2).1 v) ?_ ?_ only taken ?_).2
    · intro done v event ⟨sofar, pairs, each⟩
      have step := v.dispatch_onward event
      refine ⟨sofar.trans step, List.pairwise_append.mpr ⟨pairs, List.pairwise_singleton .., ?_⟩, ?_⟩
      · rintro a member b last
        rw [List.mem_singleton.mp last]
        exact (each a member).2
      · refine List.forall_mem_append.mpr ⟨fun a member => ?_, fun a last => ?_⟩
        · exact ⟨(each a member).1, (each a member).2.trans step⟩
        · rw [List.mem_singleton.mp last]
          exact ⟨sofar, .refl _⟩
    · intro done v env interlude ⟨sofar, pairs, each⟩
      have idle := Onward.of_interlude interlude
      exact ⟨sofar.trans idle, pairs, fun a member => ⟨(each a member).1, (each a member).2.trans idle⟩⟩
    · exact ⟨.refl s, .nil, by simp⟩
  · have none : s.callTrail call = [] := by
      cases call <;> first | rfl | exact absurd trivial only
    simp [none]

/-- A step of a seat is a whole turn, or the handling of one event during a call. -/
inductive Moves (s : Scene) : Turn → Scene → Scene → Prop
  | whole {turn : Turn} {t : Scene} (taken : s.take? turn = some t) : Moves s turn s t
  | event {call : Call} {u : Scene} {event : EventRecord} (handled : (u, event) ∈ s.callTrail call) :
      Moves s (.call call) u (u.dispatch event).1

/-- After a reset no call but the direct one takes the primary output before the interval has passed. -/
theorem Cooling.le_tick_call (cooling : Cooling since interval s) (taken : s.call? call = some t)
    (careful : ¬ ∃ h, call = .clipFullscreen h true) (before : s.seat.input.clipState = .unclipped)
    (covering : t.seat.input.clipState = .clippingFullscreen) : since + interval ≤ t.env.tick := by
  obtain ⟨region, clip, kind⟩ := clipState_eq_fullscreen.mp covering
  exact call_waited taken careful cooling (waited_of_free (clipState_eq_unclipped.mp before)) region
    clip kind

theorem Cooling.le_tick_dispatch (cooling : Cooling since interval s) {event : EventRecord}
    (before : s.seat.input.clipState = .unclipped)
    (covering : (s.dispatch event).1.seat.input.clipState = .clippingFullscreen) :
    since + interval ≤ (s.dispatch event).1.env.tick :=
  cooling.le_tick_call (show s.call? (.dispatch event) = _ from rfl) (by simp) before covering

theorem Cooling.moves (cooling : Cooling since interval s) (moves : s.Moves turn u v)
    (before : u.seat.input.clipState = .unclipped)
    (covering : v.seat.input.clipState = .clippingFullscreen) :
    (∃ h, turn = .call (.clipFullscreen h true)) ∨ since + interval ≤ v.env.tick := by
  cases moves with
  | @whole turn _ taken =>
      cases turn with
      | change env =>
          -- the surroundings alone begin no clip
          cases taken
          exact absurd covering (by simp [before])
      | call call =>
          refine or_iff_not_imp_left.mpr fun careful => cooling.le_tick_call taken ?_ before covering
          rintro ⟨h, rfl⟩
          exact careful ⟨h, rfl⟩
  | event handled =>
      have onward : Onward s u := s.callTrail_preserves (P := Onward s)
        (fun w event hw => hw.trans (w.dispatch_onward event))
        (fun w env interlude hw => hw.trans (.of_interlude interlude)) (.refl s) _ _ handled
      exact Or.inr ((onward.cooling cooling).le_tick_dispatch before covering)

/-- A reset that the seat notes takes it from one scene to the next, and leaves some events to the call: the
registry resets the clip, or the seat learns from an event that another client broke the grab. -/
inductive NotedReset (s : Scene) : Call → Scene → Scene → List (Scene × EventRecord) → Prop
  | evicted (h : Handle) : NotedReset s (.message h .clipReset) s (s.driverMessage h .clipReset).1 []
  | broken {call : Call} {first later : List (Scene × EventRecord)} {u : Scene} {event : EventRecord}
      {focus : FocusEvent} (handled : s.callTrail call = first ++ (u, event) :: later)
      (kind : event.kind = .focusOut focus) (detail : focus.detail = .pointer) :
      NotedReset s call u (u.dispatch event).1 later

theorem NotedReset.onward {later : List (Scene × EventRecord)} (h : s.NotedReset call u v later)
    (taken : s.call? call = some t) :
    Onward s u ∧ Onward u v ∧ (∀ a ∈ later, Onward v a.1) ∧ Onward v t := by
  cases h with
  | evicted h =>
      cases taken
      exact ⟨.refl _, call_onward (show s.call? (.message h .clipReset) = _ from rfl), by simp, .refl _⟩
  | @broken _ first _ _ event _ handled =>
      obtain ⟨pairs, each⟩ := callTrail_onward taken
      rw [handled] at pairs each
      obtain ⟨sofar, rest⟩ := each (u, event) List.mem_append_cons_self
      obtain ⟨-, cons, -⟩ := List.pairwise_append.mp pairs
      exact ⟨sofar, u.dispatch_onward event, (List.pairwise_cons.mp cons).1, rest⟩

/-- A reset that ends the clip leaves its time on record. -/
theorem NotedReset.clipResetAt {later : List (Scene × EventRecord)} (h : s.NotedReset call u v later)
    (held : u.seat.input.isClipping = true) (ended : v.seat.input.clip = none) :
    v.seat.input.clipResetAt = some v.env.tick := by
  have lost : u.seat.input.clip ≠ none := by
    simpa [InputState.isClipping, Option.isSome_iff_ne_none] using held
  cases h with
  | evicted h =>
      simp only [driverMessage, takeReset] at ended ⊢
      split at ended
      · exact absurd ended lost
      · next accepted =>
          rw [if_neg accepted]
          rfl
  | @broken _ _ _ _ event focus handled kind detail =>
      have handled : ((u.receiving event).handle (target u.env event) event).1 =
          (u.receiving event).captureLost (target u.env event) event.window := by
        simp only [handle, kind, focusOut, detail, if_true]
      rw [u.fst_dispatch handled] at ended ⊢
      unfold captureLost at ended ⊢
      split at ended
      · next broken =>
          rw [if_pos broken]
          rfl
      · exact absurd ended lost

/-- Whether the settings and the host let a seat have the primary output. -/
def mayCover (s : Scene) : Bool :=
  (s.seat.config.pointer.grabFullscreen ||
    s.env.primaryMonitor == s.env.virtualScreen && !s.seat.config.window.virtualDesktop) &&
    !s.onDesktopThread && s.grants

theorem clipToOutput_iff (free : s.seat.input.clip = none) :
    s.clipToOutput.1.seat.input.clipState = .clippingFullscreen ↔ s.mayCover = true := by
  have grabbed : (s.grab s.env.primaryMonitor .fullscreen).1.seat.input.clipState =
      .clippingFullscreen ↔ (!s.onDesktopThread && s.grants) = true := by
    cases member : s.onDesktopThread with
    | true =>
        have kept : s.grab s.env.primaryMonitor .fullscreen = (s, true) := by simp [grab, member]
        simp [kept, clipState_of_free free]
    | false =>
        cases granted : s.grants with
        | true =>
            obtain ⟨capture, clip, -⟩ := s.grab_of_grants s.env.primaryMonitor .fullscreen member
              (by simp [free]) granted
            simp [InputState.clipState, clip, ClipState.ofRegion]
        | false =>
            have refused := s.clip_grab_of_not_grants s.env.primaryMonitor .fullscreen granted
            rw [free, or_self] at refused
            simp [clipState_of_free refused]
  have barred : ∀ anyway only virtual : Bool,
      (!anyway && (!only || virtual)) = !(anyway || only && !virtual) := by decide
  unfold clipToOutput mayCover
  dsimp only
  rw [barred, Bool.and_assoc]
  cases s.seat.config.pointer.grabFullscreen ||
      s.env.primaryMonitor == s.env.virtualScreen && !s.seat.config.window.virtualDesktop with
  | true => simpa using grabbed
  | false => simpa using clipState_of_free free

/-- Left to itself, a seat without a clip takes the primary output for a window that fills it if the last
reset lies back long enough, nobody else in the process has a clip, and nothing else forbids it. -/
theorem clipFullscreen_iff (free : s.seat.input.clip = none) (h : Handle) :
    (s.clipFullscreen h false).1.seat.input.clipState = .clippingFullscreen ↔
      s.seat.input.isDebounced s.env.tick s.seat.config.pointer.clipResetDebounce = true ∧
        s.fillsOutput h = true ∧ s.queryOwner.2.isNull = true ∧ s.queryOwner.1.mayCover = true := by
  have stays := clipState_of_free free
  have asked : s.queryOwner.1.seat.input.clip = none := s.routine_queryOwner.clip.trans free
  have covered := clipToOutput_iff asked
  unfold clipFullscreen
  cases s.fillsOutput h with
  | false => simpa using stays
  | true =>
      cases s.seat.input.isDebounced s.env.tick s.seat.config.pointer.clipResetDebounce with
      | false => simpa using stays
      | true =>
          cases owner : s.queryOwner.2.isNull with
          | false => simp [InputState.isClipping, free, owner, clipState_of_free asked]
          | true => simpa [InputState.isClipping, free, owner] using covered

/-- A request to let go of the pointer leaves the record of resets as it was. -/
theorem still_resetClipping (s : Scene) :
    s.resetClipping.seat.config = s.seat.config ∧ s.resetClipping.face.clock = s.face.clock := by
  unfold resetClipping
  split
  · exact ⟨congrArg (fun g : Ground => g.config) (s.ground_release true), s.clock_release true⟩
  · exact ⟨rfl, rfl⟩

/-- After an outside reset that the seat notes, be it in the midst of a drain, it does not take the primary
output before the interval has passed, neither for a later event of the same call nor in whatever run
follows, unless the guest calls for that directly. A request to let go of the pointer is not noted, and does
not hold the seat back: whether it takes the output again depends on nothing but earlier resets and on what
lets a seat have the output at all. -/
theorem debounce_after_reset (taken : s.call? call = some t) (limit : s.env.tick ≤ tickLimit) :
    (∀ u v later, s.NotedReset call u v later → u.seat.input.isClipping = true →
      v.seat.input.clip = none →
      (∀ a ∈ later, a.1.seat.input.clipState = .unclipped →
        (a.1.dispatch a.2).1.seat.input.clipState = .clippingFullscreen →
        u.env.tick + s.seat.config.pointer.clipResetDebounce ≤ (a.1.dispatch a.2).1.env.tick) ∧
      ∀ x turn y z, Run Passing t x → x.Moves turn y z → y.seat.input.clipState = .unclipped →
        z.seat.input.clipState = .clippingFullscreen → (∃ h, turn = .call (.clipFullscreen h true)) ∨
          u.env.tick + s.seat.config.pointer.clipResetDebounce ≤ z.env.tick) ∧
    ((∃ h, call = .message h .releaseCursor) →
      t.seat.input.clip = none ∧ t.seat.input.clipResetAt = s.seat.input.clipResetAt ∧
      ∀ h, (t.clipFullscreen h false).1.seat.input.clipState = .clippingFullscreen ↔
        s.seat.input.isDebounced s.env.tick s.seat.config.pointer.clipResetDebounce = true ∧
          t.fillsOutput h = true ∧ t.queryOwner.2.isNull = true ∧ t.queryOwner.1.mayCover = true) := by
  constructor
  · intro u v later reset held ended
    obtain ⟨before, during, events, rest⟩ := reset.onward taken
    obtain ⟨-, within, -⟩ := before.time limit
    obtain ⟨later', within', -⟩ := during.time within
    have cooling : Cooling u.env.tick s.seat.config.pointer.clipResetDebounce v :=
      ⟨by rw [during.config, before.config], later', within', _, reset.clipResetAt held ended, later'⟩
    refine ⟨fun a member => ((events a member).cooling cooling).le_tick_dispatch, ?_⟩
    intro x turn y z run moves
    exact (Run.cooling run (rest.cooling cooling)).moves moves
  · rintro ⟨h, rfl⟩
    cases taken
    obtain ⟨config, clock⟩ := s.still_resetClipping
    have tick : s.resetClipping.env.tick = s.env.tick := congrArg Prod.fst clock
    have kept : s.resetClipping.seat.input.clipResetAt = s.seat.input.clipResetAt :=
      congrArg Prod.snd clock
    have ended := s.clip_resetClipping
    refine ⟨ended, kept, fun k => ?_⟩
    have again := clipFullscreen_iff ended k
    rw [InputState.isDebounced, kept, tick, config] at again
    exact again

/-- A window that fills the only output, and a clip for it. -/
def filledOutput : Scene :=
  let s := alone ⟨0, 0, 1920, 1080⟩
  let env := (s.env.createWindow WindowStyle.visible ⟨0, 0, 1920, 1080⟩).1
  ({ s with env }.clipFullscreen ⟨0x20000⟩ false).1

/-- That window is in front; another client broke the grab, and a button is pressed on the window. -/
def grabBroken : Scene :=
  filledOutput.act fun env => (env.setForeground ⟨0x20000⟩).withQueue
    [{ serial := ⟨9⟩, window := ⟨0x4000002⟩, kind := .focusOut { detail := .pointer, mode := .normal } },
      { serial := ⟨9⟩, window := ⟨0x4000001⟩
        kind := .button { pressed := true, button := 1, position := ⟨5, 5⟩ } }]

/-- After a reset by the registry the window does not get the output back at once, nor by a press that is
handled in one drain with the broken grab; after a request to let go of the pointer it does. -/
theorem filledOutput_after_reset :
    let reset := (filledOutput.driverMessage ⟨0x20002⟩ .clipReset).1
    let released := (filledOutput.driverMessage ⟨0x20000⟩ .releaseCursor).1
    (reset.clipFullscreen ⟨0x20000⟩ false).1.seat.input.clipState ≠ .clippingFullscreen ∧
      (∀ a ∈ grabBroken.callTrail (.drain QueueMask.allInput),
        (a.1.dispatch a.2).1.seat.input.clipState ≠ .clippingFullscreen) ∧
      (released.clipFullscreen ⟨0x20000⟩ false).1.seat.input.clipState = .clippingFullscreen := by
  have evicted : filledOutput.call? (.message ⟨0x20002⟩ .clipReset) = some _ := rfl
  have asked : filledOutput.call? (.message ⟨0x20000⟩ .releaseCursor) = some _ := rfl
  have drained : grabBroken.call? (.drain QueueMask.allInput) = some _ := rfl
  obtain ⟨guarded, -⟩ := debounce_after_reset evicted (by decide)
  obtain ⟨lost, -⟩ := debounce_after_reset drained (by decide)
  obtain ⟨-, free⟩ := debounce_after_reset asked (by decide)
  refine ⟨fun again => ?_, ?_, ((free ⟨_, rfl⟩).2.2 ⟨0x20000⟩).mpr (by decide)⟩
  · obtain ⟨-, runs⟩ := guarded _ _ _ (.evicted _) (by decide) (by decide)
    rcases runs _ (.call (.clipFullscreen ⟨0x20000⟩ false)) _ _ .start (.whole rfl) (by decide) again with
      ⟨h, direct⟩ | waited
    · cases direct
    · exact absurd waited (by decide)
  · have trail : grabBroken.callTrail (.drain QueueMask.allInput) = [] ++ (_, _) :: _ := rfl
    obtain ⟨events, -⟩ := lost _ _ _ (.broken trail rfl rfl) (by decide) (by decide)
    refine List.forall_mem_cons.mpr ⟨by decide, List.forall_mem_cons.mpr ⟨fun again => ?_, List.forall_mem_nil _⟩⟩
    have waited := events _ List.mem_cons_self (by decide) again
    exact absurd waited (by decide)

end GuestSeat.Scene
