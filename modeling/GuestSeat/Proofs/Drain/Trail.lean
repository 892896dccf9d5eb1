import GuestSeat.Proofs.Clip.Course
import GuestSeat.Proofs.Drain.Handover

/-!
The events that a call of a seat has handled, each with the scene in which its handler ran. A dispatch
has one of them, a drain its handovers, and a wait those of the drains before and after it.
-/

namespace GuestSeat.Scene

open Environment (tickLimit)

/-- Some events that are handled in order, each with the scene that it is handled in. -/
def trail (s : Scene) : List EventRecord → List (Scene × EventRecord)
  | [] => []
  | event :: rest => (s, event) :: (s.dispatch event).1.trail rest

def drainTrail (s : Scene) (mask : QueueMask) : List (Scene × EventRecord) :=
  (s.withQueue (s.rejected mask)).trail ((s.handovers mask).map Handover.event)

def waitTrail (s : Scene) (mask : QueueMask) : Environment × WaitStatus → List (Scene × EventRecord)
  | (env, .inputReady) => drainTrail { s with env } mask
  | (_, .timeout) | (_, .signaled _) => []

def callTrail (s : Scene) : Call → List (Scene × EventRecord)
  | .dispatch event => [(s, event)]
  | .drain mask => s.drainTrail mask
  | .waitFor handles timeout mask =>
    let mask := if s.seat.input.isHandling then Flags.empty else mask
    s.drainTrail mask ++
      match s.drain mask with
      | (_, true) => []
      | (t, false) =>
        if handles.isEmpty && timeout == some 0 then []
        else t.waitTrail mask (t.env.wait handles timeout)
  | _ => []

def Call.OnlyHandles : Call → Prop
  | .dispatch _ | .drain _ | .waitFor _ _ _ => True
  | _ => False

variable (s : Scene)

theorem map_snd_trail (events : List EventRecord) : (s.trail events).map Prod.snd = events := by
  induction events generalizing s with
  | nil => rfl
  | cons event rest ih => exact congrArg (event :: ·) (ih (s.dispatch event).1)

/-- What every event preserves while the trail grows holds after a run of events. -/
theorem dispatchAll_induct {P : List (Scene × EventRecord) → Scene → Prop}
    (step : ∀ done u event, P done u → P (done ++ [(u, event)]) (u.dispatch event).1)
    (events : List EventRecord) {done : List (Scene × EventRecord)} (hs : P done s) :
    P (done ++ s.trail events) (s.dispatchAll events).1 := by
  induction events generalizing s done with
  | nil => simpa [trail, dispatchAll] using hs
  | cons event rest ih => simpa [trail, dispatchAll] using ih _ (step done s event hs)

/-- What becomes of the surroundings between the events of a call: all that a clip rests on stays, and time
does not run backwards. -/
structure Interlude (s : Scene) (env : Environment) : Prop where
  standing : ({ s with env } : Scene).standing = s.standing
  tick : s.env.tick ≤ tickLimit → s.env.tick ≤ env.tick ∧ env.tick ≤ tickLimit

theorem Interlude.of_tick_eq {s : Scene} {env : Environment}
    (standing : ({ s with env } : Scene).standing = s.standing) (tick : env.tick = s.env.tick) :
    s.Interlude env := by
  refine ⟨standing, fun limit => ?_⟩
  rw [tick]
  exact ⟨Nat.le_refl _, limit⟩

/-- What every event preserves while the trail grows, and what lasts between events, holds after a call that
does nothing but handle events. -/
theorem call_induct {P : List (Scene × EventRecord) → Scene → Prop}
    (step : ∀ done u event, P done u → P (done ++ [(u, event)]) (u.dispatch event).1)
    (rests : ∀ done (u : Scene) env, u.Interlude env → P done u → P done { u with env })
    {call : Call} (only : call.OnlyHandles) {t : Scene} (taken : s.call? call = some t) (hs : P [] s) :
    P (s.callTrail call) t := by
  have drained : ∀ (u : Scene) (mask : QueueMask) (done : List (Scene × EventRecord)), P done u →
      P (done ++ u.drainTrail mask) (u.drain mask).1 := by
    intro u mask done hu
    rw [u.drain_eq_handleAll mask]
    exact rests _ _ _ (.of_tick_eq rfl rfl)
      (dispatchAll_induct _ step _ (rests done u _ (.of_tick_eq rfl rfl) hu))
  cases call with
  | dispatch event =>
      cases taken
      exact step [] s event hs
  | drain mask =>
      cases taken
      exact drained s mask [] hs
  | waitFor handles timeout mask =>
      cases taken
      unfold waitFor callTrail
      dsimp only
      generalize (if s.seat.input.isHandling then Flags.empty else mask) = mask
      have first := drained s mask [] hs
      rw [List.nil_append] at first
      cases hd : s.drain mask with
      | mk t queued =>
          rw [hd] at first
          cases queued with
          | true => simpa using first
          | false =>
              dsimp only
              split
              · simpa using first
              · have waited : t.Interlude (t.env.wait handles timeout).1 := by
                  refine ⟨?_, (t.env.routine_wait handles timeout).tick⟩
                  unfold Environment.wait
                  split
                  · rfl
                  · split <;> rfl
                cases hw : t.env.wait handles timeout with
                | mk env status =>
                    rw [hw] at waited
                    have idle := rests _ t env waited first
                    cases status with
                    | inputReady => exact drained _ mask _ idle
                    | timeout | signaled _ => simpa [waitTrail] using idle
  | clipCursor _ | clipFullscreen _ _ | resetClipping | setCursor _ | destroyCursor _
  | setCursorPos _ | setRawOnly _ | requestNetState _ _ | noteConfigureRequest _ | forgetWindow _
  | awaitWithdrawal _ _ | message _ _ => exact only.elim

/-- A property that every event preserves unless it puts an end to it holds until an event of a call does
so: wherever no event before did, and after the call if none did. -/
theorem call_until {P : Scene → Prop} {E : Scene → EventRecord → Prop}
    (step : ∀ u event, P u → ¬ E u event → P (u.dispatch event).1)
    (rests : ∀ (u : Scene) env, u.Interlude env → P u → P { u with env })
    {call : Call} (only : call.OnlyHandles) {t : Scene} (taken : s.call? call = some t) (hs : P s) :
    (∀ first u event, first ++ [(u, event)] <+: s.callTrail call →
        (∀ handled ∈ first, ¬ E handled.1 handled.2) → P u) ∧
      ((∀ handled ∈ s.callTrail call, ¬ E handled.1 handled.2) → P t) := by
  refine s.call_induct (P := fun done v =>
    (∀ first u event, first ++ [(u, event)] <+: done →
        (∀ handled ∈ first, ¬ E handled.1 handled.2) → P u) ∧
      ((∀ handled ∈ done, ¬ E handled.1 handled.2) → P v)) ?_ ?_ only taken ?_
  · intro done v latest ⟨earlier, now⟩
    refine ⟨fun first u event beginning quiet => ?_, fun quiet => ?_⟩
    · obtain same | within := List.prefix_concat_iff.mp beginning
      · obtain ⟨rfl, rfl, -⟩ : first = done ∧ u = v ∧ event = latest := by simpa using same
        exact now quiet
      · exact earlier first u event within quiet
    · obtain ⟨before, last⟩ := List.forall_mem_append.mp quiet
      exact step v latest (now before) (last _ (List.mem_singleton_self _))
  · intro done v env same ⟨earlier, now⟩
    exact ⟨earlier, fun quiet => rests v env same (now quiet)⟩
  · refine ⟨fun first u event beginning => ?_, fun _ => hs⟩
    simp at beginning

/-- The same for any call. -/
theorem callTrail_until {P : Scene → Prop} {E : Scene → EventRecord → Prop}
    (step : ∀ u event, P u → ¬ E u event → P (u.dispatch event).1)
    (rests : ∀ (u : Scene) env, u.Interlude env → P u → P { u with env })
    (hs : P s) {call : Call} {first later : List (Scene × EventRecord)} {u : Scene}
    {event : EventRecord} (handled : s.callTrail call = first ++ (u, event) :: later)
    (lasting : ∀ handled ∈ first, ¬ E handled.1 handled.2) : P u := by
  by_cases only : call.OnlyHandles
  · obtain ⟨t, taken⟩ : ∃ t, s.call? call = some t := by
      cases call <;> first | exact ⟨_, rfl⟩ | exact only.elim
    refine (s.call_until step rests only taken hs).1 first u event ⟨later, ?_⟩ lasting
    rw [handled, List.append_assoc, List.singleton_append]
  · have none : s.callTrail call = [] := by
      cases call <;> first | rfl | exact absurd trivial only
    simp [none] at handled

/-- What every event preserves holds whenever an event is handled during a call. -/
theorem callTrail_preserves {P : Scene → Prop} (step : ∀ u event, P u → P (u.dispatch event).1)
    (rests : ∀ (u : Scene) env, u.Interlude env → P u → P { u with env })
    (hs : P s) (call : Call) : ∀ handled ∈ s.callTrail call, P handled.1 := by
  intro handled member
  obtain ⟨first, later, trail⟩ := List.append_of_mem member
  exact s.callTrail_until (E := fun _ _ => False) (fun u event hu _ => step u event hu) rests hs trail
    fun _ _ => id

/-- If the events that put an end to a property of what is known of the windows are known, so are the calls that do,
among those that do nothing but handle events. -/
theorem call_iff {Q : ManagedCache → Prop} {E : Scene → EventRecord → Prop}
    (step : ∀ u event, Q (u.dispatch event).1.seat.windows ↔ Q u.seat.windows ∧ ¬ E u event)
    {call : Call} (only : call.OnlyHandles) {t : Scene} (taken : s.call? call = some t) :
    Q t.seat.windows ↔
      Q s.seat.windows ∧ ∀ handled ∈ s.callTrail call, ¬ E handled.1 handled.2 := by
  refine s.call_induct (P := fun done v => Q v.seat.windows ↔
    Q s.seat.windows ∧ ∀ handled ∈ done, ¬ E handled.1 handled.2) ?_ (fun _ _ _ _ sofar => sofar) only taken
    (by simp)
  intro done v event sofar
  rw [step, sofar, and_assoc, List.forall_mem_append, List.forall_mem_singleton]

end GuestSeat.Scene
