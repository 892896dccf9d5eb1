import GuestSeat.Proofs.Drain.Oblivious

/-!
A drain that takes the events out of the queue one at a time, each after what came before it was
handled, rather than all of them first. Since handlers leave the queue alone this comes to the same.
-/

namespace GuestSeat

/-- A drain on its way: the scene, the event that waits to be merged, and whether any event so far made
work for the guest. -/
structure Intake where
  scene : Scene
  waiting : Option EventRecord := none
  queued : Bool := false

namespace Intake

def handling (i : Intake) (event waiting : EventRecord) : Intake :=
  let (scene, queued) := i.scene.dispatch event
  { scene, waiting := some waiting, queued := i.queued || queued }

def read (i : Intake) (event : EventRecord) : Intake :=
  match i.waiting with
  | none => { i with waiting := some event }
  | some waiting =>
    let merged := merge i.scene.mergeContext waiting event
    match merged.action with
    | .discard => { i with waiting := some merged.next }
    | .ignore => { i with waiting := some merged.previous }
    | .handle => i.handling merged.previous merged.next
    | .keep => i.handling merged.next merged.previous

def pull? (mask : QueueMask) (i : Intake) : Option Intake :=
  (i.scene.env.takeEvent? fun event => event.matchesMask mask).map fun (event, env) =>
    { i with scene := { i.scene with env } }.read event

def finish (i : Intake) : Scene × Bool :=
  match i.waiting with
  | none => (i.scene.act Environment.flush, i.queued)
  | some waiting =>
    let (scene, queued) := i.scene.dispatch waiting
    (scene.act Environment.flush, i.queued || queued)

/-- What the drain comes to once nothing more that is asked for is in the queue. -/
inductive Pulls (mask : QueueMask) : Intake → Scene × Bool → Prop
  | done {i : Intake} (nothing : i.pull? mask = none) : Pulls mask i i.finish
  | more {i next : Intake} {result : Scene × Bool} (taken : i.pull? mask = some next)
      (rest : Pulls mask next result) : Pulls mask i result

/-- A drain has one result at most. -/
theorem Pulls.unique {mask : QueueMask} {i : Intake} {one other : Scene × Bool}
    (h : Pulls mask i one) (h' : Pulls mask i other) : one = other := by
  induction h with
  | done nothing =>
      cases h' with
      | done => rfl
      | more taken => rw [nothing] at taken; cases taken
  | more taken _ ih =>
      cases h' with
      | done nothing => rw [nothing] at taken; cases taken
      | more taken' rest' =>
          rw [taken] at taken'
          cases taken'
          exact ih rest'

end Intake

/-- The first element that a test takes, if there is one, is the first of all that it takes. -/
theorem find?_eq_none_or_some {α : Type} (p : α → Bool) (l : List α) :
    (l.find? p = none ∧ l.filter p = [] ∧ l.filter (fun x => !p x) = l) ∨
      ∃ a, l.find? p = some a ∧ l.filter p = a :: (l.eraseP p).filter p ∧
        l.filter (fun x => !p x) = (l.eraseP p).filter fun x => !p x := by
  induction l with
  | nil => exact Or.inl ⟨rfl, rfl, rfl⟩
  | cons first rest ih =>
      cases taken : p first with
      | true => exact Or.inr ⟨first, by simp [taken], by simp [taken], by simp [taken]⟩
      | false =>
          rcases ih with ⟨unfound, empty, whole⟩ | ⟨a, found, shorter, same⟩
          · exact Or.inl ⟨by simp [taken, unfound], by simp [taken, empty], by simp [taken, whole]⟩
          · exact Or.inr ⟨a, by simp [taken, found], by simp [taken, shorter], by simp [taken, same]⟩

namespace Scene

variable (s : Scene) (mask : QueueMask)

theorem pull?_withQueue (queue : List EventRecord) (waiting : Option EventRecord) (queued : Bool) :
    Intake.pull? mask ⟨s.withQueue queue, waiting, queued⟩ =
      (queue.find? fun event => event.matchesMask mask).map fun event =>
        Intake.read ⟨s.withQueue (queue.eraseP fun event => event.matchesMask mask), waiting, queued⟩
          event := by
  unfold Intake.pull? Environment.takeEvent?
  rw [Option.map_map]
  rfl

/-- An event that waits and those in the queue that are asked for are handled as if the latter had been
taken out of it first. -/
theorem pulls_drainAfter (queue : List EventRecord) (waiting : EventRecord) (queued : Bool) :
    Intake.Pulls mask ⟨s.withQueue queue, some waiting, queued⟩
      (let rest := (s.withQueue (queue.filter fun event => !event.matchesMask mask)).drainAfter waiting
        (queue.filter fun event => event.matchesMask mask)
      (rest.1.act Environment.flush, queued || rest.2)) := by
  induction asked : (queue.filter fun event => event.matchesMask mask)
    generalizing s queue waiting queued with
  | nil =>
      rcases find?_eq_none_or_some (fun event => event.matchesMask mask) queue with
        ⟨unfound, -, whole⟩ | ⟨first, -, shorter, -⟩
      · have nothing : Intake.pull? mask ⟨s.withQueue queue, waiting, queued⟩ = none := by
          rw [s.pull?_withQueue mask, unfound]
          rfl
        rw [whole]
        exact .done nothing
      · rw [asked] at shorter
        cases shorter
  | cons event rest ih =>
      rcases find?_eq_none_or_some (fun event => event.matchesMask mask) queue with
        ⟨-, empty, -⟩ | ⟨first, found, shorter, same⟩
      · rw [empty] at asked
        cases asked
      · rw [shorter] at asked
        cases asked
        rw [same]
        generalize hleft : (queue.eraseP fun event => event.matchesMask mask) = left at *
        have next : Intake.pull? mask ⟨s.withQueue queue, waiting, queued⟩ =
            some (Intake.read ⟨s.withQueue left, waiting, queued⟩ event) := by
          rw [s.pull?_withQueue mask, found, hleft]
          rfl
        apply Intake.Pulls.more next
        have context : ∀ q, (s.withQueue q).mergeContext = s.mergeContext := fun _ => rfl
        unfold drainAfter Intake.read
        dsimp only
        rw [context, context]
        generalize merge s.mergeContext waiting event = merged
        obtain ⟨action, older, newer⟩ := merged
        -- handling one of the two events leaves the queue as it is, whichever it is
        have handled : ∀ now later : EventRecord,
            Intake.Pulls mask (Intake.handling ⟨s.withQueue left, waiting, queued⟩ now later)
              (let one := (s.withQueue (left.filter fun event => !event.matchesMask mask)).dispatch now
              let rest := one.1.drainAfter later (left.filter fun event => event.matchesMask mask)
              (rest.1.act Environment.flush, queued || (one.2 || rest.2))) := by
          intro now later
          unfold Intake.handling
          dsimp only
          rw [dispatch_withQueue, dispatch_withQueue, ← Bool.or_assoc]
          exact ih (s.dispatch now).1 left later (queued || (s.dispatch now).2) rfl
        cases action with
        | discard => exact ih s left newer queued rfl
        | ignore => exact ih s left older queued rfl
        | handle => exact handled older newer
        | keep => exact handled newer older

/-- To take the events out of the queue one at a time is to drain it. -/
theorem pulls_iff (result : Scene × Bool) :
    Intake.Pulls mask { scene := s } result ↔ result = s.drain mask := by
  suffices drained : Intake.Pulls mask { scene := s } (s.drain mask) from
    ⟨fun pulled => pulled.unique drained, fun same => same ▸ drained⟩
  have start : Intake.pull? mask { scene := s } =
      (s.env.queue.find? fun event => event.matchesMask mask).map fun event =>
        { scene := s.withQueue (s.env.queue.eraseP fun event => event.matchesMask mask)
          waiting := some event } :=
    s.pull?_withQueue mask s.env.queue none false
  rcases find?_eq_none_or_some (fun event => event.matchesMask mask) s.env.queue with
    ⟨unfound, empty, whole⟩ | ⟨first, found, shorter, same⟩
  · have nothing : Intake.pull? mask { scene := s } = none := by
      rw [start, unfound]
      rfl
    have still : s.drain mask = (s.act Environment.flush, false) := by
      unfold drain
      rw [empty, whole]
      rfl
    rw [still]
    exact .done nothing
  · rw [found] at start
    apply Intake.Pulls.more start
    have rest := s.pulls_drainAfter mask (s.env.queue.eraseP fun event => event.matchesMask mask)
      first false
    unfold drain
    rw [shorter, same]
    simp only [Bool.false_or] at rest
    exact rest

end Scene

end GuestSeat
