import GuestSeat.Proofs.Drain.Merging
import GuestSeat.Seat.Drain

/-!
The events that a drain hands to their handlers, in the order in which it does. Which these are depends
on what the handlers do in between; `HandsOver` says what they can be whatever the handlers do. A drain
has no effect other than that of its handovers one after the other.
-/

namespace GuestSeat

/-- An event that is handed to its handler: its place among the events of the drain, and what merging
made of it. -/
structure Handover where
  place : Nat
  event : EventRecord

/-- What a drain can hand over of an event that waits and of the events after it, which have the places
from `n` on. -/
inductive HandsOver : Handover → Nat → List EventRecord → List Handover → Prop
  | last (w : Handover) (n : Nat) : HandsOver w n [] [w]
  /-- The event that waits is out of date and dropped. -/
  | updated {w : Handover} {n : Nat} {e : EventRecord} {rest : List EventRecord}
      {log : List Handover} (h : e.Updates w.event) (more : HandsOver ⟨n, e⟩ (n + 1) rest log) :
      HandsOver w n (e :: rest) log
  | passed {w : Handover} {n : Nat} {e : EventRecord} {rest : List EventRecord}
      {log : List Handover} (h : e.MayPass w.event) (more : HandsOver w (n + 1) rest log) :
      HandsOver w n (e :: rest) (⟨n, e⟩ :: log)
  /-- Of two raw events one is dropped and the other takes in its values. -/
  | addedToNewer {w : Handover} {n : Nat} {e sum : EventRecord} {rest : List EventRecord}
      {log : List Handover} (hw : w.event.tag = .rawMotion) (he : e.tag = .rawMotion)
      (from_e : sum.IsFrom e) (more : HandsOver ⟨n, sum⟩ (n + 1) rest log) :
      HandsOver w n (e :: rest) log
  | addedToOlder {w : Handover} {n : Nat} {e sum : EventRecord} {rest : List EventRecord}
      {log : List Handover} (hw : w.event.tag = .rawMotion) (he : e.tag = .rawMotion)
      (from_w : sum.IsFrom w.event) (more : HandsOver ⟨w.place, sum⟩ (n + 1) rest log) :
      HandsOver w n (e :: rest) log
  | apart {w : Handover} {n : Nat} {e : EventRecord} {rest : List EventRecord}
      {log : List Handover} (more : HandsOver ⟨n, e⟩ (n + 1) rest log) :
      HandsOver w n (e :: rest) (w :: log)

def Environment.withQueue (env : Environment) (queue : List EventRecord) : Environment :=
  { env with queue }

namespace Scene

/-- Handle some events in order as they are; whether any of them made work for the guest. -/
def dispatchAll (s : Scene) : List EventRecord → Scene × Bool
  | [] => (s, false)
  | event :: rest =>
    let (s, queued) := s.dispatch event
    let (s, later) := s.dispatchAll rest
    (s, queued || later)

/-- The handovers of an event that waits and of the events after it, which have the places from
`place` on. -/
def handoversAfter (s : Scene) (waiting : Handover) (place : Nat) :
    List EventRecord → List Handover
  | [] => [waiting]
  | event :: rest =>
    let merged := merge s.mergeContext waiting.event event
    let older : Handover := ⟨waiting.place, merged.previous⟩
    let newer : Handover := ⟨place, merged.next⟩
    match merged.action with
    | .discard => s.handoversAfter newer (place + 1) rest
    | .ignore => s.handoversAfter older (place + 1) rest
    | .handle => older :: (s.dispatch older.event).1.handoversAfter newer (place + 1) rest
    | .keep => newer :: (s.dispatch newer.event).1.handoversAfter older (place + 1) rest

def handoversOf (s : Scene) : List EventRecord → List Handover
  | [] => []
  | event :: rest => s.handoversAfter ⟨0, event⟩ 1 rest

def withQueue (s : Scene) (queue : List EventRecord) : Scene := s.act fun env => env.withQueue queue

def accepted (s : Scene) (mask : QueueMask) : List EventRecord :=
  s.env.queue.filter fun event => event.matchesMask mask

def rejected (s : Scene) (mask : QueueMask) : List EventRecord :=
  s.env.queue.filter fun event => !event.matchesMask mask

def handovers (s : Scene) (mask : QueueMask) : List Handover :=
  (s.withQueue (s.rejected mask)).handoversOf (s.accepted mask)

/-- Handle what is handed over, while the queue holds what the drain leaves there. -/
def handleAll (s : Scene) (mask : QueueMask) (log : List Handover) : Scene × Bool :=
  let handled := (s.withQueue (s.rejected mask)).dispatchAll (log.map Handover.event)
  (handled.1.act Environment.flush, handled.2)

variable (s : Scene)

/-- The events of a drain are handled just as they are handed over. -/
theorem drainAfter_eq_dispatchAll (waiting : Handover) (place : Nat) (events : List EventRecord) :
    s.drainAfter waiting.event events =
      s.dispatchAll ((s.handoversAfter waiting place events).map Handover.event) := by
  induction events generalizing s waiting place with
  | nil =>
      show _ = ((s.dispatch waiting.event).1, (s.dispatch waiting.event).2 || false)
      rw [Bool.or_false]
      rfl
  | cons event rest ih =>
      unfold drainAfter handoversAfter
      generalize merge s.mergeContext waiting.event event = merged
      obtain ⟨action, older, newer⟩ := merged
      cases action with
      | discard => exact ih s ⟨place, newer⟩ (place + 1)
      | ignore => exact ih s ⟨waiting.place, older⟩ (place + 1)
      | handle =>
          have more := ih (s.dispatch older).1 ⟨place, newer⟩ (place + 1)
          simp only [List.map_cons, dispatchAll]
          rw [more]
      | keep =>
          have more := ih (s.dispatch newer).1 ⟨waiting.place, older⟩ (place + 1)
          simp only [List.map_cons, dispatchAll]
          rw [more]

/-- A drain comes to the same as handling its handovers one after the other. -/
theorem drain_eq_handleAll (mask : QueueMask) :
    s.drain mask = s.handleAll mask (s.handovers mask) := by
  have all : ∀ (u : Scene) (events : List EventRecord),
      u.drainAll events = u.dispatchAll ((u.handoversOf events).map Handover.event) := by
    intro u events
    cases events with
    | nil => rfl
    | cons event rest => exact u.drainAfter_eq_dispatchAll ⟨0, event⟩ 1 rest
  have handled := all (s.withQueue (s.rejected mask)) (s.accepted mask)
  unfold drain handleAll handovers
  rw [← handled]
  rfl

theorem handsOver_handoversAfter (waiting : Handover) (place : Nat) (events : List EventRecord) :
    HandsOver waiting place events (s.handoversAfter waiting place events) := by
  induction events generalizing s waiting place with
  | nil => exact .last waiting place
  | cons event rest ih =>
      have meeting := meeting_merge s.mergeContext waiting.event event
      unfold handoversAfter
      generalize merge s.mergeContext waiting.event event = merged at meeting ⊢
      cases meeting with
      | updated h => exact .updated h (ih ..)
      | passed h => exact .passed h (ih ..)
      | addedToNewer older newer hp hn allowed nested wider =>
          exact .addedToNewer (congrArg EventKind.tag hp) (congrArg EventKind.tag hn)
            (Or.inr ⟨newer, _, hn, rfl⟩) (ih ..)
      | addedToOlder older newer hp hn allowed nested wider =>
          exact .addedToOlder (congrArg EventKind.tag hp) (congrArg EventKind.tag hn)
            (Or.inr ⟨older, _, hp, rfl⟩) (ih ..)
      | apart disjoint => exact .apart (ih ..)

end Scene

end GuestSeat
