import GuestSeat.Event.Basic

/-!
Merging of consecutive host events. Geometry and motion are snapshots, so of a run the last one is
enough; raw motion is made of steps, which are summed axis by axis. Some events may overtake a snapshot
that waits to be replaced by a newer one.
-/

namespace GuestSeat

/-- What becomes of the event that waits and of the one just read. -/
inductive MergeAction
  /-- The waiting event is dropped, the new one waits. -/
  | discard
  /-- The waiting event is handled, the new one waits. -/
  | handle
  /-- The new event is handled, the waiting one goes on waiting. -/
  | keep
  /-- The new event is dropped, the waiting one goes on waiting. -/
  | ignore
deriving DecidableEq, Inhabited

namespace MergeAction

def spelling : MergeAction → String
  | .discard => "discard"
  | .handle => "handle"
  | .keep => "keep"
  | .ignore => "ignore"

end MergeAction

/-- What merging depends on besides the two events. -/
structure MergeContext where
  /-- Applications take raw input only. -/
  rawOnly : Bool := false
  /-- A warp of the pointer has not taken effect yet. -/
  warpPending : Bool := false
deriving DecidableEq, Inhabited

/-- Whether raw motion may be summed and may overtake motion. -/
def MergeContext.allowsRaw (c : MergeContext) : Bool := !c.rawOnly && !c.warpPending

/-- The decision, and the two events with what was dropped added to what stays. -/
structure Merged where
  action : MergeAction
  previous : EventRecord
  next : EventRecord
deriving DecidableEq

def EventRecord.withRawMotion (e : EventRecord) (raw : RawMotionEvent Float) : EventRecord :=
  { e with kind := .generic (.rawMotion raw) }

/-- The decision on the axis values of two raw events. Values are summed if the axes of one are among
those of the other, and then the event with more axes stays, the newer one if they are the same. -/
def mergeValuators {ν : Type} [Add ν] (p n : Valuators ν) :
    MergeAction × Valuators ν × Valuators ν :=
  if p.isEmpty || n.isEmpty then (.handle, p, n)
  else if p.mask ||| n.mask = n.mask then (.discard, p, n.plus p)
  else if p.mask ||| n.mask = p.mask then (.ignore, p.plus n, n)
  else (.handle, p, n)

def mergeRaw (previous next : EventRecord) (p n : RawMotionEvent Float) : Merged :=
  let (action, pv, nv) := mergeValuators p.valuators n.valuators
  { action
    previous := previous.withRawMotion { p with valuators := pv }
    next := next.withRawMotion { n with valuators := nv } }

/-- How the event just read combines with the one that waits. -/
def merge (context : MergeContext) (previous next : EventRecord) : Merged :=
  let decide := fun (action : MergeAction) => (⟨action, previous, next⟩ : Merged)
  match previous.kind, next.kind with
  | .configure _, .configure _ => decide (if previous.window = next.window then .discard else .handle)
  | .configure _, .expose _ | .configure _, .property _ => decide .keep
  | .motion _, .motion _ => decide (if previous.window = next.window then .discard else .handle)
  | .motion _, .generic (.rawMotion _) => decide (if context.allowsRaw then .keep else .handle)
  | .generic (.rawMotion p), .generic (.rawMotion n) =>
    if context.allowsRaw then mergeRaw previous next p n else decide .handle
  | _, _ => decide .handle

end GuestSeat
