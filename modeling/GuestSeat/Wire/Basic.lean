import GuestSeat.Event.Basic

/-!
Host events as they come over the wire: atoms and modes are numbers, sequence numbers have sixteen bits,
axis values are fixed-point numbers, and only the fields that matter to a seat are kept.
-/

namespace GuestSeat.Wire

/-- The numbers that the host gave to the names in use. -/
structure AtomTable where
  wmState : UInt32
  netWmState : UInt32
  wmProtocols : UInt32
  deleteWindow : UInt32
  takeFocus : UInt32
  ping : UInt32
  embed : UInt32
  relX : UInt32
  relY : UInt32
deriving DecidableEq, Inhabited

/-- A number with thirty-two bits on either side of the point. -/
structure FixedPoint where
  integral : Int
  fraction : UInt32
deriving DecidableEq, Inhabited

def FixedPoint.toFloat (x : FixedPoint) : Float :=
  Float.ofInt x.integral + Float.ofNat x.fraction.toNat / 4294967296.0

/-- An axis of a device; the mode is zero for a relative axis. -/
structure AxisClass where
  number : UInt16
  label : UInt32
  min : FixedPoint
  max : FixedPoint
  mode : UInt8
deriving DecidableEq, Inhabited

inductive Payload
  | key (event : KeyEvent)
  | button (event : ButtonEvent)
  | motion (event : MotionEvent)
  | enter (position : Point) (detail : UInt8) (state : UInt16) (time : Timestamp)
  | leave (position : Point) (detail : UInt8) (state : UInt16) (time : Timestamp)
  | focusIn (detail mode : UInt8)
  | focusOut (detail mode : UInt8)
  | expose (event : ExposeEvent)
  | map
  | unmap
  | destroy
  | reparent (event : ReparentEvent)
  | configure (event : ConfigureEvent)
  | gravity (event : GravityEvent)
  /-- The change is zero for a new value. -/
  | property (atom : UInt32) (change : UInt8) (time : Timestamp)
  | client (format : UInt8) (type : UInt32) (data : DataWords)
  | rawMotion (device : DeviceId) (time : Timestamp) (mask : List UInt32) (values : List FixedPoint)
  /-- The reason is one for a new source; a class that is no axis is none. -/
  | deviceChanged (device source : DeviceId) (reason : UInt8) (classes : List (Option AxisClass))
  /-- Of no interest to a seat. -/
  | other
deriving DecidableEq

structure Event where
  sequence : UInt16
  window : HostWindow
  /-- Sent by a client rather than by the host. -/
  sent : Bool := false
  payload : Payload
deriving DecidableEq

/-- The serials recovered so far. -/
structure Widener where
  /-- The largest one. -/
  last : Nat
deriving DecidableEq, Inhabited

namespace Widener

/-- How many serials share their last sixteen bits in turn. -/
def span : Nat := 0x10000

/-- How far a serial may lie from the largest one. -/
def reach : Nat := 0x8000

/-- The serial with the given last bits that lies nearest to the largest one. -/
def nearest (w : Widener) (sequence : UInt16) : Nat :=
  let candidate := w.last - w.last % span + sequence.toNat
  if candidate + reach < w.last then candidate + span
  else if w.last + reach < candidate ∧ span ≤ candidate then candidate - span
  else candidate

def widen (w : Widener) (sequence : UInt16) : Widener × Serial :=
  (⟨max w.last (w.nearest sequence)⟩, ⟨UInt64.ofNat (w.nearest sequence)⟩)

end Widener

end GuestSeat.Wire
