import GuestSeat.Geometry.Rect
import GuestSeat.RawMotion.Session

/-!
Accumulation of raw motion. Devices report steps with a fraction; what is left of a step after its
whole part was passed on stays behind on its axis, so that slow motion adds up. Only the devices that
drive the core pointer count, one at a time.
-/

namespace GuestSeat

/-- The arithmetic that motion is reckoned in. Binary64 is what runs; exact rationals do as well. -/
class MotionNumber (ν : Type) extends Zero ν, Add ν, Sub ν, Mul ν, Div ν where
  ofInt : Int → ν
  less : ν → ν → Bool
  /-- Whether a value is less than one away from zero. -/
  isFraction : ν → Bool
  /-- The whole part, toward zero. -/
  whole : ν → ν
  /-- The whole part as a coordinate; beyond the coordinates' range, its nearer end. -/
  toCoordinate : ν → Int

instance : MotionNumber Float where
  zero := 0
  ofInt := Float.ofInt
  less a b := a < b
  isFraction x := x.abs < 1
  whole x := if x < 0 then x.ceil else x.floor
  toCoordinate x := x.toInt32.toInt

/-- Whether the host has raw motion and whether it is switched on. -/
inductive RawStatus
  /-- Nobody has asked yet. -/
  | unknown
  /-- It has none, which is not asked again. -/
  | unavailable
  | disabled
  | enabled
deriving DecidableEq, Inhabited

namespace RawStatus

def spelling : RawStatus → String
  | .unknown => "unknown"
  | .unavailable => "unavailable"
  | .disabled => "disabled"
  | .enabled => "enabled"

def title : RawStatus → String
  | .unknown => "Unknown"
  | .unavailable => "Unavailable"
  | .disabled => "Disabled"
  | .enabled => "Enabled"

end RawStatus

/-- Where a coordinate is found among the axes of a device, and the range of its values. -/
structure AxisCalibration (ν : Type) where
  number : UInt16
  min : ν
  max : ν
deriving DecidableEq, Inhabited

namespace AxisCalibration

variable {ν : Type} [MotionNumber ν]

/-- A value on an axis with a range is a part of it and is stretched to the screen's extent; on any
other axis it is a step as it is. -/
def scale (a : AxisCalibration ν) (value : ν) (extent : Int) : ν :=
  if MotionNumber.less a.min a.max then value * MotionNumber.ofInt extent / (a.max - a.min)
  else value

/-- The step that a set of values makes along the axis. -/
def stepOf (a : AxisCalibration ν) (values : Valuators ν) (extent : Int) : ν :=
  match values.get? a.number.toNat with
  | none => 0
  | some value => a.scale value extent

end AxisCalibration

/-- What became of a raw event. -/
inductive MotionOutcome
  /-- Nothing is calibrated, or the event is of a device that does not count. -/
  | notApplicable
  /-- It was absorbed by what is left over. -/
  | pending
  | motion (step : Point)
deriving DecidableEq

structure Accumulator (ν : Type) where
  x : Option (AxisCalibration ν)
  y : Option (AxisCalibration ν)
  restX : ν
  restY : ν
  status : RawStatus
  corePointer : Option DeviceId
  /-- The device that drives the core pointer, once known. -/
  source : Option DeviceId
  devices : List (DeviceInfo ν)
deriving DecidableEq

namespace Accumulator

variable {ν : Type} [MotionNumber ν]

def initial : Accumulator ν where
  x := none
  y := none
  restX := 0
  restY := 0
  status := .unknown
  corePointer := none
  source := none
  devices := []

instance : Inhabited (Accumulator ν) := ⟨initial⟩

def isEnabled (a : Accumulator ν) : Bool := a.status == .enabled

def isCalibrated (a : Accumulator ν) : Bool := a.x.isSome && a.y.isSome

/-- Whether an axis has no label but is relative and has the given number. -/
def isUnlabelledStep (number : UInt16) (axis : AxisInfo ν) : Bool :=
  axis.label == .unlabelled && axis.mode == .relative && axis.number == number

def isHorizontal (axis : AxisInfo ν) : Bool := axis.label == .relX || isUnlabelledStep 0 axis

def isVertical (axis : AxisInfo ν) : Bool := axis.label == .relY || isUnlabelledStep 1 axis

/-- The calibration that the last fitting axis gives. -/
def calibrationOf (fits : AxisInfo ν → Bool) (axes : List (AxisInfo ν)) :
    Option (AxisCalibration ν) :=
  (axes.reverse.find? fits).map fun axis => ⟨axis.number, axis.min, axis.max⟩

/-- Find the axes of the coordinates anew; nothing is left over. -/
def calibrate (a : Accumulator ν) (axes : List (AxisInfo ν)) : Accumulator ν :=
  { a with
    x := calibrationOf isHorizontal axes
    y := calibrationOf isVertical axes
    restX := 0
    restY := 0 }

def withdraw (a : Accumulator ν) : Accumulator ν := { a with status := .unavailable }

def enable (a : Accumulator ν) (session : RawSession ν) : Accumulator ν :=
  { a.calibrate session.coreAxes with
    corePointer := some session.corePointer
    source := none
    devices := session.devices
    status := .enabled }

/-- End the session, if there is one, and forget what it brought. -/
def disable (a : Accumulator ν) : Accumulator ν :=
  if a.isEnabled then { (initial : Accumulator ν) with status := .disabled } else a

/-- Whether a change names a new source of the core pointer. -/
def isSourceSwitch (a : Accumulator ν) (change : DeviceChangeEvent ν) : Bool :=
  a.corePointer == some change.device && change.reason == .sourceSwitch

/-- Follow a change of the core pointer's source; other changes are ignored. -/
def follow (a : Accumulator ν) (change : DeviceChangeEvent ν) : Accumulator ν :=
  if a.isSourceSwitch change then { a.calibrate change.axes with source := some change.source }
  else a

/-- Whether the session's list names `device` as a slave of the core pointer. -/
def isAttached (a : Accumulator ν) (device : DeviceId) : Bool :=
  a.devices.any fun d =>
    d.use == .slavePointer && d.id == device && a.corePointer == some d.attachment

/-- The source after `device` sent an event: if none was known and the device is attached, it is this
one. -/
def sourceAfter (a : Accumulator ν) (device : DeviceId) : Option DeviceId :=
  if a.source.isNone && a.isAttached device then some device else a.source

/-- Add a step to what is left over, and pass on the whole part unless both coordinates are fractions. -/
def advance (a : Accumulator ν) (dx dy : ν) : Accumulator ν × MotionOutcome :=
  let sumX := a.restX + dx
  let sumY := a.restY + dy
  if MotionNumber.isFraction sumX && MotionNumber.isFraction sumY then
    ({ a with restX := sumX, restY := sumY }, .pending)
  else
    let wholeX := MotionNumber.whole sumX
    let wholeY := MotionNumber.whole sumY
    ({ a with restX := sumX - wholeX, restY := sumY - wholeY },
      .motion ⟨MotionNumber.toCoordinate wholeX, MotionNumber.toCoordinate wholeY⟩)

/-- Take in a raw event on a screen of the given extents. -/
def accumulate (a : Accumulator ν) (event : RawMotionEvent ν) (screen : Rect) :
    Accumulator ν × MotionOutcome :=
  match a.x, a.y with
  | some x, some y =>
    if event.valuators.isEmpty || !a.isEnabled then (a, .notApplicable)
    else if a.sourceAfter event.device == some event.device then
      { a with source := some event.device }.advance
        (x.stepOf event.valuators screen.width) (y.stepOf event.valuators screen.height)
    else (a, .notApplicable)
  | _, _ => (a, .notApplicable)

end Accumulator

end GuestSeat
