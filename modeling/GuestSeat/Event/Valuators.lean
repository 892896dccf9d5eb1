import GuestSeat.Document.Shape
import GuestSeat.Ids

/-!
Axis values of input devices. A valuator set holds a mask of axes below thirty-two and one value for each
axis of the mask, in ascending order; a set read from a document may hold fewer or more values than
its mask has axes, and then the first axes take the values there are. The type of the values is a
parameter, so that the arithmetic done with them can be studied apart from binary64.
-/

namespace GuestSeat

structure Valuators (ν : Type) where
  mask : UInt32
  values : List ν
deriving DecidableEq, Inhabited

namespace Valuators

variable {ν : Type}

/-- Axes at or past this number are not represented. -/
def axisLimit : Nat := 32

def isSet (v : Valuators ν) (axis : Nat) : Bool := v.mask.toNat.testBit axis

def isEmpty (v : Valuators ν) : Bool := v.mask == 0

def axes (v : Valuators ν) : List Nat := (List.range axisLimit).filter v.isSet

/-- How many axes of the mask lie below `axis`, which is where its value stands. -/
def rank (v : Valuators ν) (axis : Nat) : Nat := ((List.range axis).filter v.isSet).length

def get? (v : Valuators ν) (axis : Nat) : Option ν :=
  if v.isSet axis then v.values[v.rank axis]? else none

def toList (v : Valuators ν) : List (Nat × ν) := v.axes.zip v.values

def maskOf (axes : List Nat) : UInt32 :=
  axes.foldl (fun mask axis => mask ||| UInt32.ofNat (1 <<< axis)) 0

/-- The set that holds the given values; the last value given for an axis counts, and axes that cannot
be represented are left out. -/
def ofAxes (pairs : List (Nat × ν)) : Valuators ν :=
  let latest := fun axis => pairs.reverse.lookup axis
  let axes := (List.range axisLimit).filter fun axis => (latest axis).isSome
  { mask := maskOf axes, values := axes.filterMap latest }

/-- The values of `v`, each raised by the value that `w` holds for its axis, if any. -/
def plus [Add ν] (v w : Valuators ν) : Valuators ν where
  mask := v.mask
  values := v.values.mapIdx fun slot value =>
    match (v.axes[slot]?).bind w.get? with
    | none => value
    | some step => value + step

def codec (number : Codec ν) : Codec (Valuators ν) where
  encode v := .record [("mask", Codec.u32.encode v.mask), ("values", number.list.encode v.values)]
  decode p := do
    let row ← Row.read? ["mask", "values"] p
    return {
      mask := ← row.required "mask" .u32
      values := ← row.required "values" number.list }

end Valuators

inductive AxisLabel
  | relX
  | relY
  | other
  | unlabelled
deriving DecidableEq, Inhabited

namespace AxisLabel

def all : List AxisLabel := [.relX, .relY, .other, .unlabelled]

def spelling : AxisLabel → String
  | .relX => "rel_x"
  | .relY => "rel_y"
  | .other => "other"
  | .unlabelled => "unlabelled"

end AxisLabel

inductive AxisMode
  | relative
  | absolute
deriving DecidableEq, Inhabited

namespace AxisMode

def all : List AxisMode := [.relative, .absolute]

def spelling : AxisMode → String
  | .relative => "relative"
  | .absolute => "absolute"

end AxisMode

/-- One axis of a device as the host describes it. -/
structure AxisInfo (ν : Type) where
  number : UInt16
  label : AxisLabel
  min : ν
  max : ν
  mode : AxisMode
deriving DecidableEq, Inhabited

def AxisInfo.codec {ν : Type} (number : Codec ν) : Codec (AxisInfo ν) where
  encode a := .record [("number", Codec.u16.encode a.number),
    ("label", .str a.label.spelling), ("min", number.encode a.min), ("max", number.encode a.max),
    ("mode", .str a.mode.spelling)]
  decode p := do
    let row ← Row.read? ["number", "label", "min", "max", "mode"] p
    return {
      number := ← row.required "number" .u16
      label := ← row.required "label" (.named AxisLabel.all AxisLabel.spelling)
      min := ← row.required "min" number
      max := ← row.required "max" number
      mode := ← row.required "mode" (.named AxisMode.all AxisMode.spelling) }

structure RawMotionEvent (ν : Type) where
  device : DeviceId
  time : Timestamp := 0
  valuators : Valuators ν
deriving DecidableEq, Inhabited

def RawMotionEvent.codec {ν : Type} (number : Codec ν) : Codec (RawMotionEvent ν) where
  encode e := .record [("device", DeviceId.codec.encode e.device), ("time", Codec.u32.encode e.time),
    ("valuators", (Valuators.codec number).encode e.valuators)]
  decode p := do
    let row ← Row.read? ["device", "time", "valuators"] p
    return {
      device := ← row.required "device" DeviceId.codec
      time := ← row.defaulted "time" .u32 0
      valuators := ← row.required "valuators" (Valuators.codec number) }

inductive ChangeReason
  /-- Another physical device now drives the master device. -/
  | sourceSwitch
  | deviceChange
deriving DecidableEq, Inhabited

namespace ChangeReason

def all : List ChangeReason := [.sourceSwitch, .deviceChange]

def spelling : ChangeReason → String
  | .sourceSwitch => "slave_switch"
  | .deviceChange => "device_change"

end ChangeReason

structure DeviceChangeEvent (ν : Type) where
  device : DeviceId
  source : DeviceId
  reason : ChangeReason
  axes : List (AxisInfo ν)
deriving DecidableEq, Inhabited

def DeviceChangeEvent.codec {ν : Type} (number : Codec ν) : Codec (DeviceChangeEvent ν) where
  encode e := .record [("device", DeviceId.codec.encode e.device),
    ("source", DeviceId.codec.encode e.source), ("reason", .str e.reason.spelling),
    ("valuators", (AxisInfo.codec number).list.encode e.axes)]
  decode p := do
    let row ← Row.read? ["device", "source", "reason", "valuators"] p
    return {
      device := ← row.required "device" DeviceId.codec
      source := ← row.required "source" DeviceId.codec
      reason := ← row.required "reason" (.named ChangeReason.all ChangeReason.spelling)
      axes := ← row.required "valuators" (AxisInfo.codec number).list }

end GuestSeat
