import GuestSeat.Event.Valuators

/-!
What the host reports when raw motion is switched on: the core pointer and a list of the devices.
-/

namespace GuestSeat

/-- The place of a device in the host's hierarchy. Masters are what clients see; the physical devices
drive them as their slaves. -/
inductive DeviceUse
  | masterPointer
  | masterKeyboard
  | slavePointer
  | slaveKeyboard
  | floating
deriving DecidableEq, Inhabited

namespace DeviceUse

def all : List DeviceUse :=
  [.masterPointer, .masterKeyboard, .slavePointer, .slaveKeyboard, .floating]

def spelling : DeviceUse → String
  | .masterPointer => "master_pointer"
  | .masterKeyboard => "master_keyboard"
  | .slavePointer => "slave_pointer"
  | .slaveKeyboard => "slave_keyboard"
  | .floating => "floating"

def codec : Codec DeviceUse := .named all spelling

end DeviceUse

structure DeviceInfo (ν : Type) where
  id : DeviceId
  use : DeviceUse
  /-- The master of a slave, the paired master of a master. -/
  attachment : DeviceId
  axes : List (AxisInfo ν) := []
deriving DecidableEq, Inhabited

def DeviceInfo.codec {ν : Type} (number : Codec ν) : Codec (DeviceInfo ν) where
  encode d := .record [("id", DeviceId.codec.encode d.id),
    ("device_use", DeviceUse.codec.encode d.use),
    ("attachment", DeviceId.codec.encode d.attachment),
    ("valuators", (AxisInfo.codec number).list.encode d.axes)]
  decode p := do
    let row ← Row.read? ["id", "device_use", "attachment", "valuators"] p
    return {
      id := ← row.required "id" DeviceId.codec
      use := ← row.required "device_use" DeviceUse.codec
      attachment := ← row.required "attachment" DeviceId.codec
      axes := ← row.defaulted "valuators" (AxisInfo.codec number).list [] }

structure RawSession (ν : Type) where
  corePointer : DeviceId
  devices : List (DeviceInfo ν)
deriving DecidableEq, Inhabited

namespace RawSession

variable {ν : Type}

/-- The axes of the core pointer; none if the list lacks it. -/
def coreAxes (s : RawSession ν) : List (AxisInfo ν) :=
  match s.devices.find? fun d => d.id == s.corePointer with
  | none => []
  | some d => d.axes

def codec (number : Codec ν) : Codec (RawSession ν) where
  encode s := .record [("core_pointer", DeviceId.codec.encode s.corePointer),
    ("devices", (DeviceInfo.codec number).list.encode s.devices)]
  decode p := do
    let row ← Row.read? ["core_pointer", "devices"] p
    return {
      corePointer := ← row.required "core_pointer" DeviceId.codec
      devices := ← row.required "devices" (DeviceInfo.codec number).list }

end RawSession

end GuestSeat
