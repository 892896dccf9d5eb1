import GuestSeat.Seat.Basic

/-!
Raw motion of a seat: switching it on and off at the host, and turning raw events into relative mouse
input.
-/

namespace GuestSeat.Scene

def editRaw (s : Scene) (f : Accumulator Float → Accumulator Float) : Scene :=
  s.edit fun i => { i with raw := f i.raw }

/-- Switch raw motion on; whether it is on then. A host that has none is asked once. -/
def enableRaw (s : Scene) : Scene × Bool :=
  match s.seat.input.raw.status with
  | .enabled => (s, true)
  | .unavailable => (s, false)
  | .unknown | .disabled =>
    let s := s.request .enableRawMotion
    match s.env.rawSession with
    | some session => (s.editRaw fun raw => raw.enable session, true)
    | none => (s.editRaw Accumulator.withdraw, false)

def disableRaw (s : Scene) : Scene :=
  if s.seat.input.raw.isEnabled then (s.request .disableRawMotion).editRaw Accumulator.disable
  else s

/-- Release the warp fence if an event is new enough; whether the event is older than the warp. -/
def passWarpFence (s : Scene) (serial : Serial) : Scene × Bool :=
  (s.edit fun i => { i with warpFence := i.warpFence.pass serial },
    s.seat.input.warpFence.holdsBack serial)

/-- Take in a raw event and pass on the motion that it completes. -/
def accumulateRaw (s : Scene) (raw : RawMotionEvent Float) : Scene × Bool :=
  let (accumulator, outcome) := s.seat.input.raw.accumulate raw s.env.virtualScreen
  let s := s.editRaw fun _ => accumulator
  match outcome with
  | .motion step =>
    let input := MouseInput.step (s.env.map.scaleStep step) raw.time
    (s.act fun env => env.feed Handle.null (.mouse input), true)
  | .pending | .notApplicable => (s, false)

/-- A raw event. It is checked against the warp fence only if the host's raw events ignore warps. -/
def rawMotion (s : Scene) (serial : Serial) (raw : RawMotionEvent Float) : Scene × Bool :=
  if s.seat.config.pointer.brokenRawEvents then
    match s.passWarpFence serial with
    | (s, true) => (s, false)
    | (s, false) => s.accumulateRaw raw
  else s.accumulateRaw raw

/-- A change of the host's devices; whether the core pointer has a new source. -/
def deviceChanged (s : Scene) (change : DeviceChangeEvent Float) : Scene × Bool :=
  (s.editRaw fun raw => raw.follow change, s.seat.input.raw.isSourceSwitch change)

end GuestSeat.Scene
