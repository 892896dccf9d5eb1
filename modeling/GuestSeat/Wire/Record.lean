import GuestSeat.Wire.Basic

/-!
Wire events as events of the library. Numbers become names, the axis values of raw motion are assigned
to the bits of the mask in turn, and sequence numbers become serials. An event of no interest does not
even touch the serials.
-/

namespace GuestSeat.Wire

namespace AtomTable

def property (atoms : AtomTable) (atom : UInt32) : PropertyAtom :=
  if atom = atoms.wmState then .wmState
  else if atom = atoms.netWmState then .netWmState
  else .other atom

def protocol (atoms : AtomTable) (atom : UInt32) : WmProtocol :=
  if atom = atoms.deleteWindow then .deleteWindow
  else if atom = atoms.takeFocus then .takeFocus
  else if atom = atoms.ping then .ping
  else .other atom

def axisLabel (atoms : AtomTable) (atom : UInt32) : AxisLabel :=
  if atom = atoms.relX then .relX
  else if atom = atoms.relY then .relY
  else if atom = 0 then .unlabelled
  else .other

end AtomTable

def detail (n : UInt8) : NotifyDetail :=
  match n.toNat with
  | 0 => .ancestor
  | 1 => .virtual
  | 2 => .inferior
  | 3 => .nonlinear
  | 4 => .nonlinearVirtual
  | 5 => .pointer
  | 6 => .pointerRoot
  | _ => .none

def mode (n : UInt8) : NotifyMode :=
  match n.toNat with
  | 1 => .grab
  | 2 => .ungrab
  | 3 => .whileGrabbed
  | _ => .normal

def bitsOf (word : UInt32) : List Nat := (List.range 32).filter word.toNat.testBit

/-- The axes of a mask of several words, ascending. -/
def axesOf (mask : List UInt32) : List Nat :=
  (mask.mapIdx fun index word => (bitsOf word).map (index * 32 + ·)).flatten

/-- The values of the axes of a mask. Axes beyond the values have none. -/
def valuators {ν : Type} (convert : FixedPoint → ν) (mask : List UInt32) (values : List FixedPoint) :
    Valuators ν :=
  Valuators.ofAxes ((axesOf mask).zip (values.map convert))

def axisInfo (atoms : AtomTable) (a : AxisClass) : AxisInfo Float where
  number := a.number
  label := atoms.axisLabel a.label
  min := a.min.toFloat
  max := a.max.toFloat
  mode := if a.mode = 0 then .relative else .absolute

def clientMessage (atoms : AtomTable) (type : UInt32) (data : DataWords) : ClientMessage :=
  if type = atoms.wmProtocols then .wmProtocols (atoms.protocol data[0]) data[1]
  else if type = atoms.embed then .embed (EmbedMessage.ofOpcode data[1]) data[0]
  else .other type

/-- What an event is about; none if a seat has no interest in it. -/
def kind? (atoms : AtomTable) : Payload → Option EventKind
  | .key e => some (.key e)
  | .button e => some (.button e)
  | .motion e => some (.motion e)
  | .enter position n state time => some (.enter { position, detail := detail n, state, time })
  | .leave position n state time => some (.leave { position, detail := detail n, state, time })
  | .focusIn n m => some (.focusIn { detail := detail n, mode := mode m })
  | .focusOut n m => some (.focusOut { detail := detail n, mode := mode m })
  | .expose e => some (.expose e)
  | .map => some .map
  | .unmap => some .unmap
  | .destroy => some .destroy
  | .reparent e => some (.reparent e)
  | .configure e => some (.configure e)
  | .gravity e => some (.gravity e)
  | .property atom change time =>
    some (.property {
      atom := atoms.property atom
      change := if change = 0 then .newValue else .deleted
      time })
  | .client format type data =>
    some (.clientMessage { format, message := clientMessage atoms type data, data })
  | .rawMotion device time mask values =>
    some (.generic (.rawMotion
      { device, time, valuators := valuators FixedPoint.toFloat mask values }))
  | .deviceChanged device source reason classes =>
    some (.generic (.deviceChanged {
      device, source
      reason := if reason = 1 then .sourceSwitch else .deviceChange
      axes := (classes.filterMap id).map (axisInfo atoms) }))
  | .other => none

/-- The window of an event; those of extensions have none. -/
def windowOf (e : Event) : HostWindow :=
  match e.payload with
  | .rawMotion _ _ _ _ | .deviceChanged _ _ _ _ => HostWindow.none
  | _ => e.window

def record (atoms : AtomTable) (w : Widener) (e : Event) : Widener × Option EventRecord :=
  match kind? atoms e.payload with
  | none => (w, none)
  | some kind =>
    let (w, serial) := w.widen e.sequence
    (w, some { serial, window := windowOf e, sent := e.sent, kind })

end GuestSeat.Wire
