import GuestSeat.Event.Basic

/-!
Host events in documents. Payloads are records whose state and time default to zero; the kind of an
event stands beside its payload, the kind of a client message among its fields.
-/

namespace GuestSeat

namespace NotifyDetail

def all : List NotifyDetail :=
  [.ancestor, .virtual, .inferior, .nonlinear, .nonlinearVirtual, .pointer, .pointerRoot, .none]

def spelling : NotifyDetail → String
  | .ancestor => "ancestor"
  | .virtual => "virtual"
  | .inferior => "inferior"
  | .nonlinear => "nonlinear"
  | .nonlinearVirtual => "nonlinear_virtual"
  | .pointer => "pointer"
  | .pointerRoot => "pointer_root"
  | .none => "none"

def codec : Codec NotifyDetail := .named all spelling

end NotifyDetail

namespace NotifyMode

def all : List NotifyMode := [.normal, .grab, .ungrab, .whileGrabbed]

def spelling : NotifyMode → String
  | .normal => "normal"
  | .grab => "grab"
  | .ungrab => "ungrab"
  | .whileGrabbed => "while_grabbed"

def codec : Codec NotifyMode := .named all spelling

end NotifyMode

namespace EventTag

def all : List EventTag :=
  [.key, .button, .motion, .enter, .leave, .focusIn, .focusOut, .expose, .map, .unmap, .destroy,
    .reparent, .configure, .gravity, .property, .clientMessage, .rawMotion, .deviceChanged,
    .otherExtension]

def spelling : EventTag → String
  | .key => "key"
  | .button => "button"
  | .motion => "motion"
  | .enter => "enter"
  | .leave => "leave"
  | .focusIn => "focus_in"
  | .focusOut => "focus_out"
  | .expose => "expose"
  | .map => "map"
  | .unmap => "unmap"
  | .destroy => "destroy"
  | .reparent => "reparent"
  | .configure => "configure"
  | .gravity => "gravity"
  | .property => "property"
  | .clientMessage => "client_message"
  | .rawMotion => "raw_motion"
  | .deviceChanged => "device_changed"
  | .otherExtension => "extension"

def codec : Codec EventTag := .named all spelling

end EventTag

namespace Point

/-- The two entries of a position inside a larger record. -/
def entries (p : Point) : List (String × Tree) := [("x", .int p.x), ("y", .int p.y)]

/-- A position among the fields of a larger record. -/
def ofRow? (row : Row) : Option Point := do
  return { x := ← row.required "x" .i32, y := ← row.required "y" .i32 }

end Point

/-- The entries of the modifier state and time that close most payloads. -/
def stateEntries (state : UInt16) (time : Timestamp) : List (String × Tree) :=
  [("state", Codec.u16.encode state), ("time", Codec.u32.encode time)]

def KeyEvent.codec : Codec KeyEvent where
  encode e := .record ([("pressed", .bool e.pressed), ("keycode", Codec.u8.encode e.keycode)] ++
    stateEntries e.state e.time)
  decode p := do
    let row ← Row.read? ["pressed", "keycode", "state", "time"] p
    return {
      pressed := ← row.required "pressed" .bool
      keycode := ← row.required "keycode" .u8
      state := ← row.defaulted "state" .u16 0
      time := ← row.defaulted "time" .u32 0 }

def ButtonEvent.codec : Codec ButtonEvent where
  encode e := .record ([("pressed", .bool e.pressed), ("button", Codec.u8.encode e.button)] ++
    e.position.entries ++ stateEntries e.state e.time)
  decode p := do
    let row ← Row.read? ["pressed", "button", "x", "y", "state", "time"] p
    return {
      pressed := ← row.required "pressed" .bool
      button := ← row.required "button" .u8
      position := ← Point.ofRow? row
      state := ← row.defaulted "state" .u16 0
      time := ← row.defaulted "time" .u32 0 }

def MotionEvent.codec : Codec MotionEvent where
  encode e := .record (e.position.entries ++ stateEntries e.state e.time)
  decode p := do
    let row ← Row.read? ["x", "y", "state", "time"] p
    return {
      position := ← Point.ofRow? row
      state := ← row.defaulted "state" .u16 0
      time := ← row.defaulted "time" .u32 0 }

def CrossingEvent.codec : Codec CrossingEvent where
  encode e := .record (e.position.entries ++ [("detail", NotifyDetail.codec.encode e.detail)] ++
    stateEntries e.state e.time)
  decode p := do
    let row ← Row.read? ["x", "y", "detail", "state", "time"] p
    return {
      position := ← Point.ofRow? row
      detail := ← row.required "detail" NotifyDetail.codec
      state := ← row.defaulted "state" .u16 0
      time := ← row.defaulted "time" .u32 0 }

def FocusEvent.codec : Codec FocusEvent where
  encode e := .record [("detail", NotifyDetail.codec.encode e.detail),
    ("mode", NotifyMode.codec.encode e.mode)]
  decode p := do
    let row ← Row.read? ["detail", "mode"] p
    return {
      detail := ← row.required "detail" NotifyDetail.codec
      mode := ← row.required "mode" NotifyMode.codec }

def ExposeEvent.codec : Codec ExposeEvent where
  encode e := .record (e.position.entries ++
    [("width", Codec.u32.encode e.width), ("height", Codec.u32.encode e.height)])
  decode p := do
    let row ← Row.read? ["x", "y", "width", "height"] p
    return {
      position := ← Point.ofRow? row
      width := ← row.required "width" .u32
      height := ← row.required "height" .u32 }

def ConfigureEvent.codec : Codec ConfigureEvent where
  encode e := .record (e.position.entries ++
    [("width", Codec.u32.encode e.width), ("height", Codec.u32.encode e.height)])
  decode p := do
    let row ← Row.read? ["x", "y", "width", "height"] p
    return {
      position := ← Point.ofRow? row
      width := ← row.required "width" .u32
      height := ← row.required "height" .u32 }

def ReparentEvent.codec : Codec ReparentEvent where
  encode e := .record (("parent", HostWindow.codec.encode e.parent) :: e.position.entries)
  decode p := do
    let row ← Row.read? ["parent", "x", "y"] p
    return {
      parent := ← row.required "parent" HostWindow.codec
      position := ← Point.ofRow? row }

def GravityEvent.codec : Codec GravityEvent where
  encode e := .record e.position.entries
  decode p := do
    let row ← Row.read? ["x", "y"] p
    return { position := ← Point.ofRow? row }

/-- An alternative that carries one word, under the name `other`. -/
def otherEntry (word : UInt32) : Tree := .record [("other", Codec.u32.encode word)]

/-- A property is named, or given as an atom under `other`. -/
def PropertyAtom.codec : Codec PropertyAtom where
  encode
    | .wmState => .str "wm_state"
    | .netWmState => .str "net_wm_state"
    | .other atom => otherEntry atom
  decode p := do
    let (name, content) ← p.variant?
    match name with
    | "wm_state" => Part.alone? .wmState content
    | "net_wm_state" => Part.alone? .netWmState content
    | "other" => return .other (← Codec.u32.decode (← content))
    | _ => none

namespace PropertyChange

def all : List PropertyChange := [.newValue, .deleted]

def spelling : PropertyChange → String
  | .newValue => "new_value"
  | .deleted => "deleted"

def codec : Codec PropertyChange := .named all spelling

end PropertyChange

def PropertyEvent.codec : Codec PropertyEvent where
  encode e := .record [("atom", PropertyAtom.codec.encode e.atom),
    ("state", PropertyChange.codec.encode e.change), ("time", Codec.u32.encode e.time)]
  decode p := do
    let row ← Row.read? ["atom", "state", "time"] p
    return {
      atom := ← row.required "atom" PropertyAtom.codec
      change := ← row.required "state" PropertyChange.codec
      time := ← row.defaulted "time" .u32 0 }

def WmProtocol.codec : Codec WmProtocol where
  encode
    | .deleteWindow => .str "delete_window"
    | .takeFocus => .str "take_focus"
    | .ping => .str "ping"
    | .other atom => otherEntry atom
  decode p := do
    let (name, content) ← p.variant?
    match name with
    | "delete_window" => Part.alone? .deleteWindow content
    | "take_focus" => Part.alone? .takeFocus content
    | "ping" => Part.alone? .ping content
    | "other" => return .other (← Codec.u32.decode (← content))
    | _ => none

def EmbedMessage.codec : Codec EmbedMessage where
  encode
    | .embeddedNotify => .str "embedded_notify"
    | .windowDeactivate => .str "window_deactivate"
    | .focusOut => .str "focus_out"
    | .modalityOn => .str "modality_on"
    | .modalityOff => .str "modality_off"
    | .other opcode => otherEntry opcode
  decode p := do
    let (name, content) ← p.variant?
    match name with
    | "embedded_notify" => Part.alone? .embeddedNotify content
    | "window_deactivate" => Part.alone? .windowDeactivate content
    | "focus_out" => Part.alone? .focusOut content
    | "modality_on" => Part.alone? .modalityOn content
    | "modality_off" => Part.alone? .modalityOff content
    | "other" => return .other (← Codec.u32.decode (← content))
    | _ => none

def ClientMessage.codec : Codec ClientMessage where
  encode
    | .wmProtocols protocol time => .record [("kind", .str "wm_protocols"),
        ("protocol", WmProtocol.codec.encode protocol), ("time", Codec.u32.encode time)]
    | .embed message time => .record [("kind", .str "xembed"),
        ("message", EmbedMessage.codec.encode message), ("time", Codec.u32.encode time)]
    | .other messageType => .record [("kind", .str "other"),
        ("message_type", Codec.u32.encode messageType)]
  decode p := do
    let (kind, rest) ← p.tagged? "kind" ["wm_protocols", "xembed", "other"]
    match kind with
    | "wm_protocols" =>
      let row ← Row.read? ["protocol", "time"] rest
      return .wmProtocols (← row.required "protocol" WmProtocol.codec) (← row.required "time" .u32)
    | "xembed" =>
      let row ← Row.read? ["message", "time"] rest
      return .embed (← row.required "message" EmbedMessage.codec) (← row.required "time" .u32)
    | "other" =>
      let row ← Row.read? ["message_type"] rest
      return .other (← row.required "message_type" .u32)
    | _ => none

def DataWords.codec : Codec DataWords := Codec.u32.vector 5

def ClientMessageEvent.codec : Codec ClientMessageEvent where
  encode e := .record [("format", Codec.u8.encode e.format),
    ("message", ClientMessage.codec.encode e.message), ("data", DataWords.codec.encode e.data)]
  decode p := do
    let row ← Row.read? ["format", "message", "data"] p
    return {
      format := ← row.required "format" .u8
      message := ← row.required "message" ClientMessage.codec
      data := ← row.defaulted "data" DataWords.codec (Vector.replicate 5 0) }

/-- A record of an alternative's name and, if it has any, its content. -/
def adjacentRecord (tag content name : String) : Option Tree → Tree
  | none => .record [(tag, .str name)]
  | some t => .record [(tag, .str name), (content, t)]

def ExtensionEvent.codec : Codec ExtensionEvent where
  encode e :=
    let write := adjacentRecord "evtype" "payload"
    match e with
    | .rawMotion e => write "raw_motion" (some ((RawMotionEvent.codec .float).encode e))
    | .deviceChanged e => write "device_changed" (some ((DeviceChangeEvent.codec .float).encode e))
    | .missing => write "missing" none
    | .unknown opcode eventType => write "unknown" (some (.record
        [("extension", Codec.u8.encode opcode), ("evtype", Codec.u16.encode eventType)]))
  decode p := do
    let (name, content) ← p.adjacent? "evtype" "payload"
      ["raw_motion", "device_changed", "missing", "unknown"]
    match name with
    | "raw_motion" => return .rawMotion (← (RawMotionEvent.codec .float).decode (← content))
    | "device_changed" =>
      return .deviceChanged (← (DeviceChangeEvent.codec .float).decode (← content))
    | "missing" => Part.noContent? .missing content
    | "unknown" =>
      let row ← Row.readNamed? ["extension", "evtype"] (← content)
      return .unknown (← row.required "extension" .u8) (← row.required "evtype" .u16)
    | _ => none

namespace EventKind

def payload : EventKind → Option Tree
  | .key e => some (KeyEvent.codec.encode e)
  | .button e => some (ButtonEvent.codec.encode e)
  | .motion e => some (MotionEvent.codec.encode e)
  | .enter e | .leave e => some (CrossingEvent.codec.encode e)
  | .focusIn e | .focusOut e => some (FocusEvent.codec.encode e)
  | .expose e => some (ExposeEvent.codec.encode e)
  | .map | .unmap | .destroy => none
  | .reparent e => some (ReparentEvent.codec.encode e)
  | .configure e => some (ConfigureEvent.codec.encode e)
  | .gravity e => some (GravityEvent.codec.encode e)
  | .property e => some (PropertyEvent.codec.encode e)
  | .clientMessage e => some (ClientMessageEvent.codec.encode e)
  | .generic e => some (ExtensionEvent.codec.encode e)

/-- The name of the kind in documents, where all extension events share one. -/
def name : EventKind → String
  | .generic _ => "generic"
  | kind => kind.tag.spelling

def names : List String :=
  ["key", "button", "motion", "enter", "leave", "focus_in", "focus_out", "expose", "map", "unmap",
    "destroy", "reparent", "configure", "gravity", "property", "client_message", "generic"]

def codec : Codec EventKind where
  encode kind := adjacentRecord "type" "data" kind.name kind.payload
  decode p := do
    let (name, content) ← p.adjacent? "type" "data" names
    match name with
    | "key" => return .key (← KeyEvent.codec.decode (← content))
    | "button" => return .button (← ButtonEvent.codec.decode (← content))
    | "motion" => return .motion (← MotionEvent.codec.decode (← content))
    | "enter" => return .enter (← CrossingEvent.codec.decode (← content))
    | "leave" => return .leave (← CrossingEvent.codec.decode (← content))
    | "focus_in" => return .focusIn (← FocusEvent.codec.decode (← content))
    | "focus_out" => return .focusOut (← FocusEvent.codec.decode (← content))
    | "expose" => return .expose (← ExposeEvent.codec.decode (← content))
    | "map" => Part.noContent? .map content
    | "unmap" => Part.noContent? .unmap content
    | "destroy" => Part.noContent? .destroy content
    | "reparent" => return .reparent (← ReparentEvent.codec.decode (← content))
    | "configure" => return .configure (← ConfigureEvent.codec.decode (← content))
    | "gravity" => return .gravity (← GravityEvent.codec.decode (← content))
    | "property" => return .property (← PropertyEvent.codec.decode (← content))
    | "client_message" => return .clientMessage (← ClientMessageEvent.codec.decode (← content))
    | "generic" => return .generic (← ExtensionEvent.codec.decode (← content))
    | _ => none

end EventKind

def EventRecord.codec : Codec EventRecord where
  encode e := .record [("serial", Serial.codec.encode e.serial),
    ("window", HostWindow.codec.encode e.window), ("send_event", .bool e.sent),
    ("kind", EventKind.codec.encode e.kind)]
  decode p := do
    let row ← Row.read? ["serial", "window", "send_event", "kind"] p
    return {
      serial := ← row.required "serial" Serial.codec
      window := ← row.required "window" HostWindow.codec
      sent := ← row.defaulted "send_event" .bool false
      kind := ← row.required "kind" EventKind.codec }

end GuestSeat
