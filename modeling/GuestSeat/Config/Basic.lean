import GuestSeat.Document.Shape
import GuestSeat.Text.Radix

/-!
Settings. Every section and every field has a default, so that a document may leave out any of them; a
few combinations read well but cannot work and are refused by `Config.check`.
-/

namespace GuestSeat

structure PointerConfig where
  /-- The pointer may be grabbed at all. -/
  grabPointer : Bool := true
  /-- A fullscreen window confines the pointer to its output even if there are others. -/
  grabFullscreen : Bool := false
  /-- Applications take raw input only, so motion and raw motion are never merged. -/
  rawInputOnly : Bool := false
  /-- The time from an outside reset of a clip to the next fullscreen clip. -/
  clipResetDebounce : Nat := 1000
  /-- The longest time for which the cursor is not shown again while the pointer moves. -/
  cursorSyncInterval : Nat := 100
  /-- Raw events of the host ignore warps of the pointer. -/
  brokenRawEvents : Bool := false
deriving DecidableEq, Inhabited

structure FocusConfig where
  /-- The window manager offers focus by message, so focus coming in does not activate. -/
  useTakeFocus : Bool := true
  /-- How long the foreground window is waited for to put its clip back. -/
  clipRequestTimeout : Nat := 500
  /-- How long an answer from another thread is waited for. -/
  probeTimeout : Nat := 500
deriving DecidableEq, Inhabited

structure WindowConfig where
  /-- How long the window manager is waited for to withdraw a window. -/
  waitWithdrawnTimeout : Nat := 2000
  /-- The guest lives in a single window of the host. -/
  virtualDesktop : Bool := false
deriving DecidableEq, Inhabited

structure Config where
  pointer : PointerConfig := {}
  focus : FocusConfig := {}
  window : WindowConfig := {}
deriving DecidableEq, Inhabited

/-- A setting of zero or more that takes its unit from its name. -/
abbrev Codec.duration : Codec Nat := .natural 64

namespace PointerConfig

def codec : Codec PointerConfig where
  encode c := .record [("grab_pointer", .bool c.grabPointer),
    ("grab_fullscreen", .bool c.grabFullscreen), ("raw_input_only", .bool c.rawInputOnly),
    ("clip_reset_debounce_ms", .nat c.clipResetDebounce),
    ("cursor_sync_interval_ms", .nat c.cursorSyncInterval),
    ("broken_raw_events", .bool c.brokenRawEvents)]
  decode p := do
    let usual : PointerConfig := {}
    let row ← Row.read? ["grab_pointer", "grab_fullscreen", "raw_input_only",
      "clip_reset_debounce_ms", "cursor_sync_interval_ms", "broken_raw_events"] p
    return {
      grabPointer := ← row.defaulted "grab_pointer" .bool usual.grabPointer
      grabFullscreen := ← row.defaulted "grab_fullscreen" .bool usual.grabFullscreen
      rawInputOnly := ← row.defaulted "raw_input_only" .bool usual.rawInputOnly
      clipResetDebounce := ← row.defaulted "clip_reset_debounce_ms" .duration usual.clipResetDebounce
      cursorSyncInterval :=
        ← row.defaulted "cursor_sync_interval_ms" .duration usual.cursorSyncInterval
      brokenRawEvents := ← row.defaulted "broken_raw_events" .bool usual.brokenRawEvents }

end PointerConfig

namespace FocusConfig

def codec : Codec FocusConfig where
  encode c := .record [("use_take_focus", .bool c.useTakeFocus),
    ("clip_request_timeout_ms", .nat c.clipRequestTimeout),
    ("probe_timeout_ms", .nat c.probeTimeout)]
  decode p := do
    let usual : FocusConfig := {}
    let row ← Row.read? ["use_take_focus", "clip_request_timeout_ms", "probe_timeout_ms"] p
    return {
      useTakeFocus := ← row.defaulted "use_take_focus" .bool usual.useTakeFocus
      clipRequestTimeout :=
        ← row.defaulted "clip_request_timeout_ms" .duration usual.clipRequestTimeout
      probeTimeout := ← row.defaulted "probe_timeout_ms" .duration usual.probeTimeout }

end FocusConfig

namespace WindowConfig

def codec : Codec WindowConfig where
  encode c := .record [("wait_withdrawn_timeout_ms", .nat c.waitWithdrawnTimeout),
    ("virtual_desktop", .bool c.virtualDesktop)]
  decode p := do
    let usual : WindowConfig := {}
    let row ← Row.read? ["wait_withdrawn_timeout_ms", "virtual_desktop"] p
    return {
      waitWithdrawnTimeout :=
        ← row.defaulted "wait_withdrawn_timeout_ms" .duration usual.waitWithdrawnTimeout
      virtualDesktop := ← row.defaulted "virtual_desktop" .bool usual.virtualDesktop }

end WindowConfig

inductive ConfigFault
  /-- A time limit of zero. -/
  | zeroTimeout (setting : String)
  /-- A fullscreen window cannot confine the pointer if the pointer may not be grabbed. -/
  | fullscreenWithoutGrab
deriving DecidableEq

def ConfigFault.message : ConfigFault → String
  | .zeroTimeout setting => setting ++ " must be greater than zero"
  | .fullscreenWithoutGrab => "grab_fullscreen requires grab_pointer"

namespace Config

def codec : Codec Config where
  encode c := .record [("pointer", PointerConfig.codec.encode c.pointer),
    ("focus", FocusConfig.codec.encode c.focus), ("window", WindowConfig.codec.encode c.window)]
  decode p := do
    let row ← Row.read? ["pointer", "focus", "window"] p
    return {
      pointer := ← row.defaulted "pointer" PointerConfig.codec {}
      focus := ← row.defaulted "focus" FocusConfig.codec {}
      window := ← row.defaulted "window" WindowConfig.codec {} }

/-- The first fault of some settings, if they have any. -/
def fault? (c : Config) : Option ConfigFault :=
  if c.focus.clipRequestTimeout = 0 then some (.zeroTimeout "focus.clip_request_timeout_ms")
  else if c.focus.probeTimeout = 0 then some (.zeroTimeout "focus.probe_timeout_ms")
  else if c.window.waitWithdrawnTimeout = 0 then
    some (.zeroTimeout "window.wait_withdrawn_timeout_ms")
  else if c.pointer.grabFullscreen && !c.pointer.grabPointer then some .fullscreenWithoutGrab
  else none

def sectionLines (name : String) (t : Tree) : List String :=
  let plain : Tree → String
    | .bool b => toString b
    | .num (.whole n) => String.ofList (Text.decimal n)
    | _ => ""
  match t with
  | .record entries => ("[" ++ name ++ "]") :: entries.map fun (key, value) => key ++ " = " ++ plain value
  | _ => []

/-- The text of a settings file that spells every setting out. -/
def text (c : Config) : String :=
  let sections := [sectionLines "pointer" (PointerConfig.codec.encode c.pointer),
    sectionLines "focus" (FocusConfig.codec.encode c.focus),
    sectionLines "window" (WindowConfig.codec.encode c.window)]
  "\n\n".intercalate (sections.map fun lines => "\n".intercalate lines) ++ "\n"

end Config

end GuestSeat
