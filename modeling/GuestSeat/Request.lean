import GuestSeat.Document.Shape
import GuestSeat.Event.Codec
import GuestSeat.Geometry.Rect
import GuestSeat.WindowManager.State

/-!
Requests to the host display, and what a wait for it comes back with.
-/

namespace GuestSeat

inductive HostRequest
  /-- The rectangle is in root coordinates. -/
  | moveResize (window : HostWindow) (rect : Rect)
  | map (window : HostWindow)
  | unmap (window : HostWindow)
  | raise (window : HostWindow)
  /-- Take the pointer exclusively, confined to a window. -/
  | grabPointer (window : HostWindow)
  /-- Take the root window's pointer and let go again, to see whether another client holds it. -/
  | probeRootGrab
  | ungrabPointer
  /-- The place is in root coordinates. -/
  | warpPointer (place : Point)
  | defineCursor (window : HostWindow) (cursor : Option HostCursor)
  | enableRawMotion
  | disableRawMotion
  | setInputFocus (window : HostWindow) (time : Timestamp)
  /-- Ask the client that a window is embedded in for focus. -/
  | embedderFocus (window : HostWindow) (time : Timestamp)
  | netState (window : HostWindow) (state : NetState)
  /-- Answer a ping with its own data. -/
  | ping (data : DataWords)
deriving DecidableEq

namespace HostRequest

def kinds : List String :=
  ["move_resize", "map", "unmap", "raise", "grab_pointer", "probe_root_grab", "ungrab_pointer",
    "warp_pointer", "define_cursor", "enable_raw_motion", "disable_raw_motion", "set_input_focus",
    "embedder_focus", "net_wm_state", "ping"]

def tagged (kind : String) (entries : List (String × Tree)) : Tree :=
  .record (("request", .str kind) :: entries)

/-- The entry of the window that a request is about. -/
def windowEntry (w : HostWindow) : String × Tree := ("window", HostWindow.codec.encode w)

def timeEntry (time : Timestamp) : String × Tree := ("time", Codec.u32.encode time)

def encode : HostRequest → Tree
  | .moveResize w rect => tagged "move_resize" [windowEntry w, ("rect", Rect.codec.encode rect)]
  | .map w => tagged "map" [windowEntry w]
  | .unmap w => tagged "unmap" [windowEntry w]
  | .raise w => tagged "raise" [windowEntry w]
  | .grabPointer w => tagged "grab_pointer" [windowEntry w]
  | .probeRootGrab => tagged "probe_root_grab" []
  | .ungrabPointer => tagged "ungrab_pointer" []
  | .warpPointer place => tagged "warp_pointer" [("to", Point.codec.encode place)]
  | .defineCursor w cursor =>
    tagged "define_cursor" [windowEntry w, ("cursor", HostCursor.codec.option.encode cursor)]
  | .enableRawMotion => tagged "enable_raw_motion" []
  | .disableRawMotion => tagged "disable_raw_motion" []
  | .setInputFocus w time => tagged "set_input_focus" [windowEntry w, timeEntry time]
  | .embedderFocus w time => tagged "embedder_focus" [windowEntry w, timeEntry time]
  | .netState w state => tagged "net_wm_state" [windowEntry w, ("state", Flags.codec.encode state)]
  | .ping data => tagged "ping" [("data", DataWords.codec.encode data)]

def bare (request : HostRequest) (p : Part) : Option HostRequest :=
  if p.isBare then some request else none

/-- A request that names a window and nothing else. -/
def ofWindow (make : HostWindow → HostRequest) (p : Part) : Option HostRequest := do
  let row ← Row.read? ["window"] p
  return make (← row.required "window" HostWindow.codec)

/-- A request that names a window and a host time. -/
def ofWindowAndTime (make : HostWindow → Timestamp → HostRequest) (p : Part) :
    Option HostRequest := do
  let row ← Row.read? ["window", "time"] p
  return make (← row.required "window" HostWindow.codec) (← row.required "time" .u32)

def decode (p : Part) : Option HostRequest := do
  let (kind, p) ← p.tagged? "request" kinds
  match kind with
  | "move_resize" =>
    let row ← Row.read? ["window", "rect"] p
    return .moveResize (← row.required "window" HostWindow.codec) (← row.required "rect" Rect.codec)
  | "map" => ofWindow .map p
  | "unmap" => ofWindow .unmap p
  | "raise" => ofWindow .raise p
  | "grab_pointer" => ofWindow .grabPointer p
  | "probe_root_grab" => bare .probeRootGrab p
  | "ungrab_pointer" => bare .ungrabPointer p
  | "warp_pointer" =>
    let row ← Row.read? ["to"] p
    return .warpPointer (← row.required "to" Point.codec)
  | "define_cursor" =>
    let row ← Row.read? ["window", "cursor"] p
    return .defineCursor (← row.required "window" HostWindow.codec)
      (← row.optional "cursor" HostCursor.codec)
  | "enable_raw_motion" => bare .enableRawMotion p
  | "disable_raw_motion" => bare .disableRawMotion p
  | "set_input_focus" => ofWindowAndTime .setInputFocus p
  | "embedder_focus" => ofWindowAndTime .embedderFocus p
  | "net_wm_state" =>
    let row ← Row.read? ["window", "state"] p
    return .netState (← row.required "window" HostWindow.codec) (← row.required "state" Flags.codec)
  | "ping" =>
    let row ← Row.read? ["data"] p
    return .ping (← row.required "data" (Codec.u32.vector 5))
  | _ => none

def codec : Codec HostRequest := ⟨encode, decode⟩

end HostRequest

inductive WaitStatus
  /-- The handle at this index was signaled. -/
  | signaled (index : Nat)
  /-- The host has events, or the guest has work. -/
  | inputReady
  | timeout
deriving DecidableEq, Inhabited

def WaitStatus.codec : Codec WaitStatus where
  encode
    | .signaled index => .record [("signaled", .nat index)]
    | .inputReady => .str "input_ready"
    | .timeout => .str "timeout"
  decode p := do
    let (name, content) ← p.variant?
    match name with
    | "signaled" => return .signaled (← (Codec.natural 64).decode (← content))
    | "input_ready" => Part.alone? .inputReady content
    | "timeout" => Part.alone? .timeout content
    | _ => none

end GuestSeat
