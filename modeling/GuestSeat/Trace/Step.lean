import GuestSeat.Clip
import GuestSeat.Event.Codec
import GuestSeat.Event.Mask
import GuestSeat.Json.Reader
import GuestSeat.Message.Codec
import GuestSeat.Text.Blank
import GuestSeat.Window
import GuestSeat.WindowManager.State

/-!
Traces: a step a line, each in JSON. A step queues a host event, drains the queue, calls the seat as the
guest would, or changes the guest's surroundings. Blank lines and lines that begin with a number sign
are no steps.
-/

namespace GuestSeat

inductive TraceStep
  /-- Without a serial of its own the event carries that of the last request. -/
  | event (window : HostWindow) (serial : Option Serial) (sent : Bool) (kind : EventKind)
  | process (mask : Option QueueMask)
  | window (info : WindowInfo) (wmState : Option WmState)
  /-- What the window manager reports of a window from now on. -/
  | wmState (window : Handle) (state : Option WmState)
  | clipCursor (rect : Option Rect)
  | setCursorPos (position : Point)
  | setCursor (cursor : Option CursorId)
  | foreground (window : Handle)
  /-- A message from another seat. -/
  | driverMessage (window : Handle) (message : GuestMessage)
  | advance (milliseconds : Nat)
deriving DecidableEq

namespace TraceStep

def kinds : List String :=
  ["event", "process", "window", "wm_state", "clip_cursor", "set_cursor_pos", "set_cursor",
    "foreground", "driver_message", "advance"]

def tagged (kind : String) (entries : List (String × Tree)) : Tree :=
  .record (("op", .str kind) :: entries)

def encode : TraceStep → Tree
  | .event w serial sent kind => tagged "event"
      [("window", HostWindow.codec.encode w), ("serial", Serial.codec.option.encode serial),
        ("send_event", .bool sent), ("kind", EventKind.codec.encode kind)]
  | .process mask => tagged "process" [("mask", Flags.codec.option.encode mask)]
  | .window info state => tagged "window"
      [("info", WindowInfo.codec.encode info), ("wm_state", WmState.codec.option.encode state)]
  | .wmState h state => tagged "wm_state"
      [("hwnd", Handle.codec.encode h), ("state", WmState.codec.option.encode state)]
  | .clipCursor rect => tagged "clip_cursor" [("rect", Rect.codec.option.encode rect)]
  | .setCursorPos p => tagged "set_cursor_pos" p.entries
  | .setCursor cursor => tagged "set_cursor" [("cursor", CursorId.codec.option.encode cursor)]
  | .foreground h => tagged "foreground" [("hwnd", Handle.codec.encode h)]
  | .driverMessage h message => tagged "driver_message"
      [("hwnd", Handle.codec.encode h), ("message", GuestMessage.codec.encode message)]
  | .advance ms => tagged "advance" [("ms", .nat ms)]

def decode (p : Part) : Option TraceStep := do
  let (kind, p) ← p.tagged? "op" kinds
  match kind with
  | "event" =>
    let row ← Row.read? ["window", "serial", "send_event", "kind"] p
    return .event (← row.required "window" HostWindow.codec)
      (← row.defaulted "serial" Serial.codec.option none)
      (← row.defaulted "send_event" .bool false) (← row.required "kind" EventKind.codec)
  | "process" =>
    let row ← Row.read? ["mask"] p
    return .process (← row.defaulted "mask" (Codec.option Flags.codec) none)
  | "window" =>
    let row ← Row.read? ["info", "wm_state"] p
    return .window (← row.required "info" WindowInfo.codec)
      (← row.defaulted "wm_state" WmState.codec.option none)
  | "wm_state" =>
    let row ← Row.read? ["hwnd", "state"] p
    return .wmState (← row.required "hwnd" Handle.codec) (← row.optional "state" WmState.codec)
  | "clip_cursor" =>
    let row ← Row.read? ["rect"] p
    return .clipCursor (← row.optional "rect" Rect.codec)
  | "set_cursor_pos" =>
    let row ← Row.read? ["x", "y"] p
    return .setCursorPos (← Point.ofRow? row)
  | "set_cursor" =>
    let row ← Row.read? ["cursor"] p
    return .setCursor (← row.optional "cursor" CursorId.codec)
  | "foreground" =>
    let row ← Row.read? ["hwnd"] p
    return .foreground (← row.required "hwnd" Handle.codec)
  | "driver_message" =>
    let row ← Row.read? ["hwnd", "message"] p
    return .driverMessage (← row.required "hwnd" Handle.codec)
      (← row.required "message" GuestMessage.codec)
  | "advance" =>
    let row ← Row.read? ["ms"] p
    return .advance (← row.required "ms" (.natural 64))
  | _ => none

def codec : Codec TraceStep := ⟨encode, decode⟩

/-- What a line of a trace holds. -/
inductive Line
  | blank
  | step (step : TraceStep)
  | invalid
deriving DecidableEq

def ofLine (line : String) : Line :=
  match Text.trim line.toList with
  | [] | '#' :: _ => .blank
  | cs =>
    match (Json.read? (String.ofList cs)).bind codec.read? with
    | none => .invalid
    | some step => .step step

end TraceStep

end GuestSeat
