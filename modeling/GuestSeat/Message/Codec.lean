import GuestSeat.Document.Shape
import GuestSeat.Message.Basic

/-!
Guest messages, replies and deliveries in documents. The kind of a message is one of its entries; a reply
is a name or a record with a single entry.
-/

namespace GuestSeat

namespace SysCommand

def all : List SysCommand := [.minimize, .maximize, .restore, .close]

def spelling : SysCommand → String
  | .minimize => "minimize"
  | .maximize => "maximize"
  | .restore => "restore"
  | .close => "close"

def codec : Codec SysCommand := .named all spelling

end SysCommand

namespace HitTest

def all : List HitTest := [.close, .menu]

def spelling : HitTest → String
  | .close => "close"
  | .menu => "menu"

def codec : Codec HitTest := .named all spelling

end HitTest

namespace Activation

def all : List Activation := [.activate, .activateAndEat, .noActivate, .noActivateAndEat]

def spelling : Activation → String
  | .activate => "activate"
  | .activateAndEat => "activate_and_eat"
  | .noActivate => "no_activate"
  | .noActivateAndEat => "no_activate_and_eat"

def codec : Codec Activation := .named all spelling

end Activation

namespace GuestMessage

def kinds : List String :=
  ["sys_command", "close", "cancel_mode", "mouse_activate", "clip_cursor_notify",
    "clip_cursor_reset", "clip_cursor_request", "release_cursor", "set_cursor", "query_clip_owner",
    "enable_window", "redraw"]

def tagged (kind : String) (entries : List (String × Tree)) : Tree :=
  .record (("msg", .str kind) :: entries)

def encode : GuestMessage → Tree
  | .sysCommand command => tagged "sys_command" [("command", SysCommand.codec.encode command)]
  | .close => tagged "close" []
  | .cancelMode => tagged "cancel_mode" []
  | .mouseActivate top hit => tagged "mouse_activate"
      [("top", Handle.codec.encode top), ("hit", HitTest.codec.encode hit)]
  | .clipOwnerChanged source target => tagged "clip_cursor_notify"
      [("from", Handle.codec.encode source), ("to", Handle.codec.encode target)]
  | .clipReset => tagged "clip_cursor_reset" []
  | .clipRequest => tagged "clip_cursor_request" []
  | .releaseCursor => tagged "release_cursor" []
  | .setCursor cursor => tagged "set_cursor" [("cursor", CursorId.codec.option.encode cursor)]
  | .queryClipOwner => tagged "query_clip_owner" []
  | .enableWindow enable => tagged "enable_window" [("enable", .bool enable)]
  | .redraw rect => tagged "redraw" [("rect", Rect.codec.encode rect)]

def bare (message : GuestMessage) (p : Part) : Option GuestMessage :=
  if p.isBare then some message else none

def decode (p : Part) : Option GuestMessage := do
  let (kind, p) ← p.tagged? "msg" kinds
  match kind with
  | "sys_command" =>
    let row ← Row.read? ["command"] p
    return .sysCommand (← row.required "command" SysCommand.codec)
  | "close" => bare .close p
  | "cancel_mode" => bare .cancelMode p
  | "mouse_activate" =>
    let row ← Row.read? ["top", "hit"] p
    return .mouseActivate (← row.required "top" Handle.codec) (← row.required "hit" HitTest.codec)
  | "clip_cursor_notify" =>
    let row ← Row.read? ["from", "to"] p
    return .clipOwnerChanged (← row.required "from" Handle.codec)
      (← row.required "to" Handle.codec)
  | "clip_cursor_reset" => bare .clipReset p
  | "clip_cursor_request" => bare .clipRequest p
  | "release_cursor" => bare .releaseCursor p
  | "set_cursor" =>
    let row ← Row.read? ["cursor"] p
    return .setCursor (← row.optional "cursor" CursorId.codec)
  | "query_clip_owner" => bare .queryClipOwner p
  | "enable_window" =>
    let row ← Row.read? ["enable"] p
    return .enableWindow (← row.required "enable" .bool)
  | "redraw" =>
    let row ← Row.read? ["rect"] p
    return .redraw (← row.required "rect" Rect.codec)
  | _ => none

def codec : Codec GuestMessage := ⟨encode, decode⟩

end GuestMessage

def MessageReply.codec : Codec MessageReply where
  encode
    | .default => .str "default"
    | .handled result => .record [("handled", .bool result)]
    | .activate activation => .record [("activate", Activation.codec.encode activation)]
    | .clipOwner owner => .record [("clip_owner", Handle.codec.encode owner)]
  decode p := do
    let (name, content) ← p.variant?
    match name with
    | "default" => Part.alone? .default content
    | "handled" => return .handled (← Codec.bool.decode (← content))
    | "activate" => return .activate (← Activation.codec.decode (← content))
    | "clip_owner" => return .clipOwner (← Handle.codec.decode (← content))
    | _ => none

def Delivered.codec : Codec Delivered where
  encode d := .record [("hwnd", Handle.codec.encode d.window),
    ("message", GuestMessage.codec.encode d.message), ("sync", .bool d.sync)]
  decode p := do
    let row ← Row.read? ["hwnd", "message", "sync"] p
    return {
      window := ← row.required "hwnd" Handle.codec
      message := ← row.required "message" GuestMessage.codec
      sync := ← row.required "sync" .bool }

end GuestSeat
