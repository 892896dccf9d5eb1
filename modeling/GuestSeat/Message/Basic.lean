import GuestSeat.Geometry.Rect
import GuestSeat.Ids

/-!
Messages to guest windows and the replies to them. Some messages are for the guest's own window
procedures; the rest, the driver messages, are how the seats of one process talk to each other.
-/

namespace GuestSeat

inductive SysCommand
  | minimize
  | maximize
  | restore
  | close
deriving DecidableEq, Inhabited

/-- What an activation probe pretends was clicked. -/
inductive HitTest
  /-- The close button: the window manager wants the window gone. -/
  | close
  /-- The menu bar: the window manager offers focus. -/
  | menu
deriving DecidableEq, Inhabited

inductive GuestMessage
  | sysCommand (command : SysCommand)
  | close
  | cancelMode
  /-- Asks whether the window takes activation. -/
  | mouseActivate (top : Handle) (hit : HitTest)
  /-- Tells the desktop that the clip passed from one capture window to another; a null `target` means
  that `source` stopped clipping. -/
  | clipOwnerChanged (source target : Handle)
  /-- Tells a capture window that its clip was taken over or broken. -/
  | clipReset
  /-- Asks the foreground window to put the guest's clip rectangle back in place. -/
  | clipRequest
  /-- Asks the receiver to let go of the pointer. -/
  | releaseCursor
  /-- Asks the window under the pointer to show a cursor. -/
  | setCursor (cursor : Option CursorId)
  /-- Asks the desktop which capture window owns the clip. -/
  | queryClipOwner
  | enableWindow (enable : Bool)
  | redraw (rect : Rect)
deriving DecidableEq, Inhabited

def GuestMessage.isDriverMessage : GuestMessage → Bool
  | .clipOwnerChanged _ _ | .clipReset | .clipRequest | .releaseCursor | .setCursor _
  | .queryClipOwner => true
  | .sysCommand _ | .close | .cancelMode | .mouseActivate _ _ | .enableWindow _ | .redraw _ => false

inductive Activation
  | activate
  | activateAndEat
  | noActivate
  | noActivateAndEat
deriving DecidableEq, Inhabited

namespace Activation

def refuses : Activation → Bool
  | .noActivate | .noActivateAndEat => true
  | .activate | .activateAndEat => false

def eatsClick : Activation → Bool
  | .activateAndEat | .noActivateAndEat => true
  | .activate | .noActivate => false

end Activation

/-- What a message sent synchronously comes back with. -/
inductive MessageReply
  | default
  | handled (result : Bool)
  | activate (activation : Activation)
  | clipOwner (owner : Handle)
deriving DecidableEq, Inhabited

namespace MessageReply

/-- The reply read as the answer to an activation probe. -/
def activation : MessageReply → Activation
  | .activate a => a
  | _ => .activate

/-- The reply read as the owner of the clip, null if it names none. -/
def owner : MessageReply → Handle
  | .clipOwner h => h
  | _ => Handle.null

end MessageReply

inductive DeliveryFault
  | timeout (window : Handle) (milliseconds : Nat)
  | invalidWindow (window : Handle)
deriving DecidableEq

def DeliveryFault.message : DeliveryFault → String
  | .timeout window ms => "message to " ++ window.text ++ " timed out after " ++ toString ms ++ " ms"
  | .invalidWindow window => "window " ++ window.text ++ " no longer exists"

/-- A message that arrived; `sync` tells whether its sender waited for the reply. -/
structure Delivered where
  window : Handle
  message : GuestMessage
  sync : Bool
deriving DecidableEq, Inhabited

end GuestSeat
