import GuestSeat.Event.Valuators
import GuestSeat.Geometry.Rect
import GuestSeat.Serial

/-!
Host events. An event names the host window it concerns, carries the serial of the last request that
the host had seen, and says whether a client forged it. Positions are relative to the window unless a
handler says otherwise.
-/

namespace GuestSeat

structure KeyEvent where
  pressed : Bool
  keycode : UInt8
  state : UInt16 := 0
  time : Timestamp := 0
deriving DecidableEq, Inhabited

structure ButtonEvent where
  pressed : Bool
  /-- Counted from one. -/
  button : UInt8
  position : Point
  state : UInt16 := 0
  time : Timestamp := 0
deriving DecidableEq, Inhabited

structure MotionEvent where
  position : Point
  state : UInt16 := 0
  time : Timestamp := 0
deriving DecidableEq, Inhabited

/-- Which windows a change of focus, or of the window under the pointer, passes through. -/
inductive NotifyDetail
  | ancestor
  | virtual
  | inferior
  | nonlinear
  | nonlinearVirtual
  /-- Only the pointer crossed; keyboard focus did not change. -/
  | pointer
  | pointerRoot
  | none
deriving DecidableEq, Inhabited

structure CrossingEvent where
  position : Point
  detail : NotifyDetail
  state : UInt16 := 0
  time : Timestamp := 0
deriving DecidableEq, Inhabited

inductive NotifyMode
  | normal
  | grab
  | ungrab
  | whileGrabbed
deriving DecidableEq, Inhabited

/-- Whether the change is a side effect of a keyboard grab of the host itself. -/
def NotifyMode.isGrabEffect : NotifyMode → Bool
  | .grab | .ungrab => true
  | .normal | .whileGrabbed => false

structure FocusEvent where
  detail : NotifyDetail
  mode : NotifyMode
deriving DecidableEq, Inhabited

/-- A part of a window that has to be drawn again. -/
structure ExposeEvent where
  position : Point
  width : UInt32
  height : UInt32
deriving DecidableEq, Inhabited

def ExposeEvent.rect (e : ExposeEvent) : Rect := Rect.ofSize e.position.x e.position.y e.width e.height

structure ReparentEvent where
  parent : HostWindow
  position : Point
deriving DecidableEq, Inhabited

structure ConfigureEvent where
  position : Point
  width : UInt32
  height : UInt32
deriving DecidableEq, Inhabited

structure GravityEvent where
  position : Point
deriving DecidableEq, Inhabited

inductive PropertyAtom
  | wmState
  | netWmState
  | other (atom : UInt32)
deriving DecidableEq, Inhabited

inductive PropertyChange
  | newValue
  | deleted
deriving DecidableEq, Inhabited

structure PropertyEvent where
  atom : PropertyAtom
  change : PropertyChange
  time : Timestamp := 0
deriving DecidableEq, Inhabited

inductive WmProtocol
  | deleteWindow
  | takeFocus
  | ping
  | other (atom : UInt32)
deriving DecidableEq, Inhabited

inductive EmbedMessage
  | embeddedNotify
  | windowDeactivate
  | focusOut
  | modalityOn
  | modalityOff
  | other (opcode : UInt32)
deriving DecidableEq, Inhabited

def EmbedMessage.ofOpcode (opcode : UInt32) : EmbedMessage :=
  match opcode.toNat with
  | 0 => .embeddedNotify
  | 2 => .windowDeactivate
  | 6 => .focusOut
  | 10 => .modalityOn
  | 11 => .modalityOff
  | _ => .other opcode

inductive ClientMessage
  | wmProtocols (protocol : WmProtocol) (time : Timestamp)
  | embed (message : EmbedMessage) (time : Timestamp)
  | other (messageType : UInt32)
deriving DecidableEq, Inhabited

abbrev DataWords := Vector UInt32 5

structure ClientMessageEvent where
  /-- The size of a data item in bits. -/
  format : UInt8
  message : ClientMessage
  data : DataWords := Vector.replicate 5 0
deriving DecidableEq

/-- Events of the input extension and others outside the core protocol. -/
inductive ExtensionEvent
  | rawMotion (event : RawMotionEvent Float)
  | deviceChanged (event : DeviceChangeEvent Float)
  /-- The host did not hand out the payload. -/
  | missing
  | unknown (opcode : UInt8) (eventType : UInt16)
deriving DecidableEq

inductive EventKind
  | key (event : KeyEvent)
  | button (event : ButtonEvent)
  | motion (event : MotionEvent)
  | enter (event : CrossingEvent)
  | leave (event : CrossingEvent)
  | focusIn (event : FocusEvent)
  | focusOut (event : FocusEvent)
  | expose (event : ExposeEvent)
  | map
  | unmap
  | destroy
  | reparent (event : ReparentEvent)
  | configure (event : ConfigureEvent)
  | gravity (event : GravityEvent)
  | property (event : PropertyEvent)
  | clientMessage (event : ClientMessageEvent)
  | generic (event : ExtensionEvent)
deriving DecidableEq

structure EventRecord where
  serial : Serial
  window : HostWindow
  /-- Sent by a client rather than by the host. -/
  sent : Bool := false
  kind : EventKind
deriving DecidableEq

inductive EventTag
  | key
  | button
  | motion
  | enter
  | leave
  | focusIn
  | focusOut
  | expose
  | map
  | unmap
  | destroy
  | reparent
  | configure
  | gravity
  | property
  | clientMessage
  | rawMotion
  | deviceChanged
  | otherExtension
deriving DecidableEq, Inhabited

def EventKind.tag : EventKind → EventTag
  | .key _ => .key
  | .button _ => .button
  | .motion _ => .motion
  | .enter _ => .enter
  | .leave _ => .leave
  | .focusIn _ => .focusIn
  | .focusOut _ => .focusOut
  | .expose _ => .expose
  | .map => .map
  | .unmap => .unmap
  | .destroy => .destroy
  | .reparent _ => .reparent
  | .configure _ => .configure
  | .gravity _ => .gravity
  | .property _ => .property
  | .clientMessage _ => .clientMessage
  | .generic (.rawMotion _) => .rawMotion
  | .generic (.deviceChanged _) => .deviceChanged
  | .generic _ => .otherExtension

/-- The raw motion that an event carries, if it is of that kind. -/
def EventKind.rawMotion? : EventKind → Option (RawMotionEvent Float)
  | .generic (.rawMotion e) => some e
  | _ => none

def EventRecord.tag (e : EventRecord) : EventTag := e.kind.tag

/-- The name by which a kind of event is reported. -/
def EventTag.title : EventTag → String
  | .key => "Key"
  | .button => "Button"
  | .motion => "MotionNotify"
  | .enter => "EnterNotify"
  | .leave => "LeaveNotify"
  | .focusIn => "FocusIn"
  | .focusOut => "FocusOut"
  | .expose => "Expose"
  | .map => "MapNotify"
  | .unmap => "UnmapNotify"
  | .destroy => "DestroyNotify"
  | .reparent => "ReparentNotify"
  | .configure => "ConfigureNotify"
  | .gravity => "GravityNotify"
  | .property => "PropertyNotify"
  | .clientMessage => "ClientMessage"
  | .rawMotion => "RawMotion"
  | .deviceChanged => "DeviceChanged"
  | .otherExtension => "GenericEvent"

end GuestSeat
