import GuestSeat.Message.Basic
import GuestSeat.Event.Basic
import GuestSeat.Window
import GuestSeat.WindowManager.State

/-!
How a change of the window manager's state property changes what is known of a window, and the single
request by which the guest is brought in line with it.
-/

namespace GuestSeat

/-- What a notification asks of the guest window. -/
inductive Correction
  | none
  | command (command : SysCommand)
  /-- Bring a minimized window to the front, then restore it. -/
  | restoreToForeground
deriving DecidableEq, Inhabited

namespace ManagedState

/-- The state after the state property changed, and whether the guest window has to be looked at.
Window managers show a window as normal for a moment when they map it as an icon, so the first state
after withdrawal is only noted. A property that cannot be read says nothing new. -/
def observe (m : ManagedState) (change : PropertyChange) (reported : Option WmState) :
    ManagedState × Bool :=
  match change with
  | .deleted => ({ m with wmState := .withdrawn }, true)
  | .newValue =>
    match reported with
    | none => (m, true)
    | some new => ({ m with wmState := new }, new == m.wmState || m.wmState != .withdrawn)

/-- What brings a window of a style back from its icon. -/
def restoration (style : WindowStyle) (reported : NetState) : Correction :=
  if style.hasCaption && reported.contains NetState.maximized then
    if style.contains WindowStyle.maximizeBox && style.isEnabled then .command .maximize else .none
  else if style.intersects (WindowStyle.minimize ||| WindowStyle.maximize) then
    if style.contains (WindowStyle.minimize ||| WindowStyle.visible) then .restoreToForeground
    else .command .restore
  else .none

def iconification (style : WindowStyle) : Correction :=
  if style.isMinimized then .none
  else if style.contains WindowStyle.minimizeBox && style.isEnabled then .command .minimize
  else .none

/-- The state after the guest window was looked at, and what it is asked for. -/
def correct (m : ManagedState) (style : WindowStyle) (reported : NetState) :
    ManagedState × Correction :=
  match m.iconic, m.wmState with
  | true, .normal => ({ m with iconic := false, netState := reported }, restoration style reported)
  | false, .iconic => ({ m with iconic := true }, iconification style)
  | _, _ => (m, .none)

/-- The state after fullscreen was or was not among the reported states while it was awaited. -/
def acknowledge (m : ManagedState) (reported : NetState) : ManagedState :=
  if m.pendingFullscreen then
    { m with netState := reported, pendingFullscreen := !reported.contains NetState.fullscreen }
  else m

/-- The state after other states were asked for. On a mapped window fullscreen is awaited unless it is
there already. -/
def desire (m : ManagedState) (mapped : Bool) (desired : NetState) : ManagedState :=
  { m with
    pendingFullscreen :=
      if mapped then
        desired.contains NetState.fullscreen && !m.netState.contains NetState.fullscreen
      else m.pendingFullscreen
    netState := desired }

end ManagedState

end GuestSeat
