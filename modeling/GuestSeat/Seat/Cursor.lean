import GuestSeat.Seat.Basic

/-!
The cursor and the place of the pointer: showing the current cursor on host windows, the guest's choice
of a cursor, and warps.
-/

namespace GuestSeat.Scene

/-- The host cursor of a guest cursor; a realizer may remember the answer. -/
def realize (s : Scene) (cursor : Option CursorId) : Scene × Option HostCursor :=
  match cursor with
  | none => (s, none)
  | some c =>
    let (realizer, native) := s.seat.realizer.realize c
    ({ s with seat := { s.seat with realizer } }, native)

def showCursor (s : Scene) (w : HostWindow) (cursor : Option CursorId) : Scene :=
  let (s, native) := s.realize cursor
  s.request (.defineCursor w native)

/-- Show the cursor of the process on a host window. -/
def syncCursor (s : Scene) (w : HostWindow) : Scene := s.showCursor w s.seat.tracker.cursor

/-- The host window on which a guest window shows its cursor: the capture surface for the capture
window, its own for any other. -/
def cursorSurface? (s : Scene) (h : Handle) : Option HostWindow :=
  if !h.isNull && h == s.seat.input.captureWindow then s.seat.input.captureSurface
  else s.env.host? h

/-- Show a cursor on the host window of a guest window, if it has one. -/
def defineCursor (s : Scene) (h : Handle) (cursor : Option CursorId) : Scene :=
  match s.cursorSurface? h with
  | none => s
  | some w => s.showCursor w cursor

/-- The longest time for which the cursor is not shown again. -/
def cursorInterval (s : Scene) : Nat := s.seat.config.pointer.cursorSyncInterval

/-- The pointer is over a guest window; whether the cursor has to be shown there. -/
def enterWindow (s : Scene) (h : Handle) : Scene × Bool :=
  let (tracker, renewed) := s.seat.tracker.enter h s.env.tick s.cursorInterval
  ({ s with seat := { s.seat with tracker } }, renewed)

/-- The guest chose a cursor. The window under the pointer is told unless that can wait. -/
def setCursor (s : Scene) (cursor : Option CursorId) : Scene :=
  let (tracker, renewed) := s.seat.tracker.choose cursor s.env.tick s.cursorInterval
  let s := { s with seat := { s.seat with tracker } }
  if renewed && !tracker.window.isNull then s.tell tracker.window (.setCursor cursor) else s

def destroyCursor (s : Scene) (cursor : CursorId) : Scene :=
  { s with seat := { s.seat with realizer := s.seat.realizer.forget cursor } }

/-- Warp the pointer to a place in guest coordinates. Motion from before the warp is out of date. -/
def setCursorPos (s : Scene) (p : Point) : Scene :=
  s.armWarpFence.act fun env => (env.warpPointer (env.map.toRoot p)).flush

/-- The place of the pointer in guest coordinates. -/
def cursorPos (s : Scene) : Point := s.env.map.fromRoot s.env.pointer

end GuestSeat.Scene
