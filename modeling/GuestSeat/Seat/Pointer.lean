import GuestSeat.Seat.Clip

/-!
Keys, buttons, motion and crossings become input for the guest. Events on the capture surface have no
guest window of their own: they count only while there is a clip, and are placed relative to it.
-/

namespace GuestSeat.Scene

/-- A pointer event on its way to the guest: where it happened relative to its host window, and what the
guest is told. -/
structure PointerAction where
  host : HostWindow
  position : Point
  flags : MouseFlags
  data : Int := 0
  time : Timestamp

def feedMouse (s : Scene) (h : Handle) (p : Point) (a : PointerAction) : Scene :=
  s.act fun env => env.feed h (.mouse (MouseInput.placed p a.flags a.data a.time))

/-- The guest place of a point on the capture surface of a clip. -/
def capturePlace (map : CoordinateMap) (region : ClipRegion) (p : Point) : Point :=
  let corner := map.userToReal region.rect.topLeft
  map.realToUser ⟨corner.x + p.x, corner.y + p.y⟩

/-- The guest place of a point relative to a host window, which is the root or that of a guest
window. -/
def windowPlace (env : Environment) (info : WindowInfo) (host : HostWindow) (p : Point) : Point :=
  if host == Environment.root then env.map.fromRoot p
  else ⟨info.windowRect.left + p.x, info.windowRect.top + p.y⟩

def captureMouse (s : Scene) (a : PointerAction) : Scene × Bool :=
  match s.seat.input.clip with
  | none => (s, false)
  | some region =>
    if s.seat.input.captureSurface == some a.host then
      let place := capturePlace s.env.map region a.position
      let (s, renewed) := s.enterWindow region.captureWindow
      let s := if renewed then s.syncCursor a.host else s
      (s.feedMouse Handle.null place a, true)
    else (s, false)

/-- A press of a main button lets the foreground window confine the pointer again. -/
def pressAutoClip (s : Scene) (h : Handle) (flags : MouseFlags) : Scene :=
  if flags.intersects (MouseFlags.leftDown ||| MouseFlags.rightDown) then
    let top := s.env.ancestorRoot h
    if !top.isNull && top == s.env.foreground then (s.clipFullscreen top false).1 else s
  else s

def windowMouse (s : Scene) (h : Handle) (a : PointerAction) : Scene × Bool :=
  match s.env.info? h with
  | none => (s, false)
  | some info =>
    let place := windowPlace s.env info a.host a.position
    let (s, renewed) := s.enterWindow h
    let s :=
      match renewed, info.host with
      | true, some host => s.syncCursor host
      | _, _ => s
    let s := s.pressAutoClip h a.flags
    (s.feedMouse h place a, true)

def sendMouse (s : Scene) (h : Handle) (a : PointerAction) : Scene × Bool :=
  if h.isNull then s.captureMouse a else s.windowMouse h a

def key (s : Scene) (h : Handle) (e : KeyEvent) : Scene × Bool :=
  if h.isNull then (s, false)
  else
    let input : KeyInput := { keycode := e.keycode, pressed := e.pressed, time := e.time }
    (s.act fun env => env.feed h (.key input), true)

/-- A button event; buttons that the guest does not know are dropped. -/
def button (s : Scene) (h : Handle) (host : HostWindow) (e : ButtonEvent) : Scene × Bool :=
  match buttonInput e.button e.pressed with
  | none => (s, false)
  | some (flags, data) => s.sendMouse h { host, position := e.position, flags, data, time := e.time }

/-- A move of the pointer. Without a guest window it counts only if it is no older than the last
warp. -/
def moveTo (s : Scene) (h : Handle) (serial : Serial) (a : PointerAction) : Scene × Bool :=
  if h.isNull then
    match s.passWarpFence serial with
    | (s, true) => (s, false)
    | (s, false) => s.sendMouse h a
  else s.sendMouse h a

def motion (s : Scene) (h : Handle) (host : HostWindow) (serial : Serial) (e : MotionEvent) :
    Scene × Bool :=
  s.moveTo h serial { host, position := e.position, flags := MouseFlags.move, time := e.time }

/-- The pointer came to a window; passing through it on the way to another does not count. -/
def enter (s : Scene) (h : Handle) (host : HostWindow) (serial : Serial) (e : CrossingEvent) :
    Scene × Bool :=
  if e.detail = .virtual then (s, false)
  else s.moveTo h serial { host, position := e.position, flags := MouseFlags.move, time := e.time }

end GuestSeat.Scene
