import GuestSeat.Seat.Clip
import GuestSeat.WindowManager.Correction

/-!
Keeping guest windows in step with the window manager: its state properties, changes of geometry, and
requests for states of its own. Each notification leads to at most one request to the guest; several of
them bring the two sides together.
-/

namespace GuestSeat.Scene

open Environment (desktop)

/-- Ask the guest window for what a notification came to. -/
def applyCorrection (s : Scene) (h : Handle) (correction : Correction) : Scene :=
  match correction with
  | .none => s
  | .command command => s.notify h (.sysCommand command)
  | .restoreToForeground =>
    (s.act fun env => env.setForeground h).notify h (.sysCommand .restore)

/-- Note a change of the state property of a window; whether the guest window has to be looked at. -/
def observeWmState (s : Scene) (h : Handle) (host : HostWindow) (change : PropertyChange) :
    Scene × Bool :=
  let (state, telling) := (s.window h).observe change (s.env.wmState? host)
  (s.editWindow h fun _ => state, telling)

/-- The state property of a window changed. What is known of the window follows, and if `correcting` is
set so does the guest window. -/
def wmStateChanged (s : Scene) (h : Handle) (change : PropertyChange) (correcting : Bool) : Scene :=
  match s.env.info? h with
  | none => s
  | some info =>
    match info.host with
    | none => s
    | some host =>
      match s.observeWmState h host change with
      | (s, false) => s
      | (s, true) =>
        if correcting && info.managed && info.mapped then
          let (state, correction) := (s.window h).correct info.style (s.env.netState host)
          (s.editWindow h fun _ => state).applyCorrection h correction
        else s

/-- The extended state of a window changed; fullscreen that was asked for may have come. -/
def netStateChanged (s : Scene) (h : Handle) : Scene :=
  match s.env.host? h with
  | none => s
  | some host => s.editWindow h fun state => state.acknowledge (s.env.netState host)

def property (s : Scene) (h : Handle) (e : PropertyEvent) : Scene × Bool :=
  match e.atom with
  | .wmState => (s.wmStateChanged h e.change true, true)
  | .netWmState => (s.netStateChanged h, true)
  | .other _ => (s, false)

/-- Whether new geometry of a window is to be followed: the window is on the screen and no icon, not the
guest's alone, the event is no forgery about a foreign window and no older than the last geometry
request, and fullscreen is not awaited. -/
def followsGeometry (info : WindowInfo) (state : ManagedState) (event : EventRecord) : Bool :=
  info.mapped && !state.iconic && (info.foreign || info.managed) &&
    !(event.sent && info.foreign) && !state.configureFence.holdsBack event.serial &&
    !state.pendingFullscreen

def isTopLevel (env : Environment) (h : Handle) : Bool :=
  (env.parent h).isNull || env.parent h == desktop

/-- The rectangle that new geometry gives a window in guest coordinates. Forged events and those about
top-level windows are placed on the root; others relative to the parent's client area, which is also
what forged ones about inner windows are turned into. -/
def configuredRect (env : Environment) (h : Handle) (event : EventRecord) (e : ConfigureEvent) :
    Rect :=
  let top := isTopLevel env h
  let corner :=
    if event.sent then env.map.fromRoot e.position
    else if top then env.map.fromRoot (env.placeOnRoot event.window ⟨0, 0⟩)
    else e.position
  let rect := Rect.ofSize corner.x corner.y e.width e.height
  if event.sent && !top then
    match env.info? (env.parent h) with
    | none => rect
    | some parent => rect.offset (-parent.clientRect.left) (-parent.clientRect.top)
  else rect

/-- What a placement leaves alone when a window goes from one rectangle to another. An empty window keeps
its size. -/
def placementFlags (foreign : Bool) (current rect : Rect) : PlacementFlags :=
  let usual := PlacementFlags.keepActive ||| PlacementFlags.keepOrder
  let redraw := if foreign then PlacementFlags.discardContents else Flags.empty
  let position := if current.topLeft = rect.topLeft then PlacementFlags.keepPosition else Flags.empty
  let size :=
    if current.width = rect.width && current.height = rect.height || current.isEmpty then
      PlacementFlags.keepSize
    else Flags.empty
  usual ||| redraw ||| position ||| size

/-- Move and size a guest window as the host did; whether anything changed. -/
def followPlacement (s : Scene) (h : Handle) (info : WindowInfo) (rect : Rect) : Scene × Bool :=
  let flags := placementFlags info.foreign info.windowRect rect
  if flags.contains (PlacementFlags.keepPosition ||| PlacementFlags.keepSize) then (s, false)
  else (s.act fun env => env.placeWindow h rect flags, true)

/-- The command that brings a guest window in line when the window manager maximized it or took that
back. -/
def maximization? (style : WindowStyle) (reported : NetState) : Option SysCommand :=
  match reported.contains NetState.maximized, style.isMaximized with
  | true, false => some .maximize
  | false, true => some .restore
  | _, _ => none

/-- Follow new geometry: a change of maximization first, else the placement. Whether a window that fills
an output and has no caption is maximized is not asked. -/
def followGeometry (s : Scene) (h : Handle) (info : WindowInfo) (rect : Rect) : Scene × Bool :=
  match info.host.filter fun _ => info.style.hasCaption || !coversOutput s.env info.windowRect with
  | none => s.followPlacement h info rect
  | some host =>
    let reported := s.env.netState host
    let s := s.editWindow h fun state => { state with netState := reported }
    match maximization? info.style reported with
    | some command => (s.notify h (.sysCommand command), true)
    | none => s.followPlacement h info rect

def configure (s : Scene) (h : Handle) (event : EventRecord) (e : ConfigureEvent) : Scene × Bool :=
  match s.env.info? h with
  | none => (s, false)
  | some info =>
    let s := s.editWindow h id
    if followsGeometry info (s.window h) event then
      s.followGeometry h info (configuredRect s.env h event e)
    else (s, false)

/-- Ask the window manager for other states of a window. -/
def requestNetState (s : Scene) (h : Handle) (desired : NetState) : Scene :=
  match s.env.info? h with
  | none => s
  | some info =>
    match info.host.filter fun _ => info.managed with
    | none => s
    | some host =>
      (s.editWindow h fun state => state.desire info.mapped desired).request
        (.netState host desired)

/-- A geometry request is about to be sent; geometry from before it is out of date. -/
def noteConfigureRequest (s : Scene) (h : Handle) : Scene :=
  s.editWindow h fun state => { state with configureFence := Fence.armed s.env.nextSerial }

end GuestSeat.Scene
