import GuestSeat.Seat.Focus
import GuestSeat.Seat.Pointer
import GuestSeat.Seat.WindowState

/-!
One host event: the guest window that it concerns is looked up, and the handler of its kind is run on it
while the event is on record as the one in flight. The result tells whether the handler made work for
the guest.
-/

namespace GuestSeat.Scene

open Environment (desktop)

/-- The guest window that an event concerns: none for events of extensions, and the desktop for events
on the root that no window claims. -/
def target (env : Environment) (event : EventRecord) : Handle :=
  match event.kind with
  | .generic _ => Handle.null
  | _ =>
    match env.lookup? event.window with
    | some h => h
    | none => if event.window == Environment.root then desktop else Handle.null

def expose (s : Scene) (h : Handle) (host : HostWindow) (e : ExposeEvent) : Scene × Bool :=
  if h.isNull then (s, false)
  else
    let rect := if host == Environment.root then s.env.map.rectFromRoot e.rect else e.rect
    match s.env.post h (.redraw rect) with
    | .ok env => ({ s with env }, true)
    | .error _ => (s, false)

/-- A host window came to the screen. The window manager gives no focus to windows that it does not
manage, so one with the guest's focus in it is given the host's. -/
def mapped (s : Scene) (h : Handle) (host : HostWindow) : Scene × Bool :=
  if s.seat.input.captureSurface == some host || h.isNull then (s, false)
  else
    match s.env.info? h with
    | none => (s, false)
    | some info =>
      let focus := s.env.focus
      if !info.managed && !info.embedded && info.mapped && !focus.isNull &&
          (focus == h || s.env.isChild h focus) then (s.focusHost info 0, true)
      else (s, false)

def destroyed (s : Scene) (h : Handle) : Scene × Bool :=
  if h.isNull then (s, false) else (s.forgetWindow h, true)

/-- An embedded window was moved to another parent. One moved to the root lost its embedder and is
closed; otherwise the guest window moves as well, and the window that it was in is closed. -/
def reparented (s : Scene) (h : Handle) (e : ReparentEvent) : Scene × Bool :=
  match (s.env.info? h).filter fun info => !h.isNull && info.embedded with
  | none => (s, false)
  | some _ =>
    if e.parent == Environment.root then (s.tell h .close, true)
    else
      match s.env.reparent h e.parent with
      | (env, none) => ({ s with env }, true)
      | (env, some old) =>
        let s := { s with env }
        (if old.isNull || old == desktop then s else s.tell old .close, true)

def gravity (s : Scene) (h : Handle) (e : GravityEvent) : Scene × Bool :=
  match (s.env.info? h).filter fun info => !h.isNull && info.foreign with
  | none => (s, false)
  | some info =>
    let corner := s.env.map.fromRoot e.position
    let current := info.windowRect
    if current.topLeft = corner then (s, false)
    else
      let rect : Rect := ⟨corner.x, corner.y, corner.x + current.width, corner.y + current.height⟩
      let flags := PlacementFlags.keepSize ||| PlacementFlags.keepOrder |||
        PlacementFlags.keepActive ||| PlacementFlags.discardContents
      (s.act fun env => env.placeWindow h rect flags, true)

/-- Run the handler of an event for the guest window it concerns. -/
def handle (s : Scene) (h : Handle) (event : EventRecord) : Scene × Bool :=
  match event.kind with
  | .key e => s.key h e
  | .button e => s.button h event.window e
  | .motion e => s.motion h event.window event.serial e
  | .enter e => s.enter h event.window event.serial e
  | .leave _ => (s, false)
  | .focusIn e => s.focusIn h event e
  | .focusOut e => s.focusOut h event e
  | .expose e => s.expose h event.window e
  | .map => s.mapped h event.window
  | .unmap => (s, true)
  | .destroy => s.destroyed h
  | .reparent e => s.reparented h e
  | .configure e => if h.isNull then (s, false) else s.configure h event e
  | .gravity e => s.gravity h e
  | .property e => if h.isNull then (s, false) else s.property h e
  | .clientMessage e => s.clientMessage h event e
  | .generic (.rawMotion raw) => s.rawMotion event.serial raw
  | .generic (.deviceChanged change) => s.deviceChanged change
  | .generic .missing | .generic (.unknown _ _) => (s, false)

/-- Handle a host event; whether that made work for the guest. -/
def dispatch (s : Scene) (event : EventRecord) : Scene × Bool :=
  let outer := s.seat.input.inFlight
  let s := s.edit fun i => { i with inFlight := some ⟨event.tag, event.serial⟩ }
  let (s, queued) := s.handle (target s.env event) event
  (s.edit fun i => { i with inFlight := outer }, queued)

end GuestSeat.Scene
