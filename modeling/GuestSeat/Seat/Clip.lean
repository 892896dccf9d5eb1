import GuestSeat.Seat.Cursor
import GuestSeat.Seat.RawMotion

/-!
Confining the pointer. A clip is enforced by a grab of the pointer on the capture surface, which is sized
to the clip's rectangle and shown; while it lasts, raw motion is on and a capture window stands for it
on the guest's side. The registry of the desktop's seat is told of every clip that begins or ends, and
evicts the owner before.
-/

namespace GuestSeat.Scene

open Environment (desktop)

/-- The capture surface, created at its first use. -/
def useSurface (s : Scene) : Scene × Option HostWindow :=
  match s.seat.input.captureSurface with
  | some surface => (s, some surface)
  | none =>
    let (env, surface) := s.env.useCaptureSurface
    ({ s with env }.edit fun i => { i with captureSurface := surface }, surface)

/-- Report to the registry that the clip passed from one capture window to another. -/
def reportOwner (s : Scene) (source target : Handle) : Scene :=
  match s.seat.registry with
  | some registry =>
    { s with seat := { s.seat with registry := some (registry.update source target).1 } }
  | none => s.tell desktop (.clipOwnerChanged source target)

/-- The owner of the clip according to the registry. A desktop that does not answer in time knows of
none. -/
def queryOwner (s : Scene) : Scene × Handle :=
  match s.seat.registry with
  | some registry => (s, registry.owner)
  | none =>
    match s.env.sendWithin desktop .queryClipOwner s.seat.config.focus.probeTimeout with
    | (env, .ok reply) => ({ s with env }, reply.owner)
    | (env, .error _) => ({ s with env }, Handle.null)

/-- End the clip without a word to the guest. -/
def dropClip (s : Scene) : Scene := s.edit fun i => { i with clip := none }

/-- Size the capture surface to a guest rectangle and show it on top. -/
def showSurface (s : Scene) (surface : HostWindow) (rect : Rect) : Scene :=
  let area := (s.env.map.rectToRoot rect).atLeastUnit
  ((s.request (.moveResize surface area)).request (.map surface)).request (.raise surface)

/-- Undo a clip after the host refused the grab, and report the end of the one before. -/
def abandonGrab (s : Scene) (surface : HostWindow) (capture : Handle) : Scene :=
  let previous := s.seat.input.clip
  let s := ((s.request .ungrabPointer).request (.unmap surface)).disableRaw
  let s := (s.act fun env => env.destroyWindow capture).dropClip
  match previous with
  | none => s
  | some region => s.reportOwner region.captureWindow Handle.null

/-- Put a clip in force after the host granted the grab. -/
def establish (s : Scene) (surface : HostWindow) (region : ClipRegion) : Scene :=
  let source := s.seat.input.captureWindow
  let isFirst := !s.seat.input.isClipping
  let s := s.edit fun i => { i with clip := some region }
  let s := if isFirst then s.syncCursor surface else s
  let s := { s with
    seat := { s.seat with tracker := { s.seat.tracker with window := region.captureWindow } } }
  s.reportOwner source region.captureWindow

/-- Grab the pointer on the capture surface. The host warps the pointer into a clip that is new or
smaller on some side than the one before. -/
def confine (s : Scene) (surface : HostWindow) (region : ClipRegion) : Scene × Bool :=
  let shrinks := s.seat.input.clip.all fun previous => region.rect.restricts previous.rect
  let s := s.showSurface surface region.rect
  let s := if shrinks then s.armWarpFence else s
  let s := s.request (.grabPointer surface)
  if s.env.grabSucceeds then (s.establish surface region, true)
  else (s.abandonGrab surface region.captureWindow, false)

/-- Begin a clip where there is none. A host without raw motion is not grabbed, and the guest's clip
rectangle is opened again. -/
def beginClip (s : Scene) (surface : HostWindow) (rect : Rect) (kind : ClipKind) : Scene × Bool :=
  let (env, capture) := s.env.createCaptureWindow
  match { s with env }.enableRaw with
  | (s, false) => (s.act fun env => (env.destroyWindow capture).resetGuestClip, true)
  | (s, true) => (s.request (.unmap surface)).confine surface ⟨rect, capture, kind⟩

/-- Confine the pointer to a guest rectangle. The result is false if the host refused, and then there is
no clip. The desktop's thread does nothing, and neither does one that has this very clip. -/
def grab (s : Scene) (rect : Rect) (kind : ClipKind) : Scene × Bool :=
  if s.onDesktopThread then (s, true)
  else if s.seat.input.clip.any fun r => r.rect == rect && r.kind == kind then (s, true)
  else
    match s.useSurface with
    | (s, none) => (s, false)
    | (s, some surface) =>
      match s.seat.input.clip with
      | none => s.beginClip surface rect kind
      | some previous => s.confine surface ⟨rect, previous.captureWindow, kind⟩

/-- End the clip, if there is one. The registry is told if `report` is set; it is not when it was the
registry that ended the clip. -/
def release (s : Scene) (report : Bool) : Scene :=
  match s.seat.input.clip with
  | none => s
  | some region =>
    let s := s.dropClip.request .ungrabPointer
    let s :=
      match s.seat.input.captureSurface with
      | none => s
      | some surface => s.request (.unmap surface)
    let s := s.disableRaw.act fun env => env.destroyWindow region.captureWindow
    if report then s.reportOwner region.captureWindow Handle.null else s

/-- End the clip, if there is one, and open the guest's clip rectangle. -/
def resetClipping (s : Scene) : Scene :=
  if s.seat.input.isClipping then (s.release true).act Environment.resetGuestClip else s

/-- Remember now as the time of a reset from outside. -/
def markReset (s : Scene) : Scene := s.edit fun i => { i with clipResetAt := some s.env.tick }

/-- The scene in which the clip was left to the foreground window, if that belongs to another thread of
this process and could be told. -/
def forwardClip? (s : Scene) : Option Scene :=
  let h := s.env.foreground
  match s.env.owner? h with
  | none => none
  | some owner =>
    if owner.inProcess && owner.thread != s.env.thread && !h.isNull then
      match s.env.post h .clipRequest with
      | .ok env => some { s with env }
      | .error _ => none
    else none

/-- The guest asks for the pointer to be confined to a rectangle, or to be free; whether it is told that
this was done. If the host refuses the grab the pointer stays free, which the guest does not see. -/
def answerClip (s : Scene) (rect : Option Rect) : Scene × Bool :=
  let screen := s.env.virtualScreen
  let rect := (rect.map fun r => r.clampTo screen).getD screen
  if s.seat.config.pointer.grabPointer && !rect.isEmpty && rect.restricts screen then
    match s.forwardClip? with
    | some s => (s, true)
    | none =>
      match s.grab rect .explicit with
      | (s, true) => (s, true)
      | (s, false) => (s.release true, true)
  else (s.release true, true)

/-- What the guest's request for a rectangle does. -/
def clipCursor (s : Scene) (rect : Option Rect) : Scene := (s.answerClip rect).1

/-- Whether a rectangle covers the primary output or the whole virtual screen. -/
def coversOutput (env : Environment) (r : Rect) : Bool :=
  env.primaryMonitor.isWithin r || env.virtualScreen.isWithin r

/-- Whether a window fills an output and may confine the pointer to it. Maximized windows with a caption
do not count. -/
def fillsOutput (s : Scene) (h : Handle) : Bool :=
  s.seat.config.pointer.grabPointer && !h.isNull && h != desktop &&
    match s.env.info? h with
    | none => false
    | some info =>
      info.style.isVisible && !info.style.isPureChild && !s.seat.windows.isIconic h &&
        !(info.style.isMaximized && info.style.hasCaption) && coversOutput s.env info.windowRect

/-- Confine the pointer to the primary output. Unless the settings say otherwise it has to be the only
one. -/
def clipToOutput (s : Scene) : Scene × Bool :=
  let onlyOutput := s.env.primaryMonitor == s.env.virtualScreen
  if !s.seat.config.pointer.grabFullscreen &&
      (!onlyOutput || s.seat.config.window.virtualDesktop) then (s, false)
  else
    let (s, granted) := s.grab s.env.primaryMonitor .fullscreen
    (s, granted && s.seat.input.isClipping)

/-- Confine the pointer to the primary output if a window fills it; whether it is confined then. Unless
`reset` is set, a recent reset from outside and a clip anywhere in the process stand in the way. -/
def clipFullscreen (s : Scene) (h : Handle) (reset : Bool) : Scene × Bool :=
  if !s.fillsOutput h then (s, false)
  else if reset then s.clipToOutput
  else if !s.seat.input.isDebounced s.env.tick s.seat.config.pointer.clipResetDebounce ||
      s.seat.input.isClipping then (s, false)
  else
    match s.queryOwner with
    | (s, owner) => if owner.isNull then s.clipToOutput else (s, false)

/-- Whether the pointer could be grabbed now. The host is asked unless the answer is known. -/
def canGrab (s : Scene) : Scene × Bool :=
  if !s.seat.config.pointer.grabPointer || s.seat.input.isClipping then (s, true)
  else
    let s := s.request .probeRootGrab
    (s, s.env.probeSucceeds)

/-- Put the guest's clip rectangle in force for the foreground window, or the output's if the window
fills it. -/
def reapplyClip (s : Scene) (h : Handle) : Scene × Bool :=
  if h == desktop || h != s.env.foreground then (s, false)
  else if s.seat.config.pointer.grabPointer && s.env.guestClip.restricts s.env.virtualScreen then
    match s.grab (s.env.guestClip.clampTo s.env.virtualScreen) .explicit with
    | (s, true) => (s, true)
    | (s, false) => (s.release true, false)
  else s.clipFullscreen h false

/-- A report to the registry; the window that it evicts is told. Only the desktop's seat takes it. -/
def takeOwnerReport (s : Scene) (source target : Handle) : Scene × MessageReply :=
  match s.seat.registry with
  | none => (s, .handled false)
  | some registry =>
    let (registry, result) := registry.update source target
    let s := { s with seat := { s.seat with registry := some registry } }
    match result with
    | .rejected => (s, .handled false)
    | .accepted none => (s, .handled true)
    | .accepted (some evicted) => (s.tell evicted .clipReset, .handled true)

/-- A reset of the clip of a capture window; it counts only if the window stands for the clip in
force. -/
def takeReset (s : Scene) (h : Handle) : Scene × MessageReply :=
  if h.isNull || h != s.seat.input.captureWindow then (s, .handled false)
  else (((s.release false).act Environment.resetGuestClip).markReset, .handled true)

def driverMessage (s : Scene) (h : Handle) (message : GuestMessage) : Scene × MessageReply :=
  match message with
  | .clipOwnerChanged source target => s.takeOwnerReport source target
  | .clipReset => s.takeReset h
  | .clipRequest =>
    let (s, applied) := s.reapplyClip h
    (s, .handled applied)
  | .releaseCursor => (s.resetClipping, .handled true)
  | .queryClipOwner => (s, .clipOwner s.seat.registryOwner)
  | .setCursor cursor => (s.defineCursor h cursor, .handled true)
  | .sysCommand _ | .close | .cancelMode | .mouseActivate _ _ | .enableWindow _ | .redraw _ =>
    (s, .default)

end GuestSeat.Scene
