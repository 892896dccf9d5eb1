import GuestSeat.Seat.Clip

/-!
Focus. A change of the host's focus becomes a change of the guest's foreground window. A seat that
cannot have the pointer because another client holds it asks for its release and has the event tried
again later.
-/

namespace GuestSeat.Scene

open Environment (desktop)

def setForeground (s : Scene) (h : Handle) : Scene := s.act fun env => env.setForeground h

/-- Give the host window of a guest window keyboard focus, by way of the client it is embedded in if it
is. -/
def focusHost (s : Scene) (info : WindowInfo) (time : Timestamp) : Scene :=
  match info.host with
  | none => s
  | some host =>
    if info.embedded then s.request (.embedderFocus host time)
    else s.act fun env => env.setInputFocus host time

/-- Whether a window may become the foreground window. -/
def canActivate (env : Environment) (h : Handle) : Bool :=
  !h.isNull && h != desktop &&
    match env.info? h with
    | none => false
    | some info =>
      info.style.isVisible && !info.style.isPureChild && !info.style.isMinimized &&
        !info.extendedStyle.contains ExtendedStyle.noActivate && !info.windowRect.isEmpty &&
        info.style.isEnabled

/-- Ask a window whether it takes activation; none if it does not answer. -/
def probeActivation (s : Scene) (h : Handle) (hit : HitTest) : Scene × Option Activation :=
  let probe := GuestMessage.mouseActivate (s.env.ancestorRoot h) hit
  match s.env.sendWithin h probe s.seat.config.focus.probeTimeout with
  | (env, .ok reply) => ({ s with env }, some reply.activation)
  | (env, .error _) => ({ s with env }, none)

/-- Whether a window takes an offer of focus; one that does not answer does. -/
def takesActivation (s : Scene) (h : Handle) : Scene × Bool :=
  let (s, answer) := s.probeActivation h .menu
  (s, answer.all fun activation => !activation.refuses)

/-- Whether a window may become the foreground window and agrees to it. -/
def agreesToActivate (s : Scene) (h : Handle) : Scene × Bool :=
  if canActivate s.env h then s.takesActivation h else (s, false)

/-- Ask a window to let go of the pointer, and have an event tried again. -/
def retryAfterRelease (s : Scene) (holder : Handle) (event : EventRecord) : Scene :=
  let s := if holder.isNull then s else s.tell holder .releaseCursor
  s.act fun env => env.resend event

/-- Make a window the foreground window and give the host's focus to the top-level window with the
guest's. -/
def giveFocus (s : Scene) (event : EventRecord) (h : Handle) (time : Timestamp) : Scene :=
  match s.canGrab with
  | (s, false) => s.retryAfterRelease s.env.foreground event
  | (s, true) =>
    let s := s.setForeground h
    let focused := if s.env.focus.isNull then s.env.active else s.env.focus
    if focused.isNull then s
    else
      match s.env.info? (s.env.ancestorRoot focused) with
      | none => s
      | some info => s.focusHost info time

/-- The windows that may be activated in place of one that refused: the top-level window with the
guest's focus, the active window and the one that lost focus last. -/
def fallbacks (s : Scene) (refused : Handle) : List Handle :=
  let focused := if s.env.focus.isNull then Handle.null else s.env.ancestorRoot s.env.focus
  [focused, s.env.active, s.seat.input.lastFocus].eraseDups.filter fun h => !h.isNull && h != refused

/-- Give focus to the first of some windows that takes it, else to the desktop. -/
def activateFirst (s : Scene) (event : EventRecord) (time : Timestamp) : List Handle → Scene
  | [] => s.setForeground desktop
  | h :: rest =>
    match s.agreesToActivate h with
    | (s, true) => s.giveFocus event h time
    | (s, false) => s.activateFirst event time rest

/-- Activate another window in place of one that refused. -/
def activateFallback (s : Scene) (event : EventRecord) (refused : Handle) (time : Timestamp) : Scene :=
  s.activateFirst event time (s.fallbacks refused)

/-- Have the foreground window put its clip back in force. -/
def askForClip (s : Scene) : Scene :=
  if s.env.foreground.isNull then s
  else
    s.act fun env =>
      (env.sendWithin env.foreground .clipRequest s.seat.config.focus.clipRequestTimeout).1

/-- What follows from focus coming to a window once the foreground window has its clip. -/
def activateFocused (s : Scene) (h : Handle) (event : EventRecord) : Scene :=
  if s.seat.config.focus.useTakeFocus then
    if h == s.env.foreground then (s.clipFullscreen h false).1 else s
  else
    match s.agreesToActivate h with
    | (s, true) => s.setForeground h
    | (s, false) => s.activateFallback event h 0

def focusIn (s : Scene) (h : Handle) (event : EventRecord) (focus : FocusEvent) : Scene × Bool :=
  if h.isNull || focus.detail == .pointer || h == desktop then (s, false)
  else
    match (s.edit fun i => { i with keyboardWindow := h }).canGrab with
    | (s, false) => (s.retryAfterRelease desktop event, false)
    | (s, true) =>
      let s := s.askForClip
      if focus.mode.isGrabEffect then (s, true) else (s.activateFocused h event, true)

/-- The guest window that the host's focus went to, if it is at the top level and not `h`. -/
def focusTarget? (env : Environment) (h : Handle) : Option Handle :=
  ((env.inputFocus.bind env.lookup?).map env.ancestorRoot).filter fun top =>
    !top.isNull && top != h

/-- Hand the foreground from a window that lost focus to the one that got it, or to the desktop. -/
def handOver (s : Scene) (h : Handle) : Scene :=
  match (focusTarget? s.env h).filter (canActivate s.env) with
  | some top => s.setForeground top
  | none => if h == s.env.foreground then s.setForeground desktop else s

/-- A window lost focus. While an input method composes, focus stays. On a virtual desktop only the
desktop's own loss matters. -/
def loseFocus (s : Scene) (h : Handle) : Scene :=
  if s.env.composing then s
  else
    let s := s.edit fun i => { i with lastFocus := h }
    if s.seat.config.window.virtualDesktop then
      if h == desktop then s.resetClipping else s
    else if h != s.env.foreground then s
    else (s.notify h .cancelMode).handOver h

/-- The pointer's focus left the capture surface, so another client broke the grab. -/
def captureLost (s : Scene) (h : Handle) (host : HostWindow) : Scene :=
  if h.isNull && s.seat.input.captureSurface == some host && s.seat.input.isClipping then
    s.resetClipping.markReset
  else s

def focusOut (s : Scene) (h : Handle) (event : EventRecord) (focus : FocusEvent) : Scene × Bool :=
  if focus.detail = .pointer then (s.captureLost h event.window, true)
  else if h.isNull then (s, false)
  else
    let s := if h == s.env.foreground then s.release true else s
    if focus.mode.isGrabEffect then (s, true) else (s.loseFocus h, true)

/-- The window that the desktop passes an offer of focus on to. -/
def desktopTarget (s : Scene) : Handle :=
  if !s.env.foreground.isNull then s.env.foreground
  else if !s.seat.input.lastFocus.isNull then s.seat.input.lastFocus
  else desktop

def takeFocus (s : Scene) (h : Handle) (event : EventRecord) (time : Timestamp) : Scene :=
  match s.agreesToActivate h with
  | (s, true) => s.giveFocus event h time
  | (s, false) =>
    if h == desktop then s.giveFocus event s.desktopTarget time
    else s.activateFallback event h time

/-- Close a window unless its answer to the click on the close button forbids it; one that has no
objection becomes active first. -/
def closeAfterProbe (s : Scene) (h : Handle) : Scene :=
  let closing := GuestMessage.sysCommand .close
  if s.env.active == h then s.tell h closing
  else
    match s.probeActivation h .close with
    | (s, some .activateAndEat) | (s, some .noActivateAndEat) => s
    | (s, some .noActivate) => s.tell h closing
    | (s, some .activate) | (s, none) =>
      (s.act fun env => { env with active := h }).tell h closing

/-- The window manager wants a window gone. Windows that are disabled or have no close button stay; the
desktop has none to click on and is told at once. -/
def deleteWindow (s : Scene) (h : Handle) : Scene :=
  if h == desktop then s.notify h (.sysCommand .close)
  else
    match s.env.info? h with
    | none => s
    | some info =>
      if !info.style.isEnabled || info.classStyle.contains ClassStyle.noClose then s
      else s.closeAfterProbe h

def wmProtocol (s : Scene) (h : Handle) (event : EventRecord) (protocol : WmProtocol)
    (time : Timestamp) (data : DataWords) : Scene × Bool :=
  match protocol with
  | .deleteWindow => (s.deleteWindow h, true)
  | .takeFocus => (s.takeFocus h event time, true)
  | .ping => (s.request (.ping data), true)
  | .other _ => (s, false)

/-- A message of the client that a window is embedded in. -/
def embedderMessage (s : Scene) (h : Handle) (message : EmbedMessage) : Scene × Bool :=
  match message with
  | .embeddedNotify => (s, true)
  | .windowDeactivate | .focusOut =>
    let top := s.env.ancestorRoot h
    (s.loseFocus (if top.isNull then h else top), true)
  | .modalityOn => (s.notify h (.enableWindow false), true)
  | .modalityOff => (s.notify h (.enableWindow true), true)
  | .other _ => (s, false)

/-- A message of another client; its data has to be made of 32-bit items. -/
def clientMessage (s : Scene) (h : Handle) (event : EventRecord) (e : ClientMessageEvent) :
    Scene × Bool :=
  if h.isNull || e.format != 32 then (s, false)
  else
    match e.message with
    | .wmProtocols protocol time => s.wmProtocol h event protocol time e.data
    | .embed message _ => s.embedderMessage h message
    | .other _ => (s, false)

end GuestSeat.Scene
