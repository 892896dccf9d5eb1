import GuestSeat.Proofs.Seat.Grab
import GuestSeat.Proofs.Seat.Upshot
import GuestSeat.Proofs.Windows.Ancestry

/-!
What host events do to parents. Windows that stand for a clip come and go at the top level, and windows
are placed without a change of parent. So every handler but the one for windows that were moved to another
parent leaves each window the parent that it had, or none.
-/

namespace GuestSeat.Scene

open Environment (desktop)

def Prunes (s t : Scene) : Prop := s.env.Prunes t.env

namespace Prunes

variable {s t u : Scene}

theorem refl (s : Scene) : s.Prunes s := Environment.Prunes.refl s.env

theorem trans (first : s.Prunes t) (second : t.Prunes u) : s.Prunes u :=
  Environment.Prunes.trans first second

theorem of_windows (same : t.env.windows = s.env.windows) : s.Prunes t :=
  Environment.Prunes.of_windows same

theorem of_asked (asked : s.Asked t) : s.Prunes t := of_windows asked.env.windows

theorem of_face (prunes : s.Prunes t) (face : u.face = t.face) : s.Prunes u :=
  prunes.trans (of_windows (congrArg Face.windows face))

end Prunes

variable (s : Scene)

theorem prunes_tell (h : Handle) (message : GuestMessage) : s.Prunes (s.tell h message) := by
  rw [tell_eq]
  split
  · exact .refl s
  · exact .of_windows rfl

theorem prunes_notify (h : Handle) (message : GuestMessage) : s.Prunes (s.notify h message) :=
  .of_windows (s.env_windows_notify h message)

theorem prunes_destroyWindow (h : Handle) : s.Prunes (s.act fun env => env.destroyWindow h) :=
  s.env.prunes_destroyWindow h

/-- The window that stands for a clip is at the top level while it is there. -/
theorem Grabbed.prunes {s t : Scene} {kind : ClipKind} (grabbed : Grabbed kind s t) : s.Prunes t := by
  let created : Scene := { s with env := s.env.createCaptureWindow.1 }
  have made : s.Prunes created := s.env.prunes_createCaptureWindow
  cases grabbed with
  | kept _ face => exact .of_face (.refl s) face
  | declined _ _ face =>
      exact .of_face (made.trans (created.prunes_destroyWindow s.standing.fresh))
        (face.trans (created.face_destroyWindow s.standing.fresh).symm)
  | opened _ _ _ face => exact made.trans (.of_windows (congrArg Face.windows face))
  | moved _ _ _ _ face => exact .of_windows (congrArg Face.windows face)
  | ended old _ _ face =>
      exact .of_face (s.prunes_destroyWindow old.captureWindow)
        (face.trans (s.face_destroyWindow old.captureWindow).symm)

theorem prunes_release (report : Bool) : s.Prunes (s.release report) := by
  have face := s.face_release report
  split at face
  · exact .of_face (.refl s) face
  · next region _ =>
      exact .of_face (s.prunes_destroyWindow region.captureWindow)
        (face.trans (s.face_destroyWindow region.captureWindow).symm)

theorem prunes_resetClipping : s.Prunes s.resetClipping := by
  unfold resetClipping
  split
  · exact (s.prunes_release true).trans (.of_windows rfl)
  · exact .refl s

theorem prunes_clipToOutput : s.Prunes s.clipToOutput.1 := by
  unfold clipToOutput
  dsimp only
  split
  · exact .refl s
  · exact (s.grab_grabbed s.env.primaryMonitor .fullscreen).prunes

theorem prunes_clipFullscreen (h : Handle) (reset : Bool) :
    s.Prunes (s.clipFullscreen h reset).1 := by
  have asked : s.Prunes s.queryOwner.1 := .of_asked s.asked_queryOwner
  unfold clipFullscreen
  split
  · exact .refl s
  split
  · exact s.prunes_clipToOutput
  split
  · exact .refl s
  split
  next t owner found =>
  rw [found] at asked
  split
  · exact asked.trans t.prunes_clipToOutput
  · exact asked

theorem prunes_visit (h : Handle) (host : Option HostWindow) : s.Prunes (s.visit h host) :=
  .of_windows (congrArg Face.windows (s.face_visit h host))

theorem prunes_captureMouse (a : PointerAction) : s.Prunes (s.captureMouse a).1 := by
  unfold captureMouse
  split
  · exact .refl s
  next region _ =>
  split
  · have shown := s.prunes_visit region.captureWindow (some a.host)
    rw [visit_some] at shown
    exact shown.trans (.of_windows rfl)
  · exact .refl s

theorem prunes_pressAutoClip (h : Handle) (flags : MouseFlags) :
    s.Prunes (s.pressAutoClip h flags) := by
  unfold pressAutoClip
  split
  · dsimp only
    split
    · exact s.prunes_clipFullscreen _ false
    · exact .refl s
  · exact .refl s

theorem prunes_windowMouse (h : Handle) (a : PointerAction) : s.Prunes (s.windowMouse h a).1 := by
  unfold windowMouse
  split
  · exact .refl s
  · next info _ =>
      have pressed : s.Prunes ((s.visit h info.host).pressAutoClip h a.flags) :=
        (s.prunes_visit h info.host).trans (prunes_pressAutoClip _ h a.flags)
      exact pressed.trans (.of_windows rfl)

theorem prunes_sendMouse (h : Handle) (a : PointerAction) : s.Prunes (s.sendMouse h a).1 := by
  unfold sendMouse
  split
  · exact s.prunes_captureMouse a
  · exact s.prunes_windowMouse h a

theorem prunes_button (h : Handle) (host : HostWindow) (e : ButtonEvent) :
    s.Prunes (s.button h host e).1 := by
  unfold button
  split
  · exact .refl s
  · exact s.prunes_sendMouse h _

theorem prunes_moveTo (h : Handle) (serial : Serial) (a : PointerAction) :
    s.Prunes (s.moveTo h serial a).1 := by
  unfold moveTo
  split
  · have passed : s.Prunes (s.passWarpFence serial).1 := .of_windows rfl
    split
    · next found => rw [found] at passed; exact passed
    · next t found => rw [found] at passed; exact passed.trans (t.prunes_sendMouse h a)
  · exact s.prunes_sendMouse h a

theorem prunes_enter (h : Handle) (host : HostWindow) (serial : Serial) (e : CrossingEvent) :
    s.Prunes (s.enter h host serial e).1 := by
  unfold enter
  split
  · exact .refl s
  · exact s.prunes_moveTo h serial _

theorem prunes_key (h : Handle) (e : KeyEvent) : s.Prunes (s.key h e).1 := by
  unfold key
  split
  · exact .refl s
  · exact .of_windows rfl

theorem prunes_accumulateRaw (raw : RawMotionEvent Float) : s.Prunes (s.accumulateRaw raw).1 := by
  unfold accumulateRaw
  dsimp only
  split <;> exact .of_windows rfl

theorem prunes_rawMotion (serial : Serial) (raw : RawMotionEvent Float) :
    s.Prunes (s.rawMotion serial raw).1 := by
  unfold rawMotion
  split
  · have passed : s.Prunes (s.passWarpFence serial).1 := .of_windows rfl
    split
    · next found => rw [found] at passed; exact passed
    · next t found => rw [found] at passed; exact passed.trans (t.prunes_accumulateRaw raw)
  · exact s.prunes_accumulateRaw raw

theorem prunes_focusHost (info : WindowInfo) (time : Timestamp) :
    s.Prunes (s.focusHost info time) := by
  unfold focusHost
  split
  · exact .refl s
  · split <;> exact .of_windows rfl

theorem prunes_retryAfterRelease (holder : Handle) (event : EventRecord) :
    s.Prunes (s.retryAfterRelease holder event) := by
  rw [retryAfterRelease_eq]
  split <;> exact .of_windows rfl

/-- The host's focus goes to the top-level window of a window, if there is one. -/
theorem prunes_focusRoot (h : Handle) (time : Timestamp) :
    s.Prunes (if h.isNull then s else
      match s.env.info? (s.env.ancestorRoot h) with
      | none => s
      | some info => s.focusHost info time) := by
  split
  · exact .refl s
  · split
    · exact .refl s
    · exact s.prunes_focusHost _ time

theorem prunes_giveFocus (event : EventRecord) (h : Handle) (time : Timestamp) :
    s.Prunes (s.giveFocus event h time) := by
  have asked : s.Prunes s.canGrab.1 := .of_asked s.asked_canGrab
  unfold giveFocus
  split
  · next t found =>
      rw [found] at asked
      exact asked.trans (t.prunes_retryAfterRelease _ event)
  · next t found =>
      rw [found] at asked
      have fronted : s.Prunes (t.setForeground h) := asked.trans (.of_windows rfl)
      exact fronted.trans (prunes_focusRoot _ _ time)

theorem prunes_activateFirst (event : EventRecord) (time : Timestamp) (candidates : List Handle) :
    s.Prunes (s.activateFirst event time candidates) := by
  induction candidates generalizing s with
  | nil => exact .of_windows rfl
  | cons h rest ih =>
      have asked : s.Prunes (s.agreesToActivate h).1 := .of_asked (s.asked_agreesToActivate h)
      unfold activateFirst
      split
      · next t found => rw [found] at asked; exact asked.trans (t.prunes_giveFocus event h time)
      · next t found => rw [found] at asked; exact asked.trans (ih t)

theorem prunes_activateFocused (h : Handle) (event : EventRecord) :
    s.Prunes (s.activateFocused h event) := by
  have asked : s.Prunes (s.agreesToActivate h).1 := .of_asked (s.asked_agreesToActivate h)
  unfold activateFocused
  split
  · split
    · exact s.prunes_clipFullscreen h false
    · exact .refl s
  · split
    · next t found => rw [found] at asked; exact asked.trans (.of_windows rfl)
    · next t found =>
        rw [found] at asked
        exact asked.trans (t.prunes_activateFirst event 0 (t.fallbacks h))

theorem prunes_focusIn (h : Handle) (event : EventRecord) (focus : FocusEvent) :
    s.Prunes (s.focusIn h event focus).1 := by
  let noted := s.edit fun i => { i with keyboardWindow := h }
  have asked : s.Prunes noted.canGrab.1 := .of_windows noted.asked_canGrab.env.windows
  unfold focusIn
  split
  · exact .refl s
  split
  · next t found =>
      rw [show noted.canGrab = (t, false) from found] at asked
      exact asked.trans (t.prunes_retryAfterRelease desktop event)
  · next t found =>
      rw [show noted.canGrab = (t, true) from found] at asked
      have told : s.Prunes t.askForClip := asked.trans (.of_asked t.asked_askForClip)
      dsimp only
      split
      · exact told
      · exact told.trans (prunes_activateFocused _ h event)

theorem prunes_handOver (h : Handle) : s.Prunes (s.handOver h) := by
  unfold handOver
  split
  · exact .of_windows rfl
  · split
    · exact .of_windows rfl
    · exact .refl s

theorem prunes_loseFocus (h : Handle) : s.Prunes (s.loseFocus h) := by
  let noted := s.edit fun i => { i with lastFocus := h }
  have lost : s.Prunes noted := .of_windows rfl
  unfold loseFocus
  split
  · exact .refl s
  dsimp only
  split
  · split
    · exact lost.trans noted.prunes_resetClipping
    · exact lost
  · split
    · exact lost
    · exact (lost.trans (noted.prunes_notify h .cancelMode)).trans (prunes_handOver _ h)

theorem prunes_captureLost (h : Handle) (host : HostWindow) : s.Prunes (s.captureLost h host) := by
  unfold captureLost
  split
  · exact s.prunes_resetClipping.trans (.of_windows rfl)
  · exact .refl s

theorem prunes_focusOut (h : Handle) (event : EventRecord) (focus : FocusEvent) :
    s.Prunes (s.focusOut h event focus).1 := by
  let freed := if h == s.env.foreground then s.release true else s
  have released : s.Prunes freed := by
    dsimp only [freed]
    split
    · exact s.prunes_release true
    · exact .refl s
  unfold focusOut
  split
  · exact s.prunes_captureLost h event.window
  split
  · exact .refl s
  dsimp only
  split
  · exact released
  · exact released.trans (freed.prunes_loseFocus h)

theorem prunes_takeFocus (h : Handle) (event : EventRecord) (time : Timestamp) :
    s.Prunes (s.takeFocus h event time) := by
  have asked : s.Prunes (s.agreesToActivate h).1 := .of_asked (s.asked_agreesToActivate h)
  unfold takeFocus
  split
  · next t found => rw [found] at asked; exact asked.trans (t.prunes_giveFocus event h time)
  · next t found =>
      rw [found] at asked
      split
      · exact asked.trans (t.prunes_giveFocus event _ time)
      · exact asked.trans (t.prunes_activateFirst event time (t.fallbacks h))

theorem prunes_closeAfterProbe (h : Handle) : s.Prunes (s.closeAfterProbe h) := by
  have asked : s.Prunes (s.probeActivation h .close).1 := .of_asked (s.asked_probeActivation h .close)
  have closing : ∀ t : Scene, t.Prunes ((t.act fun env => { env with active := h }).tell h
      (.sysCommand .close)) := fun t =>
    Prunes.trans (t := t.act fun env => { env with active := h }) (.of_windows rfl) (prunes_tell _ h _)
  unfold closeAfterProbe
  dsimp only
  split
  · exact s.prunes_tell h _
  split
  · next found => rw [found] at asked; exact asked
  · next found => rw [found] at asked; exact asked
  · next t found => rw [found] at asked; exact asked.trans (t.prunes_tell h _)
  · next t found => rw [found] at asked; exact asked.trans (closing t)
  · next t found => rw [found] at asked; exact asked.trans (closing t)

theorem prunes_deleteWindow (h : Handle) : s.Prunes (s.deleteWindow h) := by
  unfold deleteWindow
  split
  · exact s.prunes_notify h _
  · split
    · exact .refl s
    · split
      · exact .refl s
      · exact s.prunes_closeAfterProbe h

theorem prunes_clientMessage (h : Handle) (event : EventRecord) (e : ClientMessageEvent) :
    s.Prunes (s.clientMessage h event e).1 := by
  unfold clientMessage
  split
  · exact .refl s
  split
  · next protocol time _ =>
      cases protocol with
      | deleteWindow => exact s.prunes_deleteWindow h
      | takeFocus => exact s.prunes_takeFocus h event time
      | ping => exact .of_windows rfl
      | other _ => exact .refl s
  · next message _ _ =>
      cases message with
      | windowDeactivate | focusOut => exact s.prunes_loseFocus _
      | modalityOn | modalityOff => exact s.prunes_notify h _
      | embeddedNotify | other _ => exact .refl s
  · exact .refl s

theorem prunes_expose (h : Handle) (host : HostWindow) (e : ExposeEvent) :
    s.Prunes (s.expose h host e).1 := by
  unfold expose
  split
  · exact .refl s
  · dsimp only
    split
    · next done =>
        obtain ⟨-, rfl⟩ := Environment.deliver_eq_ok done
        exact .of_windows rfl
    · exact .refl s

theorem prunes_mapped (h : Handle) (host : HostWindow) : s.Prunes (s.mapped h host).1 := by
  unfold mapped
  split
  · exact .refl s
  · split
    · exact .refl s
    · dsimp only
      split
      · exact s.prunes_focusHost _ 0
      · exact .refl s

theorem prunes_destroyed (h : Handle) : s.Prunes (s.destroyed h).1 := by
  unfold destroyed
  split
  · exact .refl s
  · exact .of_windows rfl

theorem prunes_gravity (h : Handle) (e : GravityEvent) : s.Prunes (s.gravity h e).1 := by
  unfold gravity
  split
  · exact .refl s
  · dsimp only
    split
    · exact .refl s
    · exact s.env.prunes_placeWindow h _ _

theorem prunes_applyCorrection (h : Handle) (correction : Correction) :
    s.Prunes (s.applyCorrection h correction) := by
  cases correction with
  | none => exact .refl s
  | command command => exact s.prunes_notify h _
  | restoreToForeground =>
      have fronted : s.Prunes (s.setForeground h) := .of_windows rfl
      exact fronted.trans (prunes_notify _ h _)

theorem prunes_property (h : Handle) (e : PropertyEvent) : s.Prunes (s.property h e).1 := by
  unfold property
  split
  · unfold wmStateChanged
    dsimp only
    split
    · exact .refl s
    split
    · exact .refl s
    next w _ =>
    have observed : s.Prunes (s.observeWmState h w e.change).1 := .of_windows rfl
    split
    · next found => rw [found] at observed; exact observed
    · next t found =>
        rw [found] at observed
        split
        · exact observed.trans (prunes_applyCorrection (t.editWindow h _) h _)
        · exact observed
  · unfold netStateChanged
    dsimp only
    split <;> exact .of_windows rfl
  · exact .refl s

theorem prunes_followPlacement (h : Handle) (info : WindowInfo) (rect : Rect) :
    s.Prunes (s.followPlacement h info rect).1 := by
  unfold followPlacement
  dsimp only
  split
  · exact .refl s
  · exact s.env.prunes_placeWindow h rect _

theorem prunes_configure (h : Handle) (event : EventRecord) (e : ConfigureEvent) :
    s.Prunes (s.configure h event e).1 := by
  unfold configure
  split
  · exact .refl s
  dsimp only
  split
  · unfold followGeometry
    split
    · exact prunes_followPlacement (s.editWindow h id) h _ _
    · dsimp only
      split
      · exact prunes_notify ((s.editWindow h id).editWindow h _) h _
      · exact prunes_followPlacement ((s.editWindow h id).editWindow h _) h _ _
  · exact .of_windows rfl

def TellsOfParent (event : EventRecord) : Prop := ∃ e, event.kind = .reparent e

/-- Handlers only cut windows off from their parents, unless the host tells of a new parent. -/
theorem prunes_handle {event : EventRecord} (h : Handle) (other : ¬ TellsOfParent event) :
    s.Prunes (s.handle h event).1 := by
  unfold handle
  cases kind : event.kind with
  | key e => exact s.prunes_key h e
  | button e => exact s.prunes_button h event.window e
  | motion e => exact s.prunes_moveTo h event.serial _
  | enter e => exact s.prunes_enter h event.window event.serial e
  | leave _ => exact .refl s
  | focusIn e => exact s.prunes_focusIn h event e
  | focusOut e => exact s.prunes_focusOut h event e
  | expose e => exact s.prunes_expose h event.window e
  | map => exact s.prunes_mapped h event.window
  | unmap => exact .refl s
  | destroy => exact s.prunes_destroyed h
  | reparent e => exact absurd ⟨e, kind⟩ other
  | configure e =>
      dsimp only
      split
      · exact .refl s
      · exact s.prunes_configure h event e
  | gravity e => exact s.prunes_gravity h e
  | property e =>
      dsimp only
      split
      · exact .refl s
      · exact s.prunes_property h e
  | clientMessage e => exact s.prunes_clientMessage h event e
  | generic e =>
      cases e with
      | rawMotion raw => exact s.prunes_rawMotion event.serial raw
      | deviceChanged change => exact .of_windows rfl
      | missing | unknown _ _ => exact .refl s

theorem prunes_dispatch {event : EventRecord} (other : ¬ TellsOfParent event) :
    s.Prunes (s.dispatch event).1 := by
  rw [s.fst_dispatch rfl]
  exact (s.receiving event).prunes_handle (target s.env event) other

end GuestSeat.Scene
