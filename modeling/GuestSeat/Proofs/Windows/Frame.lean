import GuestSeat.Seat.Dispatch

/-!
What a seat knows of its windows changes only with their properties, their geometry and their end. All
that it does about the pointer, the clip, the cursor and focus leaves that knowledge alone.
-/

namespace GuestSeat.Scene

open Environment (desktop)

variable (s : Scene)

@[simp] theorem window_editWindow (k h : Handle) (f : ManagedState → ManagedState) :
    (s.editWindow k f).window h = if h = k then f (s.window h) else s.window h := by
  unfold editWindow window ManagedCache.state ManagedCache.update OrderedMap.alter OrderedMap.getD
  rw [OrderedMap.get?_insert]
  split
  · next same => rw [same]; rfl
  · rfl

@[simp] theorem window_forgetWindow (k h : Handle) :
    (s.forgetWindow k).window h = if h = k then {} else s.window h := by
  unfold forgetWindow window ManagedCache.state OrderedMap.getD
  rw [OrderedMap.get?_erase]
  split <;> rfl

theorem get?_editWindow_of_ne {k h : Handle} (other : k ≠ h) (f : ManagedState → ManagedState) :
    (s.editWindow h f).seat.windows.get? k = s.seat.windows.get? k := by
  unfold editWindow ManagedCache.update OrderedMap.alter
  rw [OrderedMap.get?_insert, if_neg other]

theorem get?_editWindow (h : Handle) (f : ManagedState → ManagedState) :
    (s.editWindow h f).seat.windows.get? h = some (f (s.window h)) := by
  unfold editWindow ManagedCache.update OrderedMap.alter
  rw [OrderedMap.get?_insert, if_pos rfl]
  rfl

theorem get?_forgetWindow (h k : Handle) : (s.forgetWindow h).seat.windows.get? k =
    if k = h then none else s.seat.windows.get? k :=
  s.seat.windows.get?_erase h k

variable {s} in
theorem window_congr {t : Scene} (same : t.seat.windows = s.seat.windows) (h : Handle) :
    t.window h = s.window h :=
  congrArg (fun windows => ManagedCache.state windows h) same

variable {s} in
/-- What is known of a window is what its entry says. -/
theorem window_of_get? {h : Handle} {m : ManagedState} (known : s.seat.windows.get? h = some m) :
    s.window h = m := by
  unfold window ManagedCache.state OrderedMap.getD
  rw [known]
  rfl

variable {s} in
theorem window_get?_congr {h : Handle} {t : Scene}
    (same : t.seat.windows.get? h = s.seat.windows.get? h) : t.window h = s.window h := by
  unfold window ManagedCache.state OrderedMap.getD
  rw [same]

@[simp] theorem windows_act (f : Environment → Environment) :
    (s.act f).seat.windows = s.seat.windows := rfl

@[simp] theorem windows_edit (f : InputState → InputState) :
    (s.edit f).seat.windows = s.seat.windows := rfl

@[simp] theorem windows_request (r : HostRequest) :
    (s.request r).seat.windows = s.seat.windows := rfl

@[simp] theorem windows_tell (h : Handle) (message : GuestMessage) :
    (s.tell h message).seat.windows = s.seat.windows := rfl

@[simp] theorem windows_notify (h : Handle) (message : GuestMessage) :
    (s.notify h message).seat.windows = s.seat.windows := rfl

@[simp] theorem windows_showCursor (w : HostWindow) (cursor : Option CursorId) :
    (s.showCursor w cursor).seat.windows = s.seat.windows := by
  cases cursor <;> rfl

@[simp] theorem windows_syncCursor (w : HostWindow) :
    (s.syncCursor w).seat.windows = s.seat.windows :=
  s.windows_showCursor w _

@[simp] theorem windows_defineCursor (h : Handle) (cursor : Option CursorId) :
    (s.defineCursor h cursor).seat.windows = s.seat.windows := by
  unfold defineCursor
  split <;> simp

@[simp] theorem windows_setCursor (cursor : Option CursorId) :
    (s.setCursor cursor).seat.windows = s.seat.windows := by
  unfold setCursor
  dsimp only
  split <;> rfl

@[simp] theorem windows_enableRaw : s.enableRaw.1.seat.windows = s.seat.windows := by
  unfold enableRaw editRaw
  split
  · rfl
  · rfl
  all_goals
    dsimp only
    split <;> rfl

@[simp] theorem windows_disableRaw : s.disableRaw.seat.windows = s.seat.windows := by
  unfold disableRaw
  split <;> rfl

@[simp] theorem windows_accumulateRaw (raw : RawMotionEvent Float) :
    (s.accumulateRaw raw).1.seat.windows = s.seat.windows := by
  unfold accumulateRaw
  dsimp only
  split <;> rfl

@[simp] theorem windows_passWarpFence (serial : Serial) :
    (s.passWarpFence serial).1.seat.windows = s.seat.windows := rfl

@[simp] theorem windows_rawMotion (serial : Serial) (raw : RawMotionEvent Float) :
    (s.rawMotion serial raw).1.seat.windows = s.seat.windows := by
  have passed := s.windows_passWarpFence serial
  unfold rawMotion
  split
  · split
    · next t late => rw [late] at passed; exact passed
    · next t late => rw [late] at passed; simpa using passed
  · simp

@[simp] theorem windows_useSurface : s.useSurface.1.seat.windows = s.seat.windows := by
  unfold useSurface
  split <;> rfl

@[simp] theorem windows_reportOwner (source target : Handle) :
    (s.reportOwner source target).seat.windows = s.seat.windows := by
  unfold reportOwner
  split <;> rfl

@[simp] theorem windows_queryOwner : s.queryOwner.1.seat.windows = s.seat.windows := by
  unfold queryOwner
  split
  · rfl
  · split <;> rfl

@[simp] theorem windows_abandonGrab (surface : HostWindow) (capture : Handle) :
    (s.abandonGrab surface capture).seat.windows = s.seat.windows := by
  unfold abandonGrab dropClip
  dsimp only
  split <;> simp

@[simp] theorem windows_establish (surface : HostWindow) (region : ClipRegion) :
    (s.establish surface region).seat.windows = s.seat.windows := by
  unfold establish
  dsimp only
  rw [windows_reportOwner]
  split <;> simp

@[simp] theorem windows_confine (surface : HostWindow) (region : ClipRegion) :
    (s.confine surface region).1.seat.windows = s.seat.windows := by
  unfold confine showSurface armWarpFence
  dsimp only
  split <;> split <;> simp

@[simp] theorem windows_beginClip (surface : HostWindow) (rect : Rect) (kind : ClipKind) :
    (s.beginClip surface rect kind).1.seat.windows = s.seat.windows := by
  unfold beginClip
  dsimp only
  split
  · next t asked =>
      have kept := windows_enableRaw { s with env := s.env.createCaptureWindow.1 }
      rw [asked] at kept
      exact kept
  · next t asked =>
      have kept := windows_enableRaw { s with env := s.env.createCaptureWindow.1 }
      rw [asked] at kept
      rw [windows_confine]
      exact kept

@[simp] theorem windows_grab (rect : Rect) (kind : ClipKind) :
    (s.grab rect kind).1.seat.windows = s.seat.windows := by
  have used := s.windows_useSurface
  unfold grab
  split
  · rfl
  split
  · rfl
  split
  · next t found => rw [found] at used; exact used
  · next t surface found =>
      rw [found] at used
      split <;> simpa using used

@[simp] theorem windows_release (report : Bool) :
    (s.release report).seat.windows = s.seat.windows := by
  unfold release dropClip
  split
  · rfl
  · dsimp only
    split <;> split <;> simp

@[simp] theorem windows_resetClipping : s.resetClipping.seat.windows = s.seat.windows := by
  unfold resetClipping
  split <;> simp

theorem windows_forwardClip {t : Scene} (h : s.forwardClip? = some t) :
    t.seat.windows = s.seat.windows := by
  unfold forwardClip? at h
  dsimp only at h
  split at h
  · cases h
  · split at h
    · split at h
      · cases h
        rfl
      · cases h
    · cases h

@[simp] theorem windows_clipCursor (rect : Option Rect) :
    (s.clipCursor rect).seat.windows = s.seat.windows := by
  unfold clipCursor answerClip
  dsimp only
  split
  · split
    · next t forwarded => exact s.windows_forwardClip forwarded
    have kept := s.windows_grab ((rect.map fun r => r.clampTo s.env.virtualScreen).getD
      s.env.virtualScreen) .explicit
    split
    · next t granted => rw [granted] at kept; exact kept
    · next t granted =>
        rw [granted] at kept
        simpa using kept
  · simp

@[simp] theorem windows_clipToOutput : s.clipToOutput.1.seat.windows = s.seat.windows := by
  unfold clipToOutput
  dsimp only
  split <;> simp

@[simp] theorem windows_clipFullscreen (h : Handle) (reset : Bool) :
    (s.clipFullscreen h reset).1.seat.windows = s.seat.windows := by
  have asked := s.windows_queryOwner
  unfold clipFullscreen
  split
  · rfl
  split
  · simp
  split
  · rfl
  split
  next t owner found =>
  rw [found] at asked
  split <;> simpa using asked

@[simp] theorem windows_canGrab : s.canGrab.1.seat.windows = s.seat.windows := by
  unfold canGrab
  split <;> rfl

@[simp] theorem windows_reapplyClip (h : Handle) :
    (s.reapplyClip h).1.seat.windows = s.seat.windows := by
  unfold reapplyClip
  split
  · rfl
  split
  · have kept := s.windows_grab (s.env.guestClip.clampTo s.env.virtualScreen) .explicit
    split
    · next t granted => rw [granted] at kept; exact kept
    · next t granted =>
        rw [granted] at kept
        simpa using kept
  · simp

@[simp] theorem windows_takeOwnerReport (source target : Handle) :
    (s.takeOwnerReport source target).1.seat.windows = s.seat.windows := by
  unfold takeOwnerReport
  split
  · rfl
  · dsimp only
    split <;> rfl

@[simp] theorem windows_takeReset (h : Handle) :
    (s.takeReset h).1.seat.windows = s.seat.windows := by
  unfold takeReset markReset
  split <;> simp

@[simp] theorem windows_driverMessage (h : Handle) (message : GuestMessage) :
    (s.driverMessage h message).1.seat.windows = s.seat.windows := by
  cases message with
  | clipOwnerChanged source target => exact s.windows_takeOwnerReport source target
  | clipReset => exact s.windows_takeReset h
  | clipRequest => exact s.windows_reapplyClip h
  | releaseCursor => exact s.windows_resetClipping
  | setCursor cursor => exact s.windows_defineCursor h cursor
  | queryClipOwner | sysCommand _ | close | cancelMode | mouseActivate _ _ | enableWindow _
  | redraw _ => rfl

@[simp] theorem windows_focusHost (info : WindowInfo) (time : Timestamp) :
    (s.focusHost info time).seat.windows = s.seat.windows := by
  unfold focusHost
  split
  · rfl
  · split <;> rfl

@[simp] theorem windows_probeActivation (h : Handle) (hit : HitTest) :
    (s.probeActivation h hit).1.seat.windows = s.seat.windows := by
  unfold probeActivation
  dsimp only
  split <;> rfl

@[simp] theorem windows_agreesToActivate (h : Handle) :
    (s.agreesToActivate h).1.seat.windows = s.seat.windows := by
  unfold agreesToActivate takesActivation
  split
  · exact s.windows_probeActivation h .menu
  · rfl

@[simp] theorem windows_retryAfterRelease (holder : Handle) (event : EventRecord) :
    (s.retryAfterRelease holder event).seat.windows = s.seat.windows := by
  unfold retryAfterRelease
  dsimp only
  split <;> rfl

/-- The host's focus goes to the top-level window of a window, if there is one. -/
theorem windows_focusRoot (h : Handle) (time : Timestamp) :
    (if h.isNull then s else
      match s.env.info? (s.env.ancestorRoot h) with
      | none => s
      | some info => s.focusHost info time).seat.windows = s.seat.windows := by
  split
  · rfl
  · split
    · rfl
    · exact s.windows_focusHost _ time

@[simp] theorem windows_giveFocus (event : EventRecord) (h : Handle) (time : Timestamp) :
    (s.giveFocus event h time).seat.windows = s.seat.windows := by
  have asked := s.windows_canGrab
  unfold giveFocus
  split
  · next t found =>
      rw [found] at asked
      simpa using asked
  · next t found =>
      rw [found] at asked
      exact (windows_focusRoot (t.setForeground h) _ time).trans asked

@[simp] theorem windows_activateFirst (event : EventRecord) (time : Timestamp)
    (candidates : List Handle) :
    (s.activateFirst event time candidates).seat.windows = s.seat.windows := by
  induction candidates generalizing s with
  | nil => rfl
  | cons h rest ih =>
      have probed := s.windows_agreesToActivate h
      unfold activateFirst
      split
      · next t agreed => rw [agreed] at probed; simpa using probed
      · next t agreed => rw [agreed] at probed; exact (ih t).trans probed

@[simp] theorem windows_askForClip : s.askForClip.seat.windows = s.seat.windows := by
  unfold askForClip
  split <;> rfl

@[simp] theorem windows_activateFocused (h : Handle) (event : EventRecord) :
    (s.activateFocused h event).seat.windows = s.seat.windows := by
  have probed := s.windows_agreesToActivate h
  unfold activateFocused activateFallback
  split
  · split <;> simp
  · split
    · next t agreed => rw [agreed] at probed; exact probed
    · next t agreed => rw [agreed] at probed; simpa using probed

@[simp] theorem windows_focusIn (h : Handle) (event : EventRecord) (focus : FocusEvent) :
    (s.focusIn h event focus).1.seat.windows = s.seat.windows := by
  have asked := windows_canGrab (s.edit fun i => { i with keyboardWindow := h })
  unfold focusIn
  split
  · rfl
  split
  · next t found => rw [found] at asked; simpa using asked
  · next t found =>
      rw [found] at asked
      dsimp only
      split <;> simpa using asked

@[simp] theorem windows_handOver (h : Handle) : (s.handOver h).seat.windows = s.seat.windows := by
  unfold handOver
  split
  · rfl
  · split <;> rfl

@[simp] theorem windows_loseFocus (h : Handle) : (s.loseFocus h).seat.windows = s.seat.windows := by
  unfold loseFocus
  split
  · rfl
  dsimp only
  split
  · split <;> simp
  · split <;> simp

@[simp] theorem windows_captureLost (h : Handle) (host : HostWindow) :
    (s.captureLost h host).seat.windows = s.seat.windows := by
  unfold captureLost markReset
  split <;> simp

@[simp] theorem windows_focusOut (h : Handle) (event : EventRecord) (focus : FocusEvent) :
    (s.focusOut h event focus).1.seat.windows = s.seat.windows := by
  unfold focusOut
  split
  · simp
  split
  · rfl
  dsimp only
  split <;> split <;> simp

@[simp] theorem windows_takeFocus (h : Handle) (event : EventRecord) (time : Timestamp) :
    (s.takeFocus h event time).seat.windows = s.seat.windows := by
  have probed := s.windows_agreesToActivate h
  unfold takeFocus activateFallback
  split
  · next t agreed => rw [agreed] at probed; simpa using probed
  · next t agreed =>
      rw [agreed] at probed
      split <;> simpa using probed

@[simp] theorem windows_closeAfterProbe (h : Handle) :
    (s.closeAfterProbe h).seat.windows = s.seat.windows := by
  have probed := s.windows_probeActivation h .close
  unfold closeAfterProbe
  dsimp only
  split
  · rfl
  split
  all_goals
    next t answered =>
      rw [answered] at probed
      exact probed

@[simp] theorem windows_clientMessage (h : Handle) (event : EventRecord) (e : ClientMessageEvent) :
    (s.clientMessage h event e).1.seat.windows = s.seat.windows := by
  unfold clientMessage
  split
  · rfl
  split
  · next protocol time _ =>
      cases protocol with
      | deleteWindow =>
          show (s.deleteWindow h).seat.windows = s.seat.windows
          unfold deleteWindow
          split
          · rfl
          · split
            · rfl
            · split <;> simp
      | takeFocus => exact s.windows_takeFocus h event time
      | ping | other _ => rfl
  · next message _ _ =>
      cases message with
      | windowDeactivate | focusOut => exact s.windows_loseFocus _
      | embeddedNotify | modalityOn | modalityOff | other _ => rfl
  · rfl

@[simp] theorem windows_enterWindow (h : Handle) :
    (s.enterWindow h).1.seat.windows = s.seat.windows := rfl

@[simp] theorem windows_feedMouse (h : Handle) (p : Point) (a : PointerAction) :
    (s.feedMouse h p a).seat.windows = s.seat.windows := rfl

@[simp] theorem windows_captureMouse (a : PointerAction) :
    (s.captureMouse a).1.seat.windows = s.seat.windows := by
  unfold captureMouse
  split
  · rfl
  · split
    · dsimp only
      split <;> simp
    · rfl

@[simp] theorem windows_pressAutoClip (h : Handle) (flags : MouseFlags) :
    (s.pressAutoClip h flags).seat.windows = s.seat.windows := by
  unfold pressAutoClip
  dsimp only
  split
  · split <;> simp
  · rfl

@[simp] theorem windows_windowMouse (h : Handle) (a : PointerAction) :
    (s.windowMouse h a).1.seat.windows = s.seat.windows := by
  unfold windowMouse
  split
  · rfl
  · dsimp only
    rw [windows_feedMouse, windows_pressAutoClip]
    split <;> simp

@[simp] theorem windows_sendMouse (h : Handle) (a : PointerAction) :
    (s.sendMouse h a).1.seat.windows = s.seat.windows := by
  unfold sendMouse
  split <;> simp

@[simp] theorem windows_key (h : Handle) (e : KeyEvent) :
    (s.key h e).1.seat.windows = s.seat.windows := by
  unfold key
  split <;> rfl

@[simp] theorem windows_button (h : Handle) (host : HostWindow) (e : ButtonEvent) :
    (s.button h host e).1.seat.windows = s.seat.windows := by
  unfold button
  split <;> simp

@[simp] theorem windows_moveTo (h : Handle) (serial : Serial) (a : PointerAction) :
    (s.moveTo h serial a).1.seat.windows = s.seat.windows := by
  have passed := s.windows_passWarpFence serial
  unfold moveTo
  split
  · split
    · next t late => rw [late] at passed; exact passed
    · next t late => rw [late] at passed; simpa using passed
  · simp

@[simp] theorem windows_enter (h : Handle) (host : HostWindow) (serial : Serial)
    (e : CrossingEvent) : (s.enter h host serial e).1.seat.windows = s.seat.windows := by
  unfold enter
  split <;> simp

@[simp] theorem windows_expose (h : Handle) (host : HostWindow) (e : ExposeEvent) :
    (s.expose h host e).1.seat.windows = s.seat.windows := by
  unfold expose
  split
  · rfl
  · dsimp only
    split <;> rfl

@[simp] theorem windows_mapped (h : Handle) (host : HostWindow) :
    (s.mapped h host).1.seat.windows = s.seat.windows := by
  unfold mapped
  split
  · rfl
  · split
    · rfl
    · dsimp only
      split <;> simp

@[simp] theorem windows_reparented (h : Handle) (e : ReparentEvent) :
    (s.reparented h e).1.seat.windows = s.seat.windows := by
  unfold reparented
  split
  · rfl
  split
  · rfl
  split
  · rfl
  · dsimp only
    split <;> rfl

@[simp] theorem windows_gravity (h : Handle) (e : GravityEvent) :
    (s.gravity h e).1.seat.windows = s.seat.windows := by
  unfold gravity
  split
  · rfl
  · dsimp only
    split <;> rfl

@[simp] theorem windows_applyCorrection (h : Handle) (correction : Correction) :
    (s.applyCorrection h correction).seat.windows = s.seat.windows := by
  cases correction <;> rfl

section
variable {α : Type} (view : ManagedState → α) (h k : Handle)

theorem view_editWindow {f : ManagedState → ManagedState}
    (keeps : view (f (s.window k)) = view (s.window k)) :
    view ((s.editWindow k f).window h) = view (s.window h) := by
  rw [window_editWindow]
  split
  · next same => rw [same, keeps]
  · rfl

theorem observe_fst (m : ManagedState) (change : PropertyChange) (reported : Option WmState) :
    ∃ wmState, (m.observe change reported).1 = { m with wmState } := by
  unfold ManagedState.observe
  cases change with
  | deleted => exact ⟨.withdrawn, rfl⟩
  | newValue =>
      cases reported with
      | none => exact ⟨m.wmState, rfl⟩
      | some new => exact ⟨new, rfl⟩

theorem correct_fst (m : ManagedState) (style : WindowStyle) (reported : NetState) :
    ∃ iconic netState, (m.correct style reported).1 = { m with iconic, netState } := by
  unfold ManagedState.correct
  split
  · exact ⟨false, reported, rfl⟩
  · exact ⟨true, m.netState, rfl⟩
  · exact ⟨m.iconic, m.netState, rfl⟩

theorem view_wmStateChanged (note : ∀ (m : ManagedState) wmState, view { m with wmState } = view m)
    (look : ∀ (m : ManagedState) iconic netState, view { m with iconic, netState } = view m)
    (change : PropertyChange) (correcting : Bool) :
    view ((s.wmStateChanged k change correcting).window h) = view (s.window h) := by
  unfold wmStateChanged
  split
  · rfl
  split
  · rfl
  next info _ _ w _ =>
  have observed : view ((s.observeWmState k w change).1.window h) = view (s.window h) := by
    obtain ⟨wmState, seen⟩ := observe_fst (s.window k) change (s.env.wmState? w)
    exact s.view_editWindow view h k ((congrArg view seen).trans (note _ _))
  split
  · next t told => rwa [told] at observed
  · next t told =>
      rw [told] at observed
      rw [← observed]
      split
      · obtain ⟨iconic, netState, corrected⟩ := correct_fst (t.window k) info.style (t.env.netState w)
        rw [window_congr (windows_applyCorrection _ k _)]
        exact t.view_editWindow view h k ((congrArg view corrected).trans (look _ _ _))
      · rfl

theorem view_configure (read : ∀ (m : ManagedState) netState, view { m with netState } = view m)
    (event : EventRecord) (e : ConfigureEvent) :
    view ((s.configure k event e).1.window h) = view (s.window h) := by
  have placed : ∀ (u : Scene) (info : WindowInfo) (rect : Rect),
      (u.followPlacement k info rect).1.window h = u.window h := by
    intro u info rect
    unfold followPlacement
    dsimp only
    split <;> rfl
  have noted : view ((s.editWindow k id).window h) = view (s.window h) := s.view_editWindow view h k rfl
  unfold configure
  split
  · rfl
  dsimp only
  split
  · rw [← noted]
    unfold followGeometry
    split
    · rw [placed]
    · have recorded : ∀ netState, view (((s.editWindow k id).editWindow k fun state =>
          { state with netState }).window h) = view ((s.editWindow k id).window h) :=
        fun netState => view_editWindow _ view h k (read _ netState)
      dsimp only
      split
      · exact recorded _
      · rw [placed]
        exact recorded _
  · exact noted

end

def TellsOfWindow (e : EventRecord) : Prop :=
  e.tag = .property ∨ e.tag = .configure ∨ e.tag = .destroy

/-- Other events change nothing that is known of windows. -/
theorem windows_handle {event : EventRecord} (h : Handle) (other : ¬ TellsOfWindow event) :
    (s.handle h event).1.seat.windows = s.seat.windows := by
  unfold TellsOfWindow EventRecord.tag at other
  unfold handle motion
  cases hkind : event.kind with
  | property _ | configure _ | destroy => simp [hkind, EventKind.tag] at other
  | generic extension => cases extension <;> simp [deviceChanged, editRaw]
  | _ => simp

end GuestSeat.Scene
