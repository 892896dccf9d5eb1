import GuestSeat.Proofs.Seat.Deeds
import GuestSeat.Seat.Dispatch

/-!
What one host event makes a seat do. Most handlers are routine; the rest let a window show the cursor,
end the clip or put the primary output's in force, and use up one handle at most.
-/

namespace GuestSeat.Scene

open Environment (desktop)

variable {L : Licence} (s : Scene)

theorem routine_setForeground (h : Handle) : s.Routine (s.setForeground h) :=
  .ofEnv (s.env.routine_setForeground h)

theorem routine_focusHost (info : WindowInfo) (time : Timestamp) : s.Routine (s.focusHost info time) := by
  unfold focusHost
  split
  · exact .refl s
  · split
    · exact s.routine_request rfl rfl
    · exact .ofEnv (s.env.routine_setInputFocus _ time)

theorem routine_probeActivation (h : Handle) (hit : HitTest) :
    s.Routine (s.probeActivation h hit).1 := by
  have sent := s.env.routine_sendWithin (h := h) s.seat.config.focus.probeTimeout
    (show (GuestMessage.mouseActivate (s.env.ancestorRoot h) hit).isOwnership = false from rfl)
  unfold probeActivation
  dsimp only
  split
  · next answered => rw [answered] at sent; exact .ofEnv sent
  · next silent => rw [silent] at sent; exact .ofEnv sent

theorem routine_takesActivation (h : Handle) : s.Routine (s.takesActivation h).1 :=
  s.routine_probeActivation h .menu

theorem routine_agreesToActivate (h : Handle) : s.Routine (s.agreesToActivate h).1 := by
  unfold agreesToActivate
  split
  · exact s.routine_takesActivation h
  · exact .refl s

theorem routine_retryAfterRelease (holder : Handle) (event : EventRecord) :
    s.Routine (s.retryAfterRelease holder event) := by
  unfold retryAfterRelease
  dsimp only
  split
  · exact .ofEnv (s.env.routine_resend event)
  · exact (s.routine_tell rfl rfl).trans (.ofEnv (Environment.routine_resend _ event))

/-- The host's focus goes to the top-level window of a window, if there is one. -/
theorem routine_focusRoot (h : Handle) (time : Timestamp) :
    s.Routine (if h.isNull then s else
      match s.env.info? (s.env.ancestorRoot h) with
      | none => s
      | some info => s.focusHost info time) := by
  split
  · exact .refl s
  · split
    · exact .refl s
    · exact s.routine_focusHost _ time

theorem routine_giveFocus (event : EventRecord) (h : Handle) (time : Timestamp) :
    s.Routine (s.giveFocus event h time) := by
  have asked := s.routine_canGrab
  unfold giveFocus
  cases hc : s.canGrab with
  | mk t granted =>
      rw [hc] at asked
      cases granted with
      | false => exact asked.trans (t.routine_retryAfterRelease _ event)
      | true => exact (asked.trans (t.routine_setForeground h)).trans (routine_focusRoot _ _ time)

theorem routine_activateFirst (event : EventRecord) (time : Timestamp) (candidates : List Handle) :
    s.Routine (s.activateFirst event time candidates) := by
  induction candidates generalizing s with
  | nil => exact s.routine_setForeground desktop
  | cons h rest ih =>
      have probed := s.routine_agreesToActivate h
      unfold activateFirst
      cases ha : s.agreesToActivate h with
      | mk t agreed =>
          rw [ha] at probed
          cases agreed with
          | true => exact probed.trans (t.routine_giveFocus event h time)
          | false => exact probed.trans (ih t)

theorem routine_askForClip : s.Routine s.askForClip := by
  unfold askForClip
  split
  · exact .refl s
  · exact .ofEnv (s.env.routine_sendWithin _ rfl)

theorem activateFocused_deeds (h : Handle) (event : EventRecord) (hR : L.rect s.env.primaryMonitor) :
    Deeds L 1 s (s.activateFocused h event) := by
  unfold activateFocused
  split
  · split
    · exact s.clipFullscreen_deeds h false nofun hR
    · exact .refl s
  · have probed := s.routine_agreesToActivate h
    cases ha : s.agreesToActivate h with
    | mk t agreed =>
        rw [ha] at probed
        cases agreed with
        | true => exact .routine (probed.trans (t.routine_setForeground h))
        | false => exact .routine (probed.trans (t.routine_activateFirst event 0 _))

theorem focusIn_deeds (h : Handle) (event : EventRecord) (focus : FocusEvent)
    (hR : L.rect s.env.primaryMonitor) : Deeds L 1 s (s.focusIn h event focus).1 := by
  unfold focusIn
  split
  · exact .refl s
  · let noted := s.edit fun i => { i with keyboardWindow := h }
    have hnoted : s.Routine noted := { Routine.refl s with }
    have asked : s.Routine noted.canGrab.1 := hnoted.trans noted.routine_canGrab
    split
    · next t hc =>
        rw [show noted.canGrab = (t, false) from hc] at asked
        exact .routine (asked.trans (t.routine_retryAfterRelease desktop event))
    · next t hc =>
        rw [show noted.canGrab = (t, true) from hc] at asked
        have told := asked.trans t.routine_askForClip
        dsimp only
        split
        · exact .routine told
        · refine .after told (activateFocused_deeds _ h event ?_)
          rw [told.env.primaryMonitor]
          exact hR

theorem routine_handOver (h : Handle) : s.Routine (s.handOver h) := by
  unfold handOver
  split
  · exact s.routine_setForeground _
  · split
    · exact s.routine_setForeground desktop
    · exact .refl s

theorem loseFocus_deeds (h : Handle) : Deeds L 0 s (s.loseFocus h) := by
  have noted : s.Routine (s.edit fun i => { i with lastFocus := h }) := { Routine.refl s with }
  unfold loseFocus
  split
  · exact .refl s
  dsimp only
  split
  · split
    · exact .after noted (resetClipping_deeds _)
    · exact .routine noted
  · split
    · exact .routine noted
    · exact .routine ((noted.trans (routine_notify _ rfl)).trans (routine_handOver _ h))

theorem captureLost_deeds (h : Handle) (host : HostWindow) : Deeds L 0 s (s.captureLost h host) := by
  unfold captureLost
  split
  · exact s.resetClipping_deeds.trans (n := 0) (.one .mark)
  · exact .refl s

theorem focusOut_deeds (h : Handle) (event : EventRecord) (focus : FocusEvent) :
    Deeds L 0 s (s.focusOut h event focus).1 := by
  unfold focusOut
  split
  · exact s.captureLost_deeds h event.window
  split
  · exact .refl s
  · have released : Deeds L 0 s (if h == s.env.foreground then s.release true else s) := by
      split
      · exact .one (.release true (Or.inl rfl))
      · exact .refl s
    dsimp only
    split
    · exact released
    · exact released.trans (loseFocus_deeds _ h)

theorem routine_takeFocus (h : Handle) (event : EventRecord) (time : Timestamp) :
    s.Routine (s.takeFocus h event time) := by
  have probed := s.routine_agreesToActivate h
  unfold takeFocus
  cases ha : s.agreesToActivate h with
  | mk t agreed =>
      rw [ha] at probed
      cases agreed with
      | true => exact probed.trans (t.routine_giveFocus event h time)
      | false =>
          dsimp only
          split
          · exact probed.trans (t.routine_giveFocus event _ time)
          · exact probed.trans (t.routine_activateFirst event time _)

theorem routine_setActive (h : Handle) : s.Routine (s.act fun env => { env with active := h }) :=
  .ofEnv { Environment.Routine.refl s.env with }

theorem routine_closeAfterProbe (h : Handle) : s.Routine (s.closeAfterProbe h) := by
  have probed := s.routine_probeActivation h .close
  unfold closeAfterProbe
  dsimp only
  split
  · exact s.routine_tell rfl rfl
  cases hp : s.probeActivation h .close with
  | mk t answer =>
      rw [hp] at probed
      have closing :
          s.Routine ((t.act fun env => { env with active := h }).tell h (.sysCommand .close)) :=
        (probed.trans (t.routine_setActive h)).trans (routine_tell _ rfl rfl)
      cases answer with
      | none => exact closing
      | some activation =>
          cases activation with
          | activateAndEat | noActivateAndEat => exact probed
          | noActivate => exact probed.trans (t.routine_tell rfl rfl)
          | activate => exact closing

theorem routine_deleteWindow (h : Handle) : s.Routine (s.deleteWindow h) := by
  unfold deleteWindow
  split
  · exact s.routine_notify rfl
  · split
    · exact .refl s
    · split
      · exact .refl s
      · exact s.routine_closeAfterProbe h

theorem routine_wmProtocol (h : Handle) (event : EventRecord) (protocol : WmProtocol)
    (time : Timestamp) (data : DataWords) :
    s.Routine (s.wmProtocol h event protocol time data).1 := by
  cases protocol with
  | deleteWindow => exact s.routine_deleteWindow h
  | takeFocus => exact s.routine_takeFocus h event time
  | ping => exact s.routine_request rfl rfl
  | other _ => exact .refl s

theorem embedderMessage_deeds (h : Handle) (message : EmbedMessage) :
    Deeds L 0 s (s.embedderMessage h message).1 := by
  cases message with
  | windowDeactivate | focusOut => exact s.loseFocus_deeds _
  | modalityOn | modalityOff => exact .routine (s.routine_notify rfl)
  | embeddedNotify | other _ => exact .refl s

theorem clientMessage_deeds (h : Handle) (event : EventRecord) (e : ClientMessageEvent) :
    Deeds L 0 s (s.clientMessage h event e).1 := by
  unfold clientMessage
  split
  · exact .refl s
  · split
    · exact .routine (s.routine_wmProtocol h event _ _ _)
    · exact s.embedderMessage_deeds h _
    · exact .refl s

variable {s} in
/-- What the pointer can come to does not change by routine. -/
theorem Routine.meets {t : Scene} (routine : s.Routine t) {h : Handle} (met : s.env.Meets h) :
    t.env.Meets h := by
  have lookup : t.env.lookup? = s.env.lookup? := congrArg Environment.Outlook.lookup routine.outlook
  unfold Environment.Meets
  rwa [lookup]

theorem routine_feedMouse (h : Handle) (p : Point) (a : PointerAction) : s.Routine (s.feedMouse h p a) :=
  .ofEnv (s.env.routine_feed h _)

/-- The capture surface shows the cursor if it has to. -/
theorem captureMouse_deeds (a : PointerAction) : Deeds L 0 s (s.captureMouse a).1 := by
  unfold captureMouse
  split
  · exact .refl s
  · next region held =>
      split
      · next surface =>
          have touched := Deeds.one (L := L) (n := 0) (.touch region a.host held (beq_iff_eq.mp surface))
          rw [visit_some] at touched
          exact touched.before (routine_feedMouse _ _ _ a)
      · exact .refl s

theorem pressAutoClip_deeds (h : Handle) (flags : MouseFlags) (hR : L.rect s.env.primaryMonitor) :
    Deeds L 1 s (s.pressAutoClip h flags) := by
  unfold pressAutoClip
  split
  · dsimp only
    split
    · exact s.clipFullscreen_deeds _ false nofun hR
    · exact .refl s
  · exact .refl s

theorem windowMouse_deeds (h : Handle) (a : PointerAction) (roams : L.roams) (met : s.env.Meets h)
    (hR : L.rect s.env.primaryMonitor) : Deeds L 1 s (s.windowMouse h a).1 := by
  unfold windowMouse
  split
  · exact .refl s
  · next info known =>
      have visited : Deeds L 0 s (s.visit h info.host) := .one (.visit h info roams met known)
      have pressed : Deeds L 1 (s.visit h info.host) ((s.visit h info.host).pressAutoClip h a.flags) := by
        refine pressAutoClip_deeds _ h a.flags ?_
        rw [(s.quiet_visit h info.host).env.primaryMonitor]
        exact hR
      have done := (visited.trans pressed).before (routine_feedMouse _ h (windowPlace s.env info a.host
        a.position) a)
      rw [Nat.zero_add] at done
      exact done

theorem sendMouse_deeds (h : Handle) (a : PointerAction) (roams : L.roams)
    (met : h.isNull = true ∨ s.env.Meets h) (hR : L.rect s.env.primaryMonitor) :
    Deeds L 1 s (s.sendMouse h a).1 := by
  unfold sendMouse
  split
  · exact (s.captureMouse_deeds a).mono (Nat.zero_le 1)
  · next named => exact s.windowMouse_deeds h a roams (met.resolve_left named) hR

theorem routine_key (h : Handle) (e : KeyEvent) : s.Routine (s.key h e).1 := by
  unfold key
  split
  · exact .refl s
  · exact .ofEnv (s.env.routine_feed h _)

theorem button_deeds (h : Handle) (host : HostWindow) (e : ButtonEvent)
    (roams : L.roams) (met : h.isNull = true ∨ s.env.Meets h) (hR : L.rect s.env.primaryMonitor) :
    Deeds L 1 s (s.button h host e).1 := by
  unfold button
  split
  · exact .refl s
  · exact s.sendMouse_deeds h _ roams met hR

theorem moveTo_deeds (h : Handle) (serial : Serial) (a : PointerAction)
    (roams : L.roams) (met : h.isNull = true ∨ s.env.Meets h) (hR : L.rect s.env.primaryMonitor) :
    Deeds L 1 s (s.moveTo h serial a).1 := by
  unfold moveTo
  split
  · have passed := s.routine_passWarpFence serial
    cases hp : s.passWarpFence serial with
    | mk t late =>
        rw [hp] at passed
        cases late with
        | true => exact .routine passed
        | false =>
            refine .after passed (t.sendMouse_deeds h a roams (met.imp_right passed.meets) ?_)
            rw [passed.env.primaryMonitor]
            exact hR
  · exact s.sendMouse_deeds h a roams met hR

theorem enter_deeds (h : Handle) (host : HostWindow) (serial : Serial) (e : CrossingEvent)
    (roams : L.roams) (met : h.isNull = true ∨ s.env.Meets h) (hR : L.rect s.env.primaryMonitor) :
    Deeds L 1 s (s.enter h host serial e).1 := by
  unfold enter
  split
  · exact .refl s
  · exact s.moveTo_deeds h serial _ roams met hR

theorem routine_applyCorrection (h : Handle) (correction : Correction) :
    s.Routine (s.applyCorrection h correction) := by
  cases correction with
  | none => exact .refl s
  | command command => exact s.routine_notify rfl
  | restoreToForeground => exact (s.routine_setForeground h).trans (routine_notify _ rfl)

theorem routine_wmStateChanged (h : Handle) (change : PropertyChange) (correcting : Bool) :
    s.Routine (s.wmStateChanged h change correcting) := by
  unfold wmStateChanged
  split
  · exact .refl s
  split
  · exact .refl s
  next host known =>
  have observed : s.Routine (s.observeWmState h host change).1 := s.routine_editWindow h _
  cases ho : s.observeWmState h host change with
  | mk t telling =>
      rw [ho] at observed
      cases telling with
      | false => exact observed
      | true =>
          dsimp only
          split
          · exact (observed.trans (t.routine_editWindow h _)).trans (routine_applyCorrection _ h _)
          · exact observed

theorem routine_property (h : Handle) (e : PropertyEvent) : s.Routine (s.property h e).1 := by
  unfold property
  split
  · exact s.routine_wmStateChanged h e.change true
  · unfold netStateChanged
    dsimp only
    split
    · exact .refl s
    · exact s.routine_editWindow h _
  · exact .refl s

theorem routine_followPlacement (h : Handle) (info : WindowInfo) (rect : Rect) :
    s.Routine (s.followPlacement h info rect).1 := by
  unfold followPlacement
  dsimp only
  split
  · exact .refl s
  · exact .ofEnv (s.env.routine_placeWindow h rect _)

theorem routine_followGeometry (h : Handle) (info : WindowInfo) (rect : Rect) :
    s.Routine (s.followGeometry h info rect).1 := by
  unfold followGeometry
  split
  · exact s.routine_followPlacement h info rect
  · dsimp only
    split
    · exact (s.routine_editWindow h _).trans (routine_notify _ rfl)
    · exact (s.routine_editWindow h _).trans (routine_followPlacement _ h info rect)

theorem routine_configure (h : Handle) (event : EventRecord) (e : ConfigureEvent) :
    s.Routine (s.configure h event e).1 := by
  unfold configure
  split
  · exact .refl s
  · dsimp only
    split
    · exact (s.routine_editWindow h id).trans (routine_followGeometry _ h _ _)
    · exact s.routine_editWindow h id

theorem routine_requestNetState (h : Handle) (desired : NetState) :
    s.Routine (s.requestNetState h desired) := by
  unfold requestNetState
  split
  · exact .refl s
  · split
    · exact .refl s
    · exact (s.routine_editWindow h _).trans (routine_request _ rfl rfl)

theorem routine_noteConfigureRequest (h : Handle) : s.Routine (s.noteConfigureRequest h) :=
  s.routine_editWindow h _

theorem routine_expose (h : Handle) (host : HostWindow) (e : ExposeEvent) :
    s.Routine (s.expose h host e).1 := by
  unfold expose
  split
  · exact .refl s
  · dsimp only
    split
    · next hd => exact .ofEnv (s.env.routine_deliver rfl rfl hd)
    · exact .refl s

theorem routine_mapped (h : Handle) (host : HostWindow) : s.Routine (s.mapped h host).1 := by
  unfold mapped
  split
  · exact .refl s
  · split
    · exact .refl s
    · dsimp only
      split
      · exact s.routine_focusHost _ 0
      · exact .refl s

theorem routine_destroyed (h : Handle) : s.Routine (s.destroyed h).1 := by
  unfold destroyed
  split
  · exact .refl s
  · exact s.routine_forgetWindow h

theorem routine_reparented (h : Handle) (e : ReparentEvent) : s.Routine (s.reparented h e).1 := by
  unfold reparented
  split
  · exact .refl s
  split
  · exact s.routine_tell rfl rfl
  have moved := s.env.routine_reparent h e.parent
  cases hr : s.env.reparent h e.parent with
  | mk env old =>
      rw [hr] at moved
      cases old with
      | none => exact .ofEnv moved
      | some old =>
          dsimp only
          split
          · exact .ofEnv moved
          · exact (Routine.ofEnv moved).trans (routine_tell _ rfl rfl)

theorem routine_gravity (h : Handle) (e : GravityEvent) : s.Routine (s.gravity h e).1 := by
  unfold gravity
  split
  · exact .refl s
  · dsimp only
    split
    · exact .refl s
    · exact .ofEnv (s.env.routine_placeWindow h _ _)

/-- The handler of any event does nothing but deeds, within the licence. -/
theorem handle_deeds (h : Handle) (event : EventRecord) (roams : L.roams)
    (met : h.isNull = true ∨ s.env.Meets h) (hR : L.rect s.env.primaryMonitor) :
    Deeds L 1 s (s.handle h event).1 := by
  unfold handle
  cases event.kind with
  | key e => exact .routine (s.routine_key h e)
  | button e => exact s.button_deeds h event.window e roams met hR
  | motion e => exact s.moveTo_deeds h event.serial _ roams met hR
  | enter e => exact s.enter_deeds h event.window event.serial e roams met hR
  | leave _ => exact .refl s
  | focusIn e => exact s.focusIn_deeds h event e hR
  | focusOut e => exact (s.focusOut_deeds h event e).mono (Nat.zero_le 1)
  | expose e => exact .routine (s.routine_expose h event.window e)
  | map => exact .routine (s.routine_mapped h event.window)
  | unmap => exact .refl s
  | destroy => exact .routine (s.routine_destroyed h)
  | reparent e => exact .routine (s.routine_reparented h e)
  | configure e =>
      dsimp only
      split
      · exact .refl s
      · exact .routine (s.routine_configure h event e)
  | gravity e => exact .routine (s.routine_gravity h e)
  | property e =>
      dsimp only
      split
      · exact .refl s
      · exact .routine (s.routine_property h e)
  | clientMessage e => exact (s.clientMessage_deeds h event e).mono (Nat.zero_le 1)
  | generic e =>
      cases e with
      | rawMotion raw => exact .routine (s.routine_rawMotion event.serial raw)
      | deviceChanged change => exact .routine (s.routine_deviceChanged change)
      | missing | unknown _ _ => exact .refl s

def receiving (event : EventRecord) : Scene :=
  s.edit fun i => { i with inFlight := some ⟨event.tag, event.serial⟩ }

/-- An event is handled for the window that it concerns, and is not on record afterwards. -/
theorem fst_dispatch {event : EventRecord} {t : Scene}
    (handled : ((s.receiving event).handle (target s.env event) event).1 = t) :
    (s.dispatch event).1 = t.edit fun i => { i with inFlight := s.seat.input.inFlight } :=
  congrArg (fun u : Scene => u.edit fun i => { i with inFlight := s.seat.input.inFlight }) handled

end GuestSeat.Scene
