import GuestSeat.Proofs.Drain.Surroundings

/-!
Handlers leave the queue of host events alone: with other events in it they do the same and leave those
there. So it does not matter when the events of a drain are taken out. Of every operation on the way
from an event to its effects it is said that it commutes with a change of the queue.
-/

namespace GuestSeat

namespace Scene

open Environment (desktop)

variable (s : Scene) (q : List EventRecord)

@[simp] theorem seat_withQueue : (s.withQueue q).seat = s.seat := (rfl)

@[simp] theorem env_withQueue : (s.withQueue q).env = s.env.withQueue q := (rfl)

@[simp] theorem mk_withQueue (seat : Seat) (env : Environment) :
    Scene.mk seat (env.withQueue q) = (Scene.mk seat env).withQueue q := (rfl)

@[simp] theorem edit_withQueue (f : InputState → InputState) :
    (s.withQueue q).edit f = (s.edit f).withQueue q := (rfl)

@[simp] theorem editRaw_withQueue (f : Accumulator Float → Accumulator Float) :
    (s.withQueue q).editRaw f = (s.editRaw f).withQueue q := (rfl)

@[simp] theorem editWindow_withQueue (h : Handle) (f : ManagedState → ManagedState) :
    (s.withQueue q).editWindow h f = (s.editWindow h f).withQueue q := (rfl)

@[simp] theorem window_withQueue (h : Handle) : (s.withQueue q).window h = s.window h := (rfl)

@[simp] theorem onDesktopThread_withQueue :
    (s.withQueue q).onDesktopThread = s.onDesktopThread := (rfl)

@[simp] theorem armWarpFence_withQueue :
    (s.withQueue q).armWarpFence = s.armWarpFence.withQueue q := (rfl)

/-- A change of the surroundings that commutes with one of the queue. -/
theorem act_withQueue {f : Environment → Environment}
    (blind : ∀ env : Environment, f (env.withQueue q) = (f env).withQueue q) :
    (s.withQueue q).act f = (s.act f).withQueue q :=
  congrArg (Scene.mk s.seat) (blind s.env)

@[simp] theorem request_withQueue (r : HostRequest) :
    (s.withQueue q).request r = (s.request r).withQueue q := (rfl)

@[simp] theorem tell_withQueue (h : Handle) (message : GuestMessage) :
    (s.withQueue q).tell h message = (s.tell h message).withQueue q :=
  s.act_withQueue q fun env => env.tell_withQueue q h message

@[simp] theorem notify_withQueue (h : Handle) (message : GuestMessage) :
    (s.withQueue q).notify h message = (s.notify h message).withQueue q :=
  s.act_withQueue q fun env => congrArg Prod.fst (env.send_withQueue q h message)

@[simp] theorem showCursor_withQueue (w : HostWindow) (cursor : Option CursorId) :
    (s.withQueue q).showCursor w cursor = (s.showCursor w cursor).withQueue q := by
  cases cursor <;> rfl

@[simp] theorem syncCursor_withQueue (w : HostWindow) :
    (s.withQueue q).syncCursor w = (s.syncCursor w).withQueue q :=
  s.showCursor_withQueue q w _

@[simp] theorem enterWindow_withQueue (h : Handle) :
    (s.withQueue q).enterWindow h = (s.enterWindow h).map (withQueue · q) id := (rfl)

@[simp] theorem enableRaw_withQueue :
    (s.withQueue q).enableRaw = s.enableRaw.map (withQueue · q) id := by
  unfold enableRaw
  dsimp only
  rw [seat_withQueue, request_withQueue, env_withQueue, Environment.rawSession_withQueue]
  cases s.seat.input.raw.status with
  | enabled | unavailable => rfl
  | unknown | disabled => cases (s.request .enableRawMotion).env.rawSession <;> rfl

@[simp] theorem disableRaw_withQueue : (s.withQueue q).disableRaw = s.disableRaw.withQueue q := by
  by_cases on : s.seat.input.raw.isEnabled <;> simp [disableRaw, on]

@[simp] theorem passWarpFence_withQueue (serial : Serial) : (s.withQueue q).passWarpFence serial =
    (s.passWarpFence serial).map (withQueue · q) id := (rfl)

@[simp] theorem accumulateRaw_withQueue (raw : RawMotionEvent Float) :
    (s.withQueue q).accumulateRaw raw = (s.accumulateRaw raw).map (withQueue · q) id := by
  cases outcome : (s.seat.input.raw.accumulate raw s.env.virtualScreen).2 <;>
    simp [accumulateRaw, outcome, act]

@[simp] theorem rawMotion_withQueue (serial : Serial) (raw : RawMotionEvent Float) :
    (s.withQueue q).rawMotion serial raw = (s.rawMotion serial raw).map (withQueue · q) id := by
  unfold rawMotion
  rw [seat_withQueue, passWarpFence_withQueue, accumulateRaw_withQueue]
  split
  · rcases s.passWarpFence serial with ⟨t, late⟩
    cases late with
    | true => rfl
    | false => exact t.accumulateRaw_withQueue q raw
  · rfl

@[simp] theorem deviceChanged_withQueue (change : DeviceChangeEvent Float) :
    (s.withQueue q).deviceChanged change = (s.deviceChanged change).map (withQueue · q) id := (rfl)

@[simp] theorem useSurface_withQueue :
    (s.withQueue q).useSurface = s.useSurface.map (withQueue · q) id := by
  cases known : s.seat.input.captureSurface <;> simp [useSurface, known]

@[simp] theorem reportOwner_withQueue (source target : Handle) :
    (s.withQueue q).reportOwner source target = (s.reportOwner source target).withQueue q := by
  cases known : s.seat.registry <;> simp [reportOwner, known]

@[simp] theorem queryOwner_withQueue :
    (s.withQueue q).queryOwner = s.queryOwner.map (withQueue · q) id := by
  unfold queryOwner
  rw [seat_withQueue, env_withQueue, Environment.sendWithin_withQueue]
  cases s.seat.registry with
  | some registry => rfl
  | none =>
      rcases s.env.sendWithin desktop .queryClipOwner s.seat.config.focus.probeTimeout with
        ⟨env, answer⟩
      cases answer <;> rfl

@[simp] theorem dropClip_withQueue : (s.withQueue q).dropClip = s.dropClip.withQueue q := (rfl)

@[simp] theorem showSurface_withQueue (surface : HostWindow) (rect : Rect) :
    (s.withQueue q).showSurface surface rect = (s.showSurface surface rect).withQueue q := (rfl)

@[simp] theorem destroyWindow_withQueue (h : Handle) :
    ((s.withQueue q).act fun env => env.destroyWindow h) =
      (s.act fun env => env.destroyWindow h).withQueue q :=
  s.act_withQueue q fun env => env.destroyWindow_withQueue q h

@[simp] theorem abandonGrab_withQueue (surface : HostWindow) (capture : Handle) :
    (s.withQueue q).abandonGrab surface capture = (s.abandonGrab surface capture).withQueue q := by
  cases known : s.seat.input.clip <;> simp [abandonGrab, known]

@[simp] theorem establish_withQueue (surface : HostWindow) (region : ClipRegion) :
    (s.withQueue q).establish surface region = (s.establish surface region).withQueue q := by
  by_cases isFirst : s.seat.input.isClipping <;> simp [establish, isFirst]

@[simp] theorem confine_withQueue (surface : HostWindow) (region : ClipRegion) :
    (s.withQueue q).confine surface region = (s.confine surface region).map (withQueue · q) id := by
  have answered : ∀ t : Scene, (if (t.withQueue q).env.grabSucceeds then
      ((t.withQueue q).establish surface region, true)
      else ((t.withQueue q).abandonGrab surface region.captureWindow, false)) =
      (if t.env.grabSucceeds then (t.establish surface region, true)
      else (t.abandonGrab surface region.captureWindow, false)).map (withQueue · q) id := by
    intro t
    by_cases granted : t.env.grabSucceeds <;> simp [granted]
  unfold confine
  dsimp only
  rw [seat_withQueue, showSurface_withQueue, armWarpFence_withQueue]
  split
  · rw [request_withQueue]
    exact answered _
  · rw [request_withQueue]
    exact answered _

@[simp] theorem beginClip_withQueue (surface : HostWindow) (rect : Rect) (kind : ClipKind) :
    (s.withQueue q).beginClip surface rect kind =
      (s.beginClip surface rect kind).map (withQueue · q) id := by
  unfold beginClip
  rw [env_withQueue, Environment.createCaptureWindow_withQueue]
  rcases s.env.createCaptureWindow with ⟨env, capture⟩
  dsimp only [Prod.map_apply]
  rw [seat_withQueue, mk_withQueue, enableRaw_withQueue]
  rcases enableRaw { s with env } with ⟨t, granted⟩
  cases granted with
  | false =>
      have opened := t.act_withQueue q (f := fun env => (env.destroyWindow capture).resetGuestClip)
        fun env => congrArg Environment.resetGuestClip (env.destroyWindow_withQueue q capture)
      exact congrArg (·, true) opened
  | true => simp

@[simp] theorem grab_withQueue (rect : Rect) (kind : ClipKind) :
    (s.withQueue q).grab rect kind = (s.grab rect kind).map (withQueue · q) id := by
  unfold grab
  rw [useSurface_withQueue, onDesktopThread_withQueue, seat_withQueue]
  split
  · rfl
  split
  · rfl
  rcases s.useSurface with ⟨t, surface⟩
  cases surface with
  | none => rfl
  | some surface => cases known : t.seat.input.clip <;> simp [known]

@[simp] theorem release_withQueue (report : Bool) :
    (s.withQueue q).release report = (s.release report).withQueue q := by
  unfold release
  rw [seat_withQueue, dropClip_withQueue, request_withQueue]
  cases s.seat.input.clip with
  | none => rfl
  | some region =>
      generalize s.dropClip.request .ungrabPointer = t
      dsimp only
      rw [seat_withQueue]
      cases t.seat.input.captureSurface <;> cases report <;> simp

@[simp] theorem resetClipping_withQueue :
    (s.withQueue q).resetClipping = s.resetClipping.withQueue q := by
  have opened : ∀ t : Scene, (t.withQueue q).act Environment.resetGuestClip =
      (t.act Environment.resetGuestClip).withQueue q :=
    fun t => t.act_withQueue q fun env => env.resetGuestClip_withQueue q
  by_cases clipping : s.seat.input.isClipping <;> simp [resetClipping, clipping, opened]

@[simp] theorem markReset_withQueue : (s.withQueue q).markReset = s.markReset.withQueue q := (rfl)

@[simp] theorem fillsOutput_withQueue (h : Handle) :
    (s.withQueue q).fillsOutput h = s.fillsOutput h := (rfl)

@[simp] theorem clipToOutput_withQueue :
    (s.withQueue q).clipToOutput = s.clipToOutput.map (withQueue · q) id := by
  unfold clipToOutput
  rw [env_withQueue, seat_withQueue, grab_withQueue]
  dsimp only
  rw [Environment.primaryMonitor_withQueue, Environment.virtualScreen_withQueue]
  split <;> rfl

@[simp] theorem clipFullscreen_withQueue (h : Handle) (reset : Bool) :
    (s.withQueue q).clipFullscreen h reset =
      (s.clipFullscreen h reset).map (withQueue · q) id := by
  unfold clipFullscreen
  rw [fillsOutput_withQueue, env_withQueue, seat_withQueue, queryOwner_withQueue,
    clipToOutput_withQueue, Environment.tick_withQueue]
  split
  · rfl
  split
  · rfl
  split
  · rfl
  rcases s.queryOwner with ⟨t, owner⟩
  by_cases free : owner.isNull <;> simp [free]

@[simp] theorem canGrab_withQueue : (s.withQueue q).canGrab = s.canGrab.map (withQueue · q) id := by
  unfold canGrab
  rw [seat_withQueue]
  split <;> rfl

@[simp] theorem setForeground_withQueue (h : Handle) :
    (s.withQueue q).setForeground h = (s.setForeground h).withQueue q := (rfl)

@[simp] theorem focusHost_withQueue (info : WindowInfo) (time : Timestamp) :
    (s.withQueue q).focusHost info time = (s.focusHost info time).withQueue q := by
  unfold focusHost
  cases info.host with
  | none => rfl
  | some host => cases info.embedded <;> rfl

@[simp] theorem canActivate_withQueue (env : Environment) (h : Handle) :
    canActivate (env.withQueue q) h = canActivate env h := (rfl)

@[simp] theorem probeActivation_withQueue (h : Handle) (hit : HitTest) :
    (s.withQueue q).probeActivation h hit =
      (s.probeActivation h hit).map (withQueue · q) id := by
  unfold probeActivation
  rw [env_withQueue, seat_withQueue, Environment.ancestorRoot_withQueue]
  dsimp only
  rw [Environment.sendWithin_withQueue]
  rcases s.env.sendWithin h _ s.seat.config.focus.probeTimeout with ⟨env, answer⟩
  cases answer <;> rfl

@[simp] theorem takesActivation_withQueue (h : Handle) :
    (s.withQueue q).takesActivation h = (s.takesActivation h).map (withQueue · q) id := by
  unfold takesActivation
  rw [probeActivation_withQueue]
  rfl

@[simp] theorem agreesToActivate_withQueue (h : Handle) :
    (s.withQueue q).agreesToActivate h = (s.agreesToActivate h).map (withQueue · q) id := by
  by_cases able : canActivate s.env h <;> simp [agreesToActivate, able]

@[simp] theorem retryAfterRelease_withQueue (holder : Handle) (event : EventRecord) :
    (s.withQueue q).retryAfterRelease holder event =
      (s.retryAfterRelease holder event).withQueue q := by
  have resent : ∀ t : Scene, ((t.withQueue q).act fun env => env.resend event) =
      (t.act fun env => env.resend event).withQueue q :=
    fun t => t.act_withQueue q fun env => env.resend_withQueue q event
  by_cases nobody : holder.isNull <;> simp [retryAfterRelease, nobody, resent]

@[simp] theorem giveFocus_withQueue (event : EventRecord) (h : Handle) (time : Timestamp) :
    (s.withQueue q).giveFocus event h time = (s.giveFocus event h time).withQueue q := by
  unfold giveFocus
  rw [canGrab_withQueue]
  rcases s.canGrab with ⟨t, able⟩
  cases able with
  | false => simp
  | true =>
      dsimp only [Prod.map_apply, id]
      rw [setForeground_withQueue, env_withQueue, Environment.focus_withQueue,
        Environment.active_withQueue]
      generalize (if (t.setForeground h).env.focus.isNull then _ else _ : Handle) = focused
      by_cases nowhere : focused.isNull
      · rw [if_pos nowhere, if_pos nowhere]
      · rw [if_neg nowhere, if_neg nowhere]
        cases known : (t.setForeground h).env.info? ((t.setForeground h).env.ancestorRoot focused) <;>
          simp [known]

@[simp] theorem fallbacks_withQueue (refused : Handle) :
    (s.withQueue q).fallbacks refused = s.fallbacks refused := by
  simp [fallbacks]

theorem activateFirst_withQueue (event : EventRecord) (time : Timestamp) (candidates : List Handle) :
    (s.withQueue q).activateFirst event time candidates =
      (s.activateFirst event time candidates).withQueue q := by
  induction candidates generalizing s with
  | nil => rfl
  | cons h rest ih =>
      unfold activateFirst
      rw [agreesToActivate_withQueue]
      rcases s.agreesToActivate h with ⟨t, agreed⟩
      cases agreed with
      | true => exact t.giveFocus_withQueue q event h time
      | false => exact ih t

@[simp] theorem activateFallback_withQueue (event : EventRecord) (refused : Handle)
    (time : Timestamp) : (s.withQueue q).activateFallback event refused time =
      (s.activateFallback event refused time).withQueue q := by
  unfold activateFallback
  rw [fallbacks_withQueue, activateFirst_withQueue]

@[simp] theorem askForClip_withQueue : (s.withQueue q).askForClip = s.askForClip.withQueue q := by
  have asked : ((s.withQueue q).act fun env =>
      (env.sendWithin env.foreground .clipRequest s.seat.config.focus.clipRequestTimeout).1) =
      (s.act fun env =>
        (env.sendWithin env.foreground .clipRequest s.seat.config.focus.clipRequestTimeout).1).withQueue
          q :=
    s.act_withQueue q fun env => congrArg Prod.fst (env.sendWithin_withQueue q _ _ _)
  by_cases nobody : s.env.foreground.isNull <;> simp [askForClip, nobody, asked]

@[simp] theorem activateFocused_withQueue (h : Handle) (event : EventRecord) :
    (s.withQueue q).activateFocused h event = (s.activateFocused h event).withQueue q := by
  unfold activateFocused
  rw [seat_withQueue, env_withQueue, Environment.foreground_withQueue, clipFullscreen_withQueue,
    agreesToActivate_withQueue]
  split
  · split <;> rfl
  · rcases s.agreesToActivate h with ⟨t, agreed⟩
    cases agreed <;> simp

@[simp] theorem focusIn_withQueue (h : Handle) (event : EventRecord) (focus : FocusEvent) :
    (s.withQueue q).focusIn h event focus = (s.focusIn h event focus).map (withQueue · q) id := by
  unfold focusIn
  rw [edit_withQueue, canGrab_withQueue]
  split
  · rfl
  · rcases canGrab _ with ⟨t, able⟩
    cases able with
    | false => simp
    | true => by_cases effect : focus.mode.isGrabEffect <;> simp [effect]

@[simp] theorem focusTarget?_withQueue (env : Environment) (h : Handle) :
    focusTarget? (env.withQueue q) h = focusTarget? env h := by
  have lookup : (env.withQueue q).lookup? = env.lookup? := (rfl)
  have root : (env.withQueue q).ancestorRoot = env.ancestorRoot :=
    funext fun k => env.ancestorRoot_withQueue q k
  unfold focusTarget?
  rw [lookup, root, Environment.inputFocus_withQueue]

@[simp] theorem handOver_withQueue (h : Handle) :
    (s.withQueue q).handOver h = (s.handOver h).withQueue q := by
  have able : canActivate (s.env.withQueue q) = canActivate s.env := (rfl)
  unfold handOver
  rw [env_withQueue, focusTarget?_withQueue, able, Environment.foreground_withQueue]
  cases (focusTarget? s.env h).filter (canActivate s.env) with
  | some top => rfl
  | none =>
      dsimp only
      split <;> rfl

@[simp] theorem loseFocus_withQueue (h : Handle) :
    (s.withQueue q).loseFocus h = (s.loseFocus h).withQueue q := by
  unfold loseFocus
  rw [env_withQueue, Environment.composing_withQueue, edit_withQueue]
  dsimp only
  rw [resetClipping_withQueue, notify_withQueue, handOver_withQueue, seat_withQueue, env_withQueue,
    Environment.foreground_withQueue]
  split
  · rfl
  split
  · split <;> rfl
  · split <;> rfl

@[simp] theorem captureLost_withQueue (h : Handle) (host : HostWindow) :
    (s.withQueue q).captureLost h host = (s.captureLost h host).withQueue q := by
  unfold captureLost
  rw [seat_withQueue, resetClipping_withQueue, markReset_withQueue]
  split <;> rfl

@[simp] theorem focusOut_withQueue (h : Handle) (event : EventRecord) (focus : FocusEvent) :
    (s.withQueue q).focusOut h event focus = (s.focusOut h event focus).map (withQueue · q) id := by
  have held : (if (h == s.env.foreground) = true then (s.release true).withQueue q else s.withQueue q) =
      (if (h == s.env.foreground) = true then s.release true else s).withQueue q := by
    split <;> rfl
  unfold focusOut
  rw [captureLost_withQueue, env_withQueue, Environment.foreground_withQueue, release_withQueue, held]
  dsimp only
  rw [loseFocus_withQueue]
  split
  · rfl
  split
  · rfl
  split <;> rfl

@[simp] theorem desktopTarget_withQueue : (s.withQueue q).desktopTarget = s.desktopTarget := (rfl)

@[simp] theorem takeFocus_withQueue (h : Handle) (event : EventRecord) (time : Timestamp) :
    (s.withQueue q).takeFocus h event time = (s.takeFocus h event time).withQueue q := by
  unfold takeFocus
  rw [agreesToActivate_withQueue]
  rcases s.agreesToActivate h with ⟨t, agreed⟩
  cases agreed with
  | true => simp
  | false => by_cases own : h = desktop <;> simp [own]

@[simp] theorem closeAfterProbe_withQueue (h : Handle) :
    (s.withQueue q).closeAfterProbe h = (s.closeAfterProbe h).withQueue q := by
  unfold closeAfterProbe
  dsimp only
  rw [env_withQueue, Environment.active_withQueue, tell_withQueue, probeActivation_withQueue]
  split
  · rfl
  · rcases s.probeActivation h .close with ⟨t, answer⟩
    have told :
        ((t.withQueue q).act fun env => { env with active := h }).tell h (.sysCommand .close) =
          ((t.act fun env => { env with active := h }).tell h (.sysCommand .close)).withQueue q :=
      tell_withQueue (t.act fun env => { env with active := h }) q h _
    rcases answer with _ | _ | _ | _ | _ <;> simp [told]

@[simp] theorem deleteWindow_withQueue (h : Handle) :
    (s.withQueue q).deleteWindow h = (s.deleteWindow h).withQueue q := by
  unfold deleteWindow
  rw [env_withQueue, Environment.info?_withQueue, notify_withQueue, closeAfterProbe_withQueue]
  split
  · rfl
  · cases s.env.info? h with
    | none => rfl
    | some info =>
        dsimp only
        split <;> rfl

@[simp] theorem wmProtocol_withQueue (h : Handle) (event : EventRecord) (protocol : WmProtocol)
    (time : Timestamp) (data : DataWords) : (s.withQueue q).wmProtocol h event protocol time data =
      (s.wmProtocol h event protocol time data).map (withQueue · q) id := by
  cases protocol <;> simp [wmProtocol]

@[simp] theorem embedderMessage_withQueue (h : Handle) (message : EmbedMessage) :
    (s.withQueue q).embedderMessage h message =
      (s.embedderMessage h message).map (withQueue · q) id := by
  cases message <;> simp [embedderMessage]

@[simp] theorem clientMessage_withQueue (h : Handle) (event : EventRecord) (e : ClientMessageEvent) :
    (s.withQueue q).clientMessage h event e =
      (s.clientMessage h event e).map (withQueue · q) id := by
  unfold clientMessage
  split
  · rfl
  · cases e.message <;> simp

@[simp] theorem feedMouse_withQueue (h : Handle) (p : Point) (a : PointerAction) :
    (s.withQueue q).feedMouse h p a = (s.feedMouse h p a).withQueue q := (rfl)

@[simp] theorem captureMouse_withQueue (a : PointerAction) :
    (s.withQueue q).captureMouse a = (s.captureMouse a).map (withQueue · q) id := by
  unfold captureMouse
  rw [seat_withQueue]
  cases s.seat.input.clip with
  | none => rfl
  | some region =>
      dsimp only
      rw [enterWindow_withQueue]
      rcases s.enterWindow region.captureWindow with ⟨t, renewed⟩
      split
      · cases renewed <;> simp
      · rfl

@[simp] theorem pressAutoClip_withQueue (h : Handle) (flags : MouseFlags) :
    (s.withQueue q).pressAutoClip h flags = (s.pressAutoClip h flags).withQueue q := by
  unfold pressAutoClip
  dsimp only
  rw [env_withQueue, Environment.ancestorRoot_withQueue, Environment.foreground_withQueue,
    clipFullscreen_withQueue]
  split
  · split <;> rfl
  · rfl

@[simp] theorem windowMouse_withQueue (h : Handle) (a : PointerAction) :
    (s.withQueue q).windowMouse h a = (s.windowMouse h a).map (withQueue · q) id := by
  have place : ∀ info : WindowInfo, windowPlace (s.env.withQueue q) info a.host a.position =
      windowPlace s.env info a.host a.position := fun _ => rfl
  unfold windowMouse
  rw [env_withQueue, Environment.info?_withQueue]
  cases s.env.info? h with
  | none => rfl
  | some info =>
      dsimp only
      rw [enterWindow_withQueue, place]
      rcases s.enterWindow h with ⟨t, renewed⟩
      cases renewed <;> cases info.host <;> simp

@[simp] theorem sendMouse_withQueue (h : Handle) (a : PointerAction) :
    (s.withQueue q).sendMouse h a = (s.sendMouse h a).map (withQueue · q) id := by
  by_cases null : h.isNull <;> simp [sendMouse, null]

@[simp] theorem key_withQueue (h : Handle) (e : KeyEvent) :
    (s.withQueue q).key h e = (s.key h e).map (withQueue · q) id := by
  unfold key
  split <;> rfl

@[simp] theorem button_withQueue (h : Handle) (host : HostWindow) (e : ButtonEvent) :
    (s.withQueue q).button h host e = (s.button h host e).map (withQueue · q) id := by
  cases known : buttonInput e.button e.pressed <;> simp [button, known]

@[simp] theorem moveTo_withQueue (h : Handle) (serial : Serial) (a : PointerAction) :
    (s.withQueue q).moveTo h serial a = (s.moveTo h serial a).map (withQueue · q) id := by
  unfold moveTo
  rw [passWarpFence_withQueue, sendMouse_withQueue]
  split
  · rcases s.passWarpFence serial with ⟨t, late⟩
    cases late <;> simp
  · rfl

@[simp] theorem motion_withQueue (h : Handle) (host : HostWindow) (serial : Serial)
    (e : MotionEvent) : (s.withQueue q).motion h host serial e =
      (s.motion h host serial e).map (withQueue · q) id :=
  s.moveTo_withQueue q h serial _

@[simp] theorem enter_withQueue (h : Handle) (host : HostWindow) (serial : Serial)
    (e : CrossingEvent) : (s.withQueue q).enter h host serial e =
      (s.enter h host serial e).map (withQueue · q) id := by
  by_cases passing : e.detail = .virtual <;> simp [enter, passing]

@[simp] theorem applyCorrection_withQueue (h : Handle) (correction : Correction) :
    (s.withQueue q).applyCorrection h correction =
      (s.applyCorrection h correction).withQueue q := by
  cases correction with
  | none => rfl
  | command command => exact s.notify_withQueue q h _
  | restoreToForeground => exact notify_withQueue (s.act fun env => env.setForeground h) q h _

@[simp] theorem observeWmState_withQueue (h : Handle) (host : HostWindow) (change : PropertyChange) :
    (s.withQueue q).observeWmState h host change =
      (s.observeWmState h host change).map (withQueue · q) id := (rfl)

@[simp] theorem wmStateChanged_withQueue (h : Handle) (change : PropertyChange) (correcting : Bool) :
    (s.withQueue q).wmStateChanged h change correcting =
      (s.wmStateChanged h change correcting).withQueue q := by
  unfold wmStateChanged
  rw [env_withQueue, Environment.info?_withQueue]
  cases s.env.info? h with
  | none => rfl
  | some info =>
      dsimp only
      cases info.host with
      | none => rfl
      | some host =>
          dsimp only
          rw [observeWmState_withQueue]
          rcases s.observeWmState h host change with ⟨t, telling⟩
          cases telling with
          | false => rfl
          | true =>
              by_cases corrected : correcting && info.managed && info.mapped <;> simp [corrected]

@[simp] theorem netStateChanged_withQueue (h : Handle) :
    (s.withQueue q).netStateChanged h = (s.netStateChanged h).withQueue q := by
  unfold netStateChanged
  rw [env_withQueue, Environment.host?_withQueue]
  cases s.env.host? h <;> rfl

@[simp] theorem property_withQueue (h : Handle) (e : PropertyEvent) :
    (s.withQueue q).property h e = (s.property h e).map (withQueue · q) id := by
  unfold property
  cases e.atom <;> simp

@[simp] theorem followPlacement_withQueue (h : Handle) (info : WindowInfo) (rect : Rect) :
    (s.withQueue q).followPlacement h info rect =
      (s.followPlacement h info rect).map (withQueue · q) id := by
  unfold followPlacement
  dsimp only
  split <;> rfl

@[simp] theorem followGeometry_withQueue (h : Handle) (info : WindowInfo) (rect : Rect) :
    (s.withQueue q).followGeometry h info rect =
      (s.followGeometry h info rect).map (withQueue · q) id := by
  have covers : coversOutput (s.env.withQueue q) = coversOutput s.env := (rfl)
  unfold followGeometry
  rw [env_withQueue, covers]
  cases info.host.filter fun _ => info.style.hasCaption || !coversOutput s.env info.windowRect with
  | none => simp
  | some host =>
      dsimp only
      rw [Environment.netState_withQueue]
      cases maximization? info.style (s.env.netState host) <;> simp

@[simp] theorem configure_withQueue (h : Handle) (event : EventRecord) (e : ConfigureEvent) :
    (s.withQueue q).configure h event e = (s.configure h event e).map (withQueue · q) id := by
  have rect : ∀ env : Environment,
      configuredRect (env.withQueue q) h event e = configuredRect env h event e := fun _ => rfl
  unfold configure
  rw [env_withQueue, Environment.info?_withQueue]
  cases s.env.info? h with
  | none => rfl
  | some info =>
      dsimp only
      rw [editWindow_withQueue, window_withQueue, env_withQueue, rect, followGeometry_withQueue]
      split <;> rfl

@[simp] theorem expose_withQueue (h : Handle) (host : HostWindow) (e : ExposeEvent) :
    (s.withQueue q).expose h host e = (s.expose h host e).map (withQueue · q) id := by
  unfold expose
  rw [env_withQueue, Environment.map_withQueue]
  dsimp only
  rw [Environment.post_withQueue]
  split
  · rfl
  · cases s.env.post h _ <;> rfl

@[simp] theorem mapped_withQueue (h : Handle) (host : HostWindow) :
    (s.withQueue q).mapped h host = (s.mapped h host).map (withQueue · q) id := by
  unfold mapped
  rw [seat_withQueue, env_withQueue, Environment.info?_withQueue]
  split
  · rfl
  · cases s.env.info? h with
    | none => rfl
    | some info =>
        dsimp only
        rw [Environment.focus_withQueue, Environment.isChild_withQueue, focusHost_withQueue]
        split <;> rfl

@[simp] theorem destroyed_withQueue (h : Handle) :
    (s.withQueue q).destroyed h = (s.destroyed h).map (withQueue · q) id := by
  unfold destroyed
  split <;> rfl

@[simp] theorem reparented_withQueue (h : Handle) (e : ReparentEvent) :
    (s.withQueue q).reparented h e = (s.reparented h e).map (withQueue · q) id := by
  unfold reparented
  rw [env_withQueue, Environment.info?_withQueue, tell_withQueue, Environment.reparent_withQueue]
  cases (s.env.info? h).filter fun info => !h.isNull && info.embedded with
  | none => rfl
  | some info =>
      dsimp only
      split
      · rfl
      · rcases s.env.reparent h e.parent with ⟨env, parent⟩
        cases parent with
        | none => rfl
        | some old => by_cases free : old.isNull || old == desktop <;> simp [free]

@[simp] theorem gravity_withQueue (h : Handle) (e : GravityEvent) :
    (s.withQueue q).gravity h e = (s.gravity h e).map (withQueue · q) id := by
  unfold gravity
  rw [env_withQueue, Environment.info?_withQueue, Environment.map_withQueue]
  cases (s.env.info? h).filter fun info => !h.isNull && info.foreign with
  | none => rfl
  | some info =>
      dsimp only
      split <;> rfl

theorem handle_withQueue (h : Handle) (event : EventRecord) :
    (s.withQueue q).handle h event = (s.handle h event).map (withQueue · q) id := by
  unfold handle
  cases event.kind with
  | generic extension => cases extension <;> simp
  | configure e => by_cases null : h.isNull <;> simp [null]
  | property e => by_cases null : h.isNull <;> simp [null]
  | _ => simp

theorem target_withQueue (env : Environment) (event : EventRecord) :
    target (env.withQueue q) event = target env event := (rfl)

/-- To handle an event is to do the same whatever else is in the queue. -/
theorem dispatch_withQueue (event : EventRecord) :
    (s.withQueue q).dispatch event = (s.dispatch event).map (withQueue · q) id := by
  unfold dispatch
  dsimp only
  rw [edit_withQueue, env_withQueue, target_withQueue, handle_withQueue]
  rfl

end Scene

end GuestSeat
