import GuestSeat.Proofs.Drain.Handover

/-!
The surroundings of a seat with another queue of host events. Whatever a handler asks of them has the
same answer, and whatever it does to them leaves that queue there. Most of these equations hold by
definition; the brackets around their proofs keep `simp` from using them as such, so that a decision
made on the one side is rewritten to the decision made on the other.
-/

namespace GuestSeat

namespace Environment

variable (env : Environment) (q : List EventRecord)

@[simp] theorem windows_withQueue : (env.withQueue q).windows = env.windows := (rfl)

@[simp] theorem map_withQueue : (env.withQueue q).map = env.map := (rfl)

@[simp] theorem virtualScreen_withQueue :
    (env.withQueue q).virtualScreen = env.virtualScreen := (rfl)

@[simp] theorem primaryMonitor_withQueue :
    (env.withQueue q).primaryMonitor = env.primaryMonitor := (rfl)

@[simp] theorem foreground_withQueue : (env.withQueue q).foreground = env.foreground := (rfl)

@[simp] theorem focus_withQueue : (env.withQueue q).focus = env.focus := (rfl)

@[simp] theorem active_withQueue : (env.withQueue q).active = env.active := (rfl)

@[simp] theorem tick_withQueue : (env.withQueue q).tick = env.tick := (rfl)

@[simp] theorem composing_withQueue : (env.withQueue q).composing = env.composing := (rfl)

@[simp] theorem inputFocus_withQueue : (env.withQueue q).inputFocus = env.inputFocus := (rfl)

@[simp] theorem captureSurface_withQueue :
    (env.withQueue q).captureSurface = env.captureSurface := (rfl)

@[simp] theorem captureSupported_withQueue :
    (env.withQueue q).captureSupported = env.captureSupported := (rfl)

@[simp] theorem unresponsive_withQueue : (env.withQueue q).unresponsive = env.unresponsive := (rfl)

@[simp] theorem grabSucceeds_withQueue : (env.withQueue q).grabSucceeds = env.grabSucceeds := (rfl)

@[simp] theorem rawSession_withQueue : (env.withQueue q).rawSession = env.rawSession := (rfl)

@[simp] theorem info?_withQueue (h : Handle) : (env.withQueue q).info? h = env.info? h := (rfl)

@[simp] theorem host?_withQueue (h : Handle) : (env.withQueue q).host? h = env.host? h := (rfl)

@[simp] theorem lookup?_withQueue (w : HostWindow) :
    (env.withQueue q).lookup? w = env.lookup? w := (rfl)

@[simp] theorem parent_withQueue (h : Handle) : (env.withQueue q).parent h = env.parent h := (rfl)

@[simp] theorem netState_withQueue (w : HostWindow) :
    (env.withQueue q).netState w = env.netState w := (rfl)

theorem rootWithin_withQueue (steps : Nat) (h : Handle) :
    (env.withQueue q).rootWithin steps h = env.rootWithin steps h := by
  induction steps generalizing h with
  | zero => rfl
  | succ steps ih =>
      unfold rootWithin
      rw [info?_withQueue]
      cases env.info? h with
      | none => rfl
      | some info =>
          dsimp only
          rw [ih]

@[simp] theorem ancestorRoot_withQueue (h : Handle) :
    (env.withQueue q).ancestorRoot h = env.ancestorRoot h :=
  env.rootWithin_withQueue q _ h

theorem isAmong_withQueue (ancestor : Handle) (steps : Nat) (h : Handle) :
    (env.withQueue q).isAmong ancestor steps h = env.isAmong ancestor steps h := by
  induction steps generalizing h with
  | zero => rfl
  | succ steps ih =>
      unfold isAmong
      rw [ih, parent_withQueue]

@[simp] theorem isChild_withQueue (ancestor h : Handle) :
    (env.withQueue q).isChild ancestor h = env.isChild ancestor h :=
  env.isAmong_withQueue q ancestor _ _

@[simp] theorem feed_withQueue (h : Handle) (input : GuestInput) :
    (env.withQueue q).feed h input = (env.feed h input).withQueue q := (rfl)

@[simp] theorem resend_withQueue (event : EventRecord) :
    (env.withQueue q).resend event = (env.resend event).withQueue q := (rfl)

@[simp] theorem resetGuestClip_withQueue :
    (env.withQueue q).resetGuestClip = env.resetGuestClip.withQueue q := (rfl)

@[simp] theorem createCaptureWindow_withQueue : (env.withQueue q).createCaptureWindow =
    env.createCaptureWindow.map (withQueue · q) id := (rfl)

@[simp] theorem destroyWindow_withQueue (h : Handle) :
    (env.withQueue q).destroyWindow h = (env.destroyWindow h).withQueue q := by
  by_cases known : env.windows.contains h
  · simp only [destroyWindow, windows_withQueue, if_pos known]
    rfl
  · simp only [destroyWindow, windows_withQueue, if_neg known]

@[simp] theorem useCaptureSurface_withQueue : (env.withQueue q).useCaptureSurface =
    env.useCaptureSurface.map (withQueue · q) id := by
  unfold useCaptureSurface
  rw [captureSupported_withQueue, captureSurface_withQueue]
  split
  · cases env.captureSurface <;> rfl
  · rfl

@[simp] theorem deliver_withQueue (h : Handle) (message : GuestMessage) (sync : Bool) :
    (env.withQueue q).deliver h message sync =
      (env.deliver h message sync).map (withQueue · q) := by
  by_cases lost : h.isNull || !env.windows.contains h
  · simp only [deliver, windows_withQueue, if_pos lost]
    rfl
  · simp only [deliver, windows_withQueue, if_neg lost]
    rfl

@[simp] theorem post_withQueue (h : Handle) (message : GuestMessage) :
    (env.withQueue q).post h message = (env.post h message).map (withQueue · q) :=
  env.deliver_withQueue q h message false

@[simp] theorem tell_withQueue (h : Handle) (message : GuestMessage) :
    (env.withQueue q).tell h message = (env.tell h message).withQueue q := by
  unfold tell
  rw [post_withQueue]
  cases env.post h message <;> rfl

@[simp] theorem send_withQueue (h : Handle) (message : GuestMessage) :
    (env.withQueue q).send h message = (env.send h message).map (withQueue · q) id := by
  unfold send
  rw [deliver_withQueue]
  cases env.deliver h message true <;> rfl

@[simp] theorem sendWithin_withQueue (h : Handle) (message : GuestMessage) (timeout : Nat) :
    (env.withQueue q).sendWithin h message timeout =
      (env.sendWithin h message timeout).map (withQueue · q) id := by
  unfold sendWithin
  rw [unresponsive_withQueue, send_withQueue]
  split <;> rfl

@[simp] theorem reparent_withQueue (h : Handle) (w : HostWindow) :
    (env.withQueue q).reparent h w = (env.reparent h w).map (withQueue · q) id := by
  unfold reparent
  rw [lookup?_withQueue, info?_withQueue]
  generalize (if w == root then some desktop else env.lookup? w) = target
  cases target with
  | none => rfl
  | some target => cases env.info? h <;> rfl

end Environment

end GuestSeat
