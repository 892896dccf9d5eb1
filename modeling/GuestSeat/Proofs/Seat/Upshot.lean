import GuestSeat.Proofs.Focus.Offers

/-!
What one event comes to, in four cases: errands; errands and then one command to the window that the event
concerns; errands and then one placement of it; or the event is put off, with nothing done about it. The
windows that may come to the foreground on the way are listed, each with its reason.
-/

namespace GuestSeat

namespace Flags

variable {table : FlagTable} {a b c : Flags table}

theorem contains_left (both : a.contains (b ||| c) = true) : a.contains b = true := by
  have all : a.bits &&& (b.bits ||| c.bits) = b.bits ||| c.bits := beq_iff_eq.mp both
  refine beq_iff_eq.mpr (UInt32.toBitVec_inj.mp ?_)
  have bits := UInt32.toBitVec_inj.mpr all
  simp only [UInt32.toBitVec_and, UInt32.toBitVec_or] at bits ⊢
  ext i inside
  have bit := congrArg (fun word => word[i]) bits
  simp only [BitVec.getElem_and, BitVec.getElem_or] at bit ⊢
  grind

theorem contains_right (both : a.contains (b ||| c) = true) : a.contains c = true := by
  have swapped : b ||| c = c ||| b := congrArg Flags.mk (UInt32.or_comm b.bits c.bits)
  rw [swapped] at both
  exact contains_left both

end Flags

/-- Only a minimized and visible window is brought to the foreground to restore it. -/
theorem ManagedState.shown_of_restoration {style : WindowStyle} {reported : NetState}
    (restored : restoration style reported = .restoreToForeground) :
    style.isMinimized = true ∧ style.isVisible = true := by
  unfold restoration at restored
  split at restored
  · split at restored <;> cases restored
  · split at restored
    · split at restored
      · next shown => exact ⟨Flags.contains_left shown, Flags.contains_right shown⟩
      · cases restored
    · cases restored

theorem ManagedState.shown_of_correct {m : ManagedState} {style : WindowStyle} {reported : NetState}
    (restored : (m.correct style reported).2 = .restoreToForeground) :
    style.isMinimized = true ∧ style.isVisible = true := by
  unfold correct at restored
  split at restored
  · exact shown_of_restoration restored
  · unfold iconification at restored
    split at restored
    · cases restored
    · split at restored <;> cases restored
  · cases restored

namespace EventRecord

/-- Whether an event brings the host's focus to a window. -/
def BringsFocus (event : EventRecord) : Prop := ∃ focus, event.kind = .focusIn focus

/-- Whether an event is the window manager's offer of focus. -/
def OffersFocus (event : EventRecord) : Prop :=
  ∃ e time, event.kind = .clientMessage e ∧ e.format = 32 ∧ e.message = .wmProtocols .takeFocus time

/-- Whether an event tells of the state property of a window. -/
def TellsOfWmState (event : EventRecord) : Prop :=
  ∃ e, event.kind = .property e ∧ e.atom = .wmState

/-- Whether a window does not come to the foreground in an event about `h` unless it has no objection. -/
def TakesVetoes (event : EventRecord) (h : Handle) : Prop :=
  event.BringsFocus ∨ event.OffersFocus ∧ h ≠ Environment.desktop

end EventRecord

namespace Scene

open Environment (desktop)

inductive MayFront (s : Scene) (h : Handle) (event : EventRecord) : Handle → Prop
  | kept : MayFront s h event s.env.foreground
  | base : MayFront s h event desktop
  | able {k : Handle} (can : canActivate s.env k = true)
      (consents : event.TakesVetoes h → ¬ s.env.Declines k) : MayFront s h event k
  /-- The desktop passes an offer on to the window that lost focus last. -/
  | former (offers : event.OffersFocus) (about : h = desktop) :
      MayFront s h event s.seat.input.lastFocus
  | restored {info : WindowInfo} (tells : event.TellsOfWmState) (known : s.env.info? h = some info)
      (minimized : info.style.isMinimized = true) (visible : info.style.isVisible = true) :
      MayFront s h event h

inductive Holder (s : Scene) (event : EventRecord) : Handle → Prop
  | ofBrought (brings : event.BringsFocus) : Holder s event desktop
  | ofOffered (offers : event.OffersFocus) : Holder s event s.env.foreground

inductive Corrected (front : Handle → Prop) (h : Handle) (s : Scene) : Scene → Prop
  | none {t : Scene} (errands : Errands front s t) : Corrected front h s t
  | commanded {u : Scene} {env : Environment} (errands : Errands front s u) (command : SysCommand)
      (sync : Bool) (done : u.env.deliver h (.sysCommand command) sync = .ok env) :
      Corrected front h s { u with env }
  | placed {u : Scene} (errands : Errands front s u) (rect : Rect) (flags : PlacementFlags) :
      Corrected front h s (u.act fun env => env.placeWindow h rect flags)

inductive Upshot (s : Scene) (h : Handle) (event : EventRecord) : Scene → Prop
  | done {t : Scene} (corrected : Corrected (s.MayFront h event) h s t) : Upshot s h event t
  | putOff {holder : Handle} (whose : s.Holder event holder) {u : Scene} (keyboard : Handle)
      (asked : (s.edit fun i => { i with keyboardWindow := keyboard }).Asked u) :
      Upshot s h event (u.retryAfterRelease holder event)

variable {s t u : Scene} {front : Handle → Prop} {h : Handle} {event : EventRecord}

theorem Corrected.after (first : Errands front s t) (later : Corrected front h t u) :
    Corrected front h s u := by
  cases later with
  | none errands => exact .none (first.trans errands)
  | commanded errands command sync done => exact .commanded (first.trans errands) command sync done
  | placed errands rect flags => exact .placed (first.trans errands) rect flags

theorem Upshot.settled (errands : Errands (s.MayFront h event) s t) : Upshot s h event t :=
  .done (.none errands)

theorem Upshot.ofOffer {holder : Handle} (whose : s.Holder event holder)
    (offer : Offer (s.MayFront h event) holder event s t) : Upshot s h event t := by
  cases offer with
  | met errands => exact .settled errands
  | putOff keyboard _ asked => exact .putOff whose keyboard asked

variable (s h)

theorem tell_corrected (command : SysCommand) :
    Corrected front h s (s.tell h (.sysCommand command)) := by
  unfold tell act Environment.tell Environment.post
  dsimp only
  split
  · next done => exact .commanded (.refl s) command false done
  · exact .none (.refl s)

theorem notify_corrected (command : SysCommand) :
    Corrected front h s (s.notify h (.sysCommand command)) := by
  unfold notify act Environment.send
  dsimp only
  split
  · next done => exact .commanded (.refl s) command true done
  · exact .none (.refl s)

theorem applyCorrection_corrected (correction : Correction)
    (leave : correction = .restoreToForeground → front h) :
    Corrected front h s (s.applyCorrection h correction) := by
  cases correction with
  | none => exact .none (.refl s)
  | command command => exact s.notify_corrected h command
  | restoreToForeground =>
      have fronted : Errands front s (s.setForeground h) := .one (.fronted h (leave rfl))
      exact .after fronted (notify_corrected _ h .restore)

theorem wmStateChanged_corrected (change : PropertyChange) (correcting : Bool)
    (leave : ∀ info, s.env.info? h = some info → info.style.isMinimized = true →
      info.style.isVisible = true → front h) :
    Corrected front h s (s.wmStateChanged h change correcting) := by
  unfold wmStateChanged
  cases known : s.env.info? h with
  | none => exact .none (.refl s)
  | some info =>
      dsimp only
      split
      · exact .none (.refl s)
      next w _ =>
      have observed : Errands front s (s.observeWmState h w change).1 := .noted rfl
      split
      · next found => rw [found] at observed; exact .none observed
      · next t found =>
          rw [found] at observed
          split
          · let judged := (t.window h).correct info.style (t.env.netState w)
            have noted : Errands front t (t.editWindow h fun _ => judged.1) := .noted rfl
            refine .after (observed.trans noted) (applyCorrection_corrected _ h judged.2 ?_)
            intro restored
            obtain ⟨minimized, visible⟩ := ManagedState.shown_of_correct restored
            exact leave info known minimized visible
          · exact .none observed

theorem property_corrected (e : PropertyEvent)
    (leave : e.atom = .wmState → ∀ info, s.env.info? h = some info →
      info.style.isMinimized = true → info.style.isVisible = true → front h) :
    Corrected front h s (s.property h e).1 := by
  unfold property
  split
  · next state => exact s.wmStateChanged_corrected h e.change true (leave state)
  · unfold netStateChanged
    dsimp only
    split
    · exact .none (.refl s)
    · exact .none (.noted rfl)
  · exact .none (.refl s)

theorem followPlacement_corrected (info : WindowInfo) (rect : Rect) :
    Corrected front h s (s.followPlacement h info rect).1 := by
  unfold followPlacement
  dsimp only
  split
  · exact .none (.refl s)
  · exact .placed (.refl s) rect _

theorem followGeometry_corrected (info : WindowInfo) (rect : Rect) :
    Corrected front h s (s.followGeometry h info rect).1 := by
  unfold followGeometry
  split
  · exact s.followPlacement_corrected h info rect
  next w _ =>
  have noted : Errands front s
      (s.editWindow h fun state => { state with netState := s.env.netState w }) := .noted rfl
  dsimp only
  split
  · next command _ => exact .after noted (notify_corrected _ h command)
  · exact .after noted (followPlacement_corrected _ h info rect)

theorem configure_corrected (event : EventRecord) (e : ConfigureEvent) :
    Corrected front h s (s.configure h event e).1 := by
  have noted : Errands front s (s.editWindow h id) := .noted rfl
  unfold configure
  split
  · exact .none (.refl s)
  · dsimp only
    split
    · exact .after noted (followGeometry_corrected _ h _ _)
    · exact .none noted

theorem gravity_corrected (e : GravityEvent) : Corrected front h s (s.gravity h e).1 := by
  unfold gravity
  split
  · exact .none (.refl s)
  · dsimp only
    split
    · exact .none (.refl s)
    · exact .placed (.refl s) _ _

theorem closeAfterProbe_corrected : Corrected front h s (s.closeAfterProbe h) := by
  have asked := s.asked_probeActivation h .close
  unfold closeAfterProbe
  dsimp only
  split
  · exact s.tell_corrected h .close
  cases found : s.probeActivation h .close with
  | mk t answer =>
      rw [found] at asked
      have activated : Errands front s (t.act fun env => { env with active := h }) :=
        (Errands.asked asked).trans (.one (.activated h))
      cases answer with
      | none => exact .after activated (tell_corrected _ h .close)
      | some activation =>
          cases activation with
          | activateAndEat | noActivateAndEat => exact .none (.asked asked)
          | noActivate => exact .after (.asked asked) (t.tell_corrected h .close)
          | activate => exact .after activated (tell_corrected _ h .close)

theorem deleteWindow_corrected : Corrected front h s (s.deleteWindow h) := by
  unfold deleteWindow
  split
  · exact s.notify_corrected h .close
  · split
    · exact .none (.refl s)
    · split
      · exact .none (.refl s)
      · exact s.closeAfterProbe_corrected h

theorem embedderMessage_errands (message : EmbedMessage) (base : front desktop)
    (able : ∀ k, canActivate s.env k = true → front k) :
    Errands front s (s.embedderMessage h message).1 := by
  cases message with
  | windowDeactivate | focusOut => exact s.loseFocus_errands _ base able
  | modalityOn | modalityOff => exact .notify h rfl
  | embeddedNotify | other _ => exact .refl s

/-- The desktop offers focus to the window in the foreground, else to the one that had it last. -/
theorem mayFront_desktopTarget (offers : event.OffersFocus) (about : h = desktop) :
    s.MayFront h event s.desktopTarget := by
  unfold desktopTarget
  split
  · exact .kept
  · split
    · exact .former offers about
    · exact .base

theorem wmProtocol_upshot (protocol : WmProtocol) (time : Timestamp) (data : DataWords)
    (offers : protocol = .takeFocus → event.OffersFocus) :
    Upshot s h event (s.wmProtocol h event protocol time data).1 := by
  cases protocol with
  | deleteWindow => exact .done (s.deleteWindow_corrected h)
  | takeFocus =>
      refine .ofOffer (.ofOffered (offers rfl)) (s.takeFocus_offer h event time .base ?_ ?_)
      · rintro k ⟨can, consents⟩
        exact .able can fun _ => consents
      · exact s.mayFront_desktopTarget h (offers rfl)
  | ping => exact .settled (.requested _)
  | other _ => exact .settled (.refl s)

theorem clientMessage_upshot {e : ClientMessageEvent} (kind : event.kind = .clientMessage e) :
    Upshot s h event (s.clientMessage h event e).1 := by
  unfold clientMessage
  split
  · exact .settled (.refl s)
  next sound =>
  have format : e.format = 32 := by
    simp only [Bool.or_eq_true, bne_iff_ne, not_or, not_not] at sound
    exact sound.2
  split
  · next protocol time message =>
      refine s.wmProtocol_upshot h protocol time e.data ?_
      rintro rfl
      exact ⟨e, time, kind, format, message⟩
  · next embed time message =>
      have free : ¬ event.TakesVetoes h := by
        simp [EventRecord.TakesVetoes, EventRecord.BringsFocus, EventRecord.OffersFocus, kind, message]
      exact .settled (s.embedderMessage_errands h embed .base fun k can =>
        .able can fun takes => absurd takes free)
  · exact .settled (.refl s)

/-- What the handler of any event comes to, by its kind. -/
theorem handle_upshot (event : EventRecord) : Upshot s h event (s.handle h event).1 := by
  unfold handle
  cases kind : event.kind with
  | key e => exact .settled (s.key_errands h e)
  | button e => exact .settled (s.button_errands h event.window e)
  | motion e => exact .settled (s.moveTo_errands h event.serial _)
  | enter e => exact .settled (s.enter_errands h event.window event.serial e)
  | leave _ => exact .settled (.refl s)
  | focusIn e =>
      refine .ofOffer (.ofBrought ⟨e, kind⟩) (s.focusIn_offer h event e .base ?_)
      rintro k ⟨can, consents⟩
      exact .able can fun _ => consents
  | focusOut e =>
      -- focus that goes is handed over without a question
      have free : ¬ event.TakesVetoes h := by
        simp [EventRecord.TakesVetoes, EventRecord.BringsFocus, EventRecord.OffersFocus, kind]
      exact .settled (s.focusOut_errands h event e .base fun k can =>
        .able can fun takes => absurd takes free)
  | expose e => exact .settled (s.expose_errands h event.window e)
  | map => exact .settled (s.mapped_errands h event.window)
  | unmap => exact .settled (.refl s)
  | destroy => exact .settled (s.destroyed_errands h)
  | reparent e => exact .settled (s.reparented_errands h e)
  | configure e =>
      dsimp only
      split
      · exact .settled (.refl s)
      · exact .done (s.configure_corrected h event e)
  | gravity e => exact .done (s.gravity_corrected h e)
  | property e =>
      dsimp only
      split
      · exact .settled (.refl s)
      · exact .done (s.property_corrected h e fun state info known minimized visible =>
          .restored ⟨e, kind, state⟩ known minimized visible)
  | clientMessage e => exact s.clientMessage_upshot h kind
  | generic e =>
      cases e with
      | rawMotion raw => exact .settled (s.rawMotion_errands event.serial raw)
      | deviceChanged change => exact .settled (.noted rfl)
      | missing | unknown _ _ => exact .settled (.refl s)

/-- An event comes to its upshot for the window that it concerns; that it was on record in the meantime
leaves no trace. -/
theorem dispatch_upshot (event : EventRecord) : ∃ t,
    (s.receiving event).Upshot (target s.env event) event t ∧
      (s.dispatch event).1 = t.edit fun i => { i with inFlight := s.seat.input.inFlight } :=
  ⟨_, handle_upshot _ _ event, s.fst_dispatch rfl⟩

end Scene

end GuestSeat
