import GuestSeat.Proofs.Seat.Errands
import GuestSeat.Proofs.Seat.Face

/-!
What comes of focus that is offered, brought or taken away. Before a window takes focus there are only
questions; if the answer is that another client holds the pointer, the event is put off and nothing has
been done yet. Otherwise a window comes to the foreground that may, and that did not decline.
-/

namespace GuestSeat

namespace MessageReply

theorem refuses_iff (reply : MessageReply) : reply.activation.refuses = true ↔
    reply = .activate .noActivate ∨ reply = .activate .noActivateAndEat := by
  cases reply with
  | activate a => cases a <;> simp [activation, Activation.refuses]
  | default | handled _ | clipOwner _ => simp [activation, Activation.refuses]

end MessageReply

namespace Environment

/-- Whether a window answers an offer of focus, and declines it. -/
def Declines (env : Environment) (h : Handle) : Prop :=
  let reply := env.replyTo h (.mouseActivate (env.ancestorRoot h) .menu)
  env.unresponsive.contains h = false ∧
    (reply = .activate .noActivate ∨ reply = .activate .noActivateAndEat)

variable {a b : Environment}

theorem rootWithin_congr (same : b.windows = a.windows) (steps : Nat) (h : Handle) :
    b.rootWithin steps h = a.rootWithin steps h := by
  induction steps generalizing h with
  | zero => rfl
  | succ steps ih =>
      have known : b.info? h = a.info? h := congrArg (fun w => (w.get? h).map HostedWindow.info) same
      unfold rootWithin
      rw [known]
      split
      · rfl
      · rw [ih]

theorem ancestorRoot_congr (same : b.windows = a.windows) (h : Handle) :
    b.ancestorRoot h = a.ancestorRoot h := by
  unfold ancestorRoot
  rw [same, rootWithin_congr same]

namespace Asked

theorem windows (asked : a.Asked b) : b.windows = a.windows :=
  asked.keeps Environment.windows fun _ => rfl

theorem foreground (asked : a.Asked b) : b.foreground = a.foreground :=
  asked.keeps Environment.foreground fun _ => rfl

theorem declines_iff (asked : a.Asked b) (h : Handle) : b.Declines h ↔ a.Declines h := by
  have root := ancestorRoot_congr asked.windows h
  have replies : b.replies = a.replies := asked.keeps Environment.replies fun _ => rfl
  have silent : b.unresponsive = a.unresponsive := asked.keeps Environment.unresponsive fun _ => rfl
  unfold Declines replyTo
  rw [root, replies, silent]

end Asked

end Environment

namespace Scene

open Environment (desktop)

variable {a b : Environment} {s t u : Scene} {h : Handle}

/-- Whether a window may become the foreground window and does not decline. -/
def Willing (env : Environment) (h : Handle) : Prop := canActivate env h = true ∧ ¬ env.Declines h

/-- A window that may become the foreground window may where more is known. -/
theorem canActivate_mono (known : ∀ info, b.info? h = some info → a.info? h = some info)
    (able : canActivate b h = true) : canActivate a h = true := by
  unfold canActivate at able ⊢
  cases found : b.info? h with
  | none => simp [found] at able
  | some info => rwa [known info found, ← found]

theorem canActivate_congr (same : b.windows = a.windows) (h : Handle) :
    canActivate b h = canActivate a h := by
  unfold canActivate Environment.info?
  rw [same]

/-- Questions make no window more willing, or less. -/
theorem willing_iff_of_asked (asked : a.Asked b) (h : Handle) : Willing b h ↔ Willing a h := by
  unfold Willing
  rw [canActivate_congr asked.windows, asked.declines_iff]

theorem willing_of_asked (asked : a.Asked b) (willing : Willing b h) : Willing a h :=
  (willing_iff_of_asked asked h).mp willing

theorem named_of_canActivate (able : canActivate a h = true) : h.isNull = false := by
  unfold canActivate at able
  simp only [Bool.and_eq_true, Bool.not_eq_true'] at able
  exact able.1.1

theorem there_of_canActivate (able : canActivate a h = true) :
    (h.isNull || !a.windows.contains h) = false := by
  have named := named_of_canActivate able
  unfold canActivate at able
  cases found : a.info? h with
  | none => simp [found] at able
  | some info =>
      have there : a.windows.contains h = true := by
        obtain ⟨hosted, kept, -⟩ := Option.map_eq_some_iff.mp found
        simp [OrderedMap.contains, kept]
      simp [there, named]

variable (s)

theorem takesActivation_iff (there : (h.isNull || !s.env.windows.contains h) = false) :
    (s.takesActivation h).2 = true ↔ ¬ s.env.Declines h := by
  unfold takesActivation probeActivation Environment.sendWithin Environment.Declines
  cases silent : s.env.unresponsive.contains h with
  | true => simp
  | false =>
      have arrives : ∀ m, s.env.deliver h m true =
          .ok (s.env.note fun j => { j with messages := j.messages ++ [⟨h, m, true⟩] }) := by
        intro m
        unfold Environment.deliver
        rw [if_neg (by simp [there])]
      have answer := MessageReply.refuses_iff
        (s.env.replyTo h (.mouseActivate (s.env.ancestorRoot h) .menu))
      simp only [Environment.send, arrives, Bool.false_eq_true, if_false, Option.all_some,
        Bool.not_eq_true', true_and, ← answer, Bool.not_eq_true]
      rfl

theorem agreesToActivate_iff (h : Handle) :
    (s.agreesToActivate h).2 = true ↔ Willing s.env h := by
  unfold agreesToActivate Willing
  by_cases able : canActivate s.env h = true
  · rw [if_pos able, s.takesActivation_iff (there_of_canActivate able)]
    simp [able]
  · rw [if_neg able]
    simp [able]

/-- A window that was asked took focus, and then it was willing, or it did not. -/
theorem agreesToActivate_cases (h : Handle) : ∃ t, s.Asked t ∧
    (s.agreesToActivate h = (t, true) ∧ Willing s.env h ∨ s.agreesToActivate h = (t, false)) := by
  refine ⟨(s.agreesToActivate h).1, s.asked_agreesToActivate h, ?_⟩
  cases agreed : (s.agreesToActivate h).2 with
  | true => exact .inl ⟨Prod.ext rfl agreed, (s.agreesToActivate_iff h).mp agreed⟩
  | false => exact .inr (Prod.ext rfl agreed)

theorem canGrab_snd : s.canGrab.2 = (!s.seat.config.pointer.grabPointer ||
    s.seat.input.isClipping || s.env.probeSucceeds) := by
  unfold canGrab
  split
  · next known => simp [known]
  · next unknown =>
      rw [Bool.not_eq_true] at unknown
      simp [unknown, request, act, Environment.request]

variable {s} in
/-- Whether the pointer could be grabbed is not up to windows. -/
theorem Asked.granted (asked : s.Asked t) : t.canGrab.2 = s.canGrab.2 := by
  rw [canGrab_snd, canGrab_snd, asked.seat, asked.env.keeps Environment.probeSucceeds fun _ => rfl]

variable {s} in
theorem Asked.edit (asked : s.Asked t) (f : InputState → InputState) : (s.edit f).Asked (t.edit f) where
  seat := congrArg (fun seat : Seat => { seat with input := f seat.input }) asked.seat
  env := asked.env

theorem tell_eq (h : Handle) (message : GuestMessage) : s.tell h message =
    if h.isNull || !s.env.windows.contains h then s
    else s.act fun env => env.note fun j => { j with messages := j.messages ++ [⟨h, message, false⟩] } := by
  unfold tell act Environment.tell Environment.post Environment.deliver
  by_cases lost : (h.isNull || !s.env.windows.contains h) = true
  · simp only [if_pos lost]
  · simp only [if_neg lost]

/-- To put an event off is to tell the holder, if it is there, and to put the event back. -/
theorem retryAfterRelease_eq (holder : Handle) (event : EventRecord) :
    s.retryAfterRelease holder event =
      (if holder.isNull || !s.env.windows.contains holder then s
        else s.act fun env => env.note fun j =>
          { j with messages := j.messages ++ [⟨holder, .releaseCursor, false⟩] }).act
        fun env => env.resend event := by
  have told : (if holder.isNull then s else s.tell holder .releaseCursor) =
      s.tell holder .releaseCursor := by
    split
    · next null => simp [tell_eq, null]
    · rfl
  unfold retryAfterRelease
  rw [told, tell_eq]

/-- What an offer of focus comes to: errands, or, since the pointer was not to be had, a request to its
holder to let go of it and another try later. In that case there were only questions before, and a note of
the window with the keyboard. -/
inductive Offer (front : Handle → Prop) (holder : Handle) (event : EventRecord) (s : Scene) :
    Scene → Prop
  | met {t : Scene} (errands : Errands front s t) : Offer front holder event s t
  | putOff {u : Scene} (keyboard : Handle) (refused : s.canGrab.2 = false)
      (asked : (s.edit fun i => { i with keyboardWindow := keyboard }).Asked u) :
      Offer front holder event s (u.retryAfterRelease holder event)

variable {front : Handle → Prop} {holder : Handle} {event : EventRecord}

variable {s} in
theorem Offer.after (asked : s.Asked t) (offer : Offer front holder event t u) :
    Offer front holder event s u := by
  cases offer with
  | met errands => exact .met ((Errands.asked asked).trans errands)
  | putOff keyboard refused later =>
      rw [asked.granted] at refused
      exact .putOff keyboard refused ((asked.edit _).trans later)

variable {s} in
theorem Offer.errands (offer : Offer front holder event s t) (granted : s.canGrab.2 = true) :
    Errands front s t := by
  cases offer with
  | met errands => exact errands
  | putOff _ refused _ =>
      rw [granted] at refused
      cases refused

/-- The host's focus goes to the top-level window of a window, if there is one. -/
theorem focusRoot_errands (h : Handle) (time : Timestamp) :
    Errands front s (if h.isNull then s else
      match s.env.info? (s.env.ancestorRoot h) with
      | none => s
      | some info => s.focusHost info time) := by
  split
  · exact .refl s
  · split
    · exact .refl s
    · exact s.focusHost_errands _ time

theorem giveFocus_offer (event : EventRecord) (h : Handle) (time : Timestamp) (leave : front h) :
    Offer front s.env.foreground event s (s.giveFocus event h time) := by
  have asked := s.asked_canGrab
  unfold giveFocus
  cases found : s.canGrab with
  | mk t granted =>
      rw [found] at asked
      cases granted with
      | false =>
          dsimp only
          rw [asked.env.foreground]
          exact .putOff s.seat.input.keyboardWindow (congrArg Prod.snd found) asked
      | true =>
          have fronted : Errands front s (t.setForeground h) :=
            (Errands.asked asked).trans (.one (.fronted h leave))
          exact .met (fronted.trans (focusRoot_errands _ _ time))

/-- Some willing window gets focus, or the desktop if there is none among the candidates. -/
theorem activateFirst_offer (event : EventRecord) (time : Timestamp) (candidates : List Handle)
    (base : front desktop) (leave : ∀ k, Willing s.env k → front k) :
    Offer front s.env.foreground event s (s.activateFirst event time candidates) := by
  induction candidates generalizing s with
  | nil => exact .met (.one (.fronted desktop base))
  | cons h rest ih =>
      obtain ⟨t, asked, ⟨found, willing⟩ | found⟩ := s.agreesToActivate_cases h
      all_goals
        unfold activateFirst
        rw [found, ← asked.env.foreground]
      · exact .after asked (t.giveFocus_offer event h time (leave h willing))
      · -- a refusal leaves a question behind, so the rest are judged as they were in `s`
        exact .after asked (ih t fun k willing => leave k (willing_of_asked asked.env willing))

theorem takeFocus_offer (h : Handle) (event : EventRecord) (time : Timestamp) (base : front desktop)
    (leave : ∀ k, Willing s.env k → front k) (passed : h = desktop → front s.desktopTarget) :
    Offer front s.env.foreground event s (s.takeFocus h event time) := by
  obtain ⟨t, asked, ⟨found, willing⟩ | found⟩ := s.agreesToActivate_cases h
  all_goals
    unfold takeFocus
    rw [found, ← asked.env.foreground]
  · exact .after asked (t.giveFocus_offer event h time (leave h willing))
  · dsimp only
    split
    · next own =>
        have target : t.desktopTarget = s.desktopTarget := by
          unfold desktopTarget
          rw [asked.env.foreground, asked.seat]
        have may : front t.desktopTarget := by
          rw [target]
          exact passed (beq_iff_eq.mp own)
        exact .after asked (t.giveFocus_offer event _ time may)
    · exact .after asked (t.activateFirst_offer event time _ base fun k willing =>
        leave k (willing_of_asked asked.env willing))

/-- With the pointer to be had, nothing stands in the way of focus. -/
theorem activateFocused_errands (h : Handle) (event : EventRecord) (granted : s.canGrab.2 = true)
    (base : front desktop) (leave : ∀ k, Willing s.env k → front k) :
    Errands front s (s.activateFocused h event) := by
  unfold activateFocused
  split
  · split
    · exact s.clipFullscreen_errands h false
    · exact .refl s
  · obtain ⟨t, asked, ⟨found, willing⟩ | found⟩ := s.agreesToActivate_cases h
    · rw [found]
      exact (Errands.asked asked).trans (.one (.fronted h (leave h willing)))
    · rw [found]
      have offer := t.activateFirst_offer event 0 (t.fallbacks h) base fun k willing =>
        leave k (willing_of_asked asked.env willing)
      exact (Offer.after asked offer).errands granted

theorem focusIn_offer (h : Handle) (event : EventRecord) (focus : FocusEvent) (base : front desktop)
    (leave : ∀ k, Willing s.env k → front k) :
    Offer front desktop event s (s.focusIn h event focus).1 := by
  unfold focusIn
  split
  · exact .met (.refl s)
  · let noted := s.edit fun i => { i with keyboardWindow := h }
    have asked : noted.Asked noted.canGrab.1 := noted.asked_canGrab
    have same : noted.canGrab.2 = s.canGrab.2 := (canGrab_snd noted).trans (canGrab_snd s).symm
    split
    · next t found =>
        rw [show noted.canGrab = (t, false) from found] at asked
        exact .putOff h (same.symm.trans (congrArg Prod.snd found)) asked
    · next t found =>
        -- the pointer is still to be had after the question, so nothing is put off any more
        rw [show noted.canGrab = (t, true) from found] at asked
        have told : noted.Asked t.askForClip := asked.trans t.asked_askForClip
        have start : Errands front s noted := .noted rfl
        have began : Errands front s t.askForClip := start.trans (.asked told)
        have granted : t.askForClip.canGrab.2 = true := told.granted.trans (congrArg Prod.snd found)
        dsimp only
        split
        · exact .met began
        · refine .met (began.trans (activateFocused_errands _ h event granted base ?_))
          intro k willing
          exact leave k (willing_of_asked told.env willing)

theorem handOver_errands (h : Handle) (base : front desktop)
    (able : ∀ k, canActivate s.env k = true → front k) : Errands front s (s.handOver h) := by
  unfold handOver
  split
  · next top found =>
      exact .one (.fronted top (able top (Option.filter_eq_some_iff.mp found).2))
  · split
    · exact .one (.fronted desktop base)
    · exact .refl s

theorem env_windows_notify (h : Handle) (message : GuestMessage) :
    (s.notify h message).env.windows = s.env.windows := by
  unfold notify act Environment.send
  dsimp only
  split
  · next done =>
      obtain ⟨-, rfl⟩ := Environment.deliver_eq_ok done
      rfl
  · rfl

theorem loseFocus_errands (h : Handle) (base : front desktop)
    (able : ∀ k, canActivate s.env k = true → front k) : Errands front s (s.loseFocus h) := by
  unfold loseFocus
  split
  · exact .refl s
  · let noted := s.edit fun i => { i with lastFocus := h }
    have lost : Errands front s noted := .noted rfl
    dsimp only
    split
    · split
      · exact lost.trans (resetClipping_errands _)
      · exact lost
    · split
      · exact lost
      · refine (lost.trans (.notify h rfl)).trans (handOver_errands _ h base fun k can => able k ?_)
        rwa [canActivate_congr (noted.env_windows_notify h .cancelMode)] at can

/-- A release takes no window but the one that stood for the clip. -/
theorem info?_of_release {report : Bool} {h : Handle} {info : WindowInfo}
    (known : (s.release report).env.info? h = some info) : s.env.info? h = some info := by
  have windows := congrArg Face.windows (s.face_release report)
  unfold Environment.info? at known ⊢
  change (s.release report).env.windows = _ at windows
  rw [windows] at known
  cases held : s.seat.input.clip with
  | none =>
      rw [held] at known
      exact known
  | some region =>
      rw [held] at known
      dsimp only [Face.without] at known
      split at known
      · rw [OrderedMap.get?_erase] at known
        split at known
        · cases known
        · exact known
      · exact known

theorem captureLost_errands (h : Handle) (host : HostWindow) :
    Errands front s (s.captureLost h host) := by
  unfold captureLost
  split
  · exact s.resetClipping_errands.trans (.noted rfl)
  · exact .refl s

theorem focusOut_errands (h : Handle) (event : EventRecord) (focus : FocusEvent)
    (base : front desktop) (able : ∀ k, canActivate s.env k = true → front k) :
    Errands front s (s.focusOut h event focus).1 := by
  unfold focusOut
  split
  · exact s.captureLost_errands h event.window
  split
  · exact .refl s
  · let freed := if h == s.env.foreground then s.release true else s
    have released : Errands front s freed := by
      dsimp only [freed]
      split
      · exact s.release_errands true
      · exact .refl s
    -- a release only takes windows away, so none can be activated that could not be before
    have before : ∀ k, canActivate freed.env k = true → canActivate s.env k = true := by
      intro k can
      dsimp only [freed] at can
      split at can
      · exact canActivate_mono (fun info known => s.info?_of_release known) can
      · exact can
    dsimp only
    split
    · exact released
    · exact released.trans (freed.loseFocus_errands h base fun k can => able k (before k can))

end Scene

end GuestSeat
