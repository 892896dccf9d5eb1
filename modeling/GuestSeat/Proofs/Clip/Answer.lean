import GuestSeat.Proofs.Clip.Course
import GuestSeat.Proofs.Seat.Errands

/-!
What a seat without a registry makes of a message from another seat. All that it ever sends in answer is
for the registry: reports and questions to the desktop, which mean nothing to a seat that has none. Only
a request for the guest's rectangle makes a window, and only where the desktop is on another thread.
-/

namespace GuestSeat

open Environment (desktop)

def GuestMessage.IsForRegistry : GuestMessage → Prop
  | .clipOwnerChanged _ _ | .queryClipOwner => True
  | _ => False

def Delivered.IsForRegistry (d : Delivered) : Prop := d.window = desktop ∧ d.message.IsForRegistry

namespace Scene

def Reports (s t : Scene) : Prop :=
  Appends Delivered.IsForRegistry s.env.journal.messages t.env.journal.messages

namespace Reports

variable {s t u : Scene}

theorem refl (s : Scene) : s.Reports s := Appends.refl _ _

theorem trans (first : s.Reports t) (second : t.Reports u) : s.Reports u := Appends.trans first second

/-- Nothing was sent. -/
theorem silent (same : t.env.journal.messages = s.env.journal.messages) : s.Reports t := by
  unfold Reports
  rw [same]
  exact .refl _ _

end Reports

variable (s : Scene)

theorem messages_disableRaw : s.disableRaw.env.journal.messages = s.env.journal.messages := by
  unfold disableRaw
  split <;> rfl

theorem messages_enableRaw : s.enableRaw.1.env.journal.messages = s.env.journal.messages := by
  unfold enableRaw
  split
  · rfl
  · rfl
  all_goals
    dsimp only
    split <;> rfl

theorem messages_destroyWindow (h : Handle) :
    (s.act fun env => env.destroyWindow h).env.journal.messages = s.env.journal.messages :=
  congrArg Standing.messages (s.standing_destroyWindow h)

theorem messages_showCursor (w : HostWindow) (cursor : Option CursorId) :
    (s.showCursor w cursor).env.journal.messages = s.env.journal.messages := by
  obtain ⟨native, standing⟩ := s.standing_showCursor w cursor
  exact congrArg Standing.messages standing

theorem reports_reportOwner (source target : Handle) : s.Reports (s.reportOwner source target) := by
  unfold reportOwner
  split
  · exact .silent rfl
  · unfold Scene.tell act Environment.tell Environment.post
    dsimp only
    split
    · next done =>
        obtain ⟨-, rfl⟩ := Environment.deliver_eq_ok done
        exact Appends.single ⟨rfl, trivial⟩
    · exact .refl s

theorem reports_establish (w : HostWindow) (region : ClipRegion) : s.Reports (s.establish w region) := by
  unfold establish
  dsimp only
  refine Reports.trans (.silent ?_) (reports_reportOwner _ _ _)
  split
  · exact messages_showCursor _ w _
  · rfl

theorem reports_abandonGrab (w : HostWindow) (capture : Handle) :
    s.Reports (s.abandonGrab w capture) := by
  have ended := (messages_destroyWindow _ capture).trans
    (messages_disableRaw ((s.request .ungrabPointer).request (.unmap w)))
  unfold abandonGrab
  dsimp only
  split
  · exact .silent ended
  · exact Reports.trans (.silent ended) (reports_reportOwner _ _ _)

theorem reports_confine (w : HostWindow) (region : ClipRegion) :
    s.Reports (s.confine w region).1 := by
  let shown := s.showSurface w region.rect
  let aimed := if s.seat.input.clip.all fun previous => region.rect.restricts previous.rect
    then shown.armWarpFence else shown
  let ready := aimed.request (.grabPointer w)
  have asked : s.Reports ready := by
    refine .silent ?_
    dsimp only [ready, aimed]
    split <;> rfl
  change s.Reports (if ready.env.grabSucceeds then (ready.establish w region, true)
    else (ready.abandonGrab w region.captureWindow, false)).1
  split
  · exact asked.trans (ready.reports_establish w region)
  · exact asked.trans (ready.reports_abandonGrab w _)

theorem reports_beginClip (w : HostWindow) (rect : Rect) (kind : ClipKind) :
    s.Reports (s.beginClip w rect kind).1 := by
  let created : Scene := { s with env := s.env.createCaptureWindow.1 }
  have asked : created.enableRaw.1.env.journal.messages = s.env.journal.messages :=
    created.messages_enableRaw
  cases raw : created.enableRaw with
  | mk v on =>
      rw [raw] at asked
      rw [s.beginClip_eq w rect kind raw]
      cases on with
      | true => exact Reports.trans (.silent asked) (reports_confine (v.request (.unmap w)) w _)
      | false => exact .silent ((v.messages_destroyWindow s.standing.fresh).trans asked)

theorem reports_release (report : Bool) : s.Reports (s.release report) := by
  unfold release
  split
  · exact .refl s
  next region _ =>
  dsimp only
  have ended : ∀ u : Scene, u.env.journal.messages = s.env.journal.messages →
      (u.disableRaw.act fun env => env.destroyWindow region.captureWindow).env.journal.messages =
        s.env.journal.messages :=
    fun u same => ((messages_destroyWindow _ _).trans u.messages_disableRaw).trans same
  split
  · refine Reports.trans (.silent (ended _ ?_)) (reports_reportOwner _ _ _)
    split <;> rfl
  · refine .silent (ended _ ?_)
    split <;> rfl

theorem reports_queryOwner : s.Reports s.queryOwner.1 := by
  have sent : ∀ timeout, Appends Delivered.IsForRegistry s.env.journal.messages
      (s.env.sendWithin desktop .queryClipOwner timeout).1.journal.messages := by
    intro timeout
    unfold Environment.sendWithin Environment.send
    split
    · exact .refl _ _
    · split
      · next done =>
          obtain ⟨-, rfl⟩ := Environment.deliver_eq_ok done
          exact .single ⟨rfl, trivial⟩
      · exact .refl _ _
  unfold queryOwner
  split
  · exact .refl s
  · have asked := sent s.seat.config.focus.probeTimeout
    split
    · next found => rw [found] at asked; exact asked
    · next found => rw [found] at asked; exact asked

def capture? (s : Scene) : Option Handle := s.seat.input.clip.map ClipRegion.captureWindow

/-- What becomes of the windows when a seat does something about a message. Unless it was asked for a
rectangle, all that can happen is that the clip ends. -/
inductive Fate (asked : Prop) (s t : Scene) : Prop
  | still (capture : t.capture? = s.capture?) (threads : t.env.threadOf? = s.env.threadOf?)
      (silent : asked ∨ t.env.journal.messages = s.env.journal.messages)
  | ended (c : Handle) (held : s.capture? = some c) (capture : t.capture? = none)
      (threads : t.env.threadOf? = Function.update s.env.threadOf? c none)
  /-- A window for a new clip was made in vain. -/
  | spent (hasked : asked) (free : s.capture? = none) (capture : t.capture? = none)
      (threads : t.env.threadOf? = Function.update s.env.threadOf? s.standing.fresh none)
  | opened (hasked : asked) (apart : s.env.threadOf? desktop ≠ some s.env.thread)
      (free : s.capture? = none) (capture : t.capture? = some s.standing.fresh)
      (threads : t.env.threadOf? =
        Function.update s.env.threadOf? s.standing.fresh (some s.env.thread))

structure Answer (asked : Prop) (s t : Scene) : Prop where
  thread : t.env.thread = s.env.thread
  sent : s.Reports t
  fate : Fate asked s t

def Answers (asked : Prop) : Scene → Scene → Prop := Relation.ReflTransGen (Answer asked)

variable {s} {t : Scene} {asked : Prop}

/-- Nothing that bears on windows or messages. -/
theorem Answer.still (thread : t.env.thread = s.env.thread) (capture : t.capture? = s.capture?)
    (threads : t.env.threadOf? = s.env.threadOf?)
    (messages : t.env.journal.messages = s.env.journal.messages) : Answer asked s t :=
  ⟨thread, .silent messages, .still capture threads (.inr messages)⟩

theorem Answers.reports (h : Answers asked s t) : s.Reports t := by
  induction h with
  | refl => exact .refl s
  | tail _ answer ih => exact ih.trans answer.sent

/-- Whatever a clip goes through is one answer, if nothing is said but to the registry. -/
theorem Outcome.answer {R : Permit} {n : Nat} (h : Outcome R n s t) (sent : s.Reports t)
    (hasked : asked) (apart : s.env.threadOf? desktop ≠ some s.env.thread) : Answer asked s t := by
  refine ⟨congrArg (fun g : Ground => g.thread) h.ground, sent, ?_⟩
  have free : s.standing.clip = none → s.capture? = none := fun none => congrArg (Option.map _) none
  have clip : t.capture? = t.standing.clip.map ClipRegion.captureWindow := rfl
  have threads : t.env.threadOf? = t.standing.threads := rfl
  cases h with
  | quiet h => exact .still (congrArg (Option.map _) h.clip) h.env.threads (.inl hasked)
  | surfaced _ _ _ standing =>
      rw [standing] at clip threads
      exact .still clip threads (.inl hasked)
  | moved _ _ _ old _ _ held _ standing =>
      rw [standing] at clip threads
      have capture : s.capture? = some old.captureWindow := congrArg (Option.map _) held
      exact .still (clip.trans capture.symm) threads (.inl hasked)
  | declined _ unclipped _ standing =>
      rw [standing] at clip threads
      refine .spent hasked (free unclipped) (clip.trans (free unclipped)) (threads.trans ?_)
      exact Function.update_idem ..
  | refused _ _ _ unclipped _ _ standing =>
      rw [standing] at clip threads
      exact .spent hasked (free unclipped) clip (threads.trans (Function.update_idem ..))
  | opened _ _ _ _ _ _ unclipped _ _ standing =>
      rw [standing] at clip threads
      exact .opened hasked apart (free unclipped) clip threads
  | ended _ old report _ _ held _ standing =>
      rw [standing] at clip threads
      refine .ended old.captureWindow (congrArg (Option.map _) held) ?_ ?_
      · rw [clip]
        cases report <;> rfl
      · rw [threads]
        cases report <;> rfl

variable (s)

theorem release_answer (report : Bool) : Answer asked s (s.release report) := by
  refine ⟨congrArg (fun g : Ground => g.thread) (s.ground_release report), s.reports_release report, ?_⟩
  cases held : s.seat.input.clip with
  | none =>
      have unchanged : s.release report = s := by simp [release, held]
      rw [unchanged]
      exact .still rfl rfl (.inr rfl)
  | some region =>
      have standing := s.release_of_clip report held
      refine .ended region.captureWindow (congrArg (Option.map _) held) ?_ ?_
      · refine (congrArg (fun st : Standing => st.clip.map ClipRegion.captureWindow) standing).trans ?_
        cases report <;> rfl
      · refine (congrArg Standing.threads standing).trans ?_
        cases report <;> rfl

theorem grab_answers (hasked : asked) (rect : Rect) (kind : ClipKind) :
    Answers asked s (s.grab rect kind).1 := by
  let R : Permit := ⟨fun _ => True, True⟩
  obtain ⟨-, hregistry, hsurface⟩ := s.useSurface_outcome R
  have used : Answer asked s s.useSurface.1 ∧ s.useSurface.1.env.threadOf? = s.env.threadOf? := by
    obtain ⟨journal, threads, thread⟩ := s.env.useCaptureSurface_frame
    unfold useSurface
    split
    · exact ⟨.still rfl rfl rfl rfl, rfl⟩
    · exact ⟨.still thread rfl threads (congrArg Journal.messages journal), threads⟩
  unfold grab
  split
  · exact .refl
  next member =>
  split
  · exact .refl
  have plain : s.standing.registry = none := s.registry_of_member (by simpa using member)
  have apart : s.env.threadOf? desktop ≠ some s.env.thread := by
    intro home
    unfold Environment.threadOf? at home
    obtain ⟨info, there, lies⟩ := Option.map_eq_some_iff.mp home
    simp [onDesktopThread, Environment.owner?, there, lies] at member
  cases hu : s.useSurface with
  | mk u surface =>
      rw [hu] at used hregistry hsurface
      obtain ⟨surfaced, threads⟩ := used
      cases surface with
      | none => exact .single surfaced
      | some w =>
          have still : u.env.threadOf? desktop ≠ some u.env.thread := by
            rw [threads, surfaced.thread]
            exact apart
          dsimp only
          split
          · next free =>
              have begun : Outcome R 1 u (u.beginClip w rect kind).1 :=
                u.beginClip_outcome R kind trivial free (hregistry.trans plain) hsurface
              exact .tail (.single surfaced) (begun.answer (u.reports_beginClip w rect kind) hasked still)
          · next old held =>
              have confined : Outcome R 0 u (u.confine w ⟨rect, old.captureWindow, kind⟩).1 :=
                u.confine_outcome R kind trivial held hsurface
              exact .tail (.single surfaced) (confined.answer (u.reports_confine w _) hasked still)

theorem clipToOutput_answers (hasked : asked) : Answers asked s s.clipToOutput.1 := by
  unfold clipToOutput
  dsimp only
  split
  · exact .refl
  · exact s.grab_answers hasked _ _

theorem clipFullscreen_answers (hasked : asked) (h : Handle) (reset : Bool) :
    Answers asked s (s.clipFullscreen h reset).1 := by
  have seat := s.asked_queryOwner.seat
  have threads := s.asked_queryOwner.env.keeps Environment.threadOf? fun _ => rfl
  have thread := s.asked_queryOwner.env.keeps Environment.thread fun _ => rfl
  have questioned : Answer asked s s.queryOwner.1 := ⟨thread, s.reports_queryOwner,
    .still (congrArg (fun seat => seat.input.clip.map ClipRegion.captureWindow) seat) threads
      (.inl hasked)⟩
  unfold clipFullscreen
  split
  · exact .refl
  split
  · exact s.clipToOutput_answers hasked
  split
  · exact .refl
  split
  next t owner found =>
  rw [found] at questioned
  split
  · exact .head questioned (t.clipToOutput_answers hasked)
  · exact .single questioned

theorem reapplyClip_answers (h : Handle) :
    Answers (h = s.env.foreground) s (s.reapplyClip h).1 := by
  unfold reapplyClip
  split
  · exact .refl
  next front =>
  have front : h = s.env.foreground := by
    simp only [Bool.or_eq_true, not_or, bne_iff_ne, Decidable.not_not] at front
    exact front.2
  split
  · have grabbed := s.grab_answers front (s.env.guestClip.clampTo s.env.virtualScreen) .explicit
    split
    · next found => rw [found] at grabbed; exact grabbed
    · next t found => rw [found] at grabbed; exact .tail grabbed (t.release_answer true)
  · exact s.clipFullscreen_answers front h false

/-- A message is answered to a seat that has no registry; only the window in front can ask for a
rectangle. -/
theorem driverMessage_answers (plain : s.seat.registry = none) (h : Handle) (message : GuestMessage) :
    Answers (h = s.env.foreground) s (s.driverMessage h message).1 := by
  cases message with
  | clipOwnerChanged source target =>
      simp only [driverMessage, takeOwnerReport, plain]
      exact .refl
  | clipReset =>
      change Answers _ s (s.takeReset h).1
      unfold takeReset
      split
      · exact .refl
      · exact .head (s.release_answer false) (.single (.still rfl rfl rfl rfl))
  | clipRequest => exact s.reapplyClip_answers h
  | releaseCursor =>
      change Answers _ s s.resetClipping
      unfold resetClipping
      split
      · exact .head (s.release_answer true) (.single (.still rfl rfl rfl rfl))
      · exact .refl
  | setCursor cursor =>
      refine .single (.still ?_ ?_ ?_ ?_)
      · exact congrArg (fun g : Ground => g.thread) (s.quiet_defineCursor h cursor).ground
      · exact congrArg (Option.map _) (s.quiet_defineCursor h cursor).clip
      · exact (s.quiet_defineCursor h cursor).env.threads
      · change (s.defineCursor h cursor).env.journal.messages = _
        unfold defineCursor
        split
        · rfl
        · exact s.messages_showCursor _ cursor
  | queryClipOwner | sysCommand _ | close | cancelMode | mouseActivate _ _ | enableWindow _
  | redraw _ => exact .refl

/-- Messages for the registry mean nothing to a seat that has none. -/
theorem driverMessage_of_isForRegistry (plain : s.seat.registry = none) (h : Handle)
    {message : GuestMessage} (foreign : message.IsForRegistry) : (s.driverMessage h message).1 = s := by
  cases message <;> first | exact foreign.elim | simp [driverMessage, takeOwnerReport, plain]

theorem driverMessage_errands {front : Handle → Prop} (plain : s.seat.registry = none) (h : Handle)
    (message : GuestMessage) : Errands front s (s.driverMessage h message).1 := by
  cases message with
  | clipReset =>
      change Errands front s (s.takeReset h).1
      unfold takeReset
      split
      · exact .refl s
      · exact ((s.release_errands false).trans (.one .opened)).trans (.noted rfl)
  | clipRequest =>
      change Errands front s (s.reapplyClip h).1
      unfold reapplyClip
      split
      · exact .refl s
      split
      · have grabbed : Errands front s (s.grab (s.env.guestClip.clampTo s.env.virtualScreen)
          .explicit).1 := s.grab_errands _ _
        split
        · next found => rw [found] at grabbed; exact grabbed
        · next t found => rw [found] at grabbed; exact grabbed.trans (t.release_errands true)
      · exact s.clipFullscreen_errands h false
  | releaseCursor => exact s.resetClipping_errands
  | setCursor cursor =>
      change Errands front s (s.defineCursor h cursor)
      unfold defineCursor
      split
      · exact .refl s
      · exact s.showCursor_errands _ cursor
  | clipOwnerChanged source target =>
      have foreign : (GuestMessage.clipOwnerChanged source target).IsForRegistry := trivial
      rw [s.driverMessage_of_isForRegistry plain h foreign]
      exact .refl s
  | queryClipOwner | sysCommand _ | close | cancelMode | mouseActivate _ _ | enableWindow _
  | redraw _ => exact .refl s

structure Framed (s t : Scene) : Prop where
  registry : t.seat.registry = none
  thread : t.env.thread = s.env.thread
  foreground : t.env.foreground = s.env.foreground

theorem driverMessage_framed (plain : s.seat.registry = none) (h : Handle) (message : GuestMessage) :
    s.Framed (s.driverMessage h message).1 := by
  obtain ⟨-, ground⟩ := s.driverMessage_course (R := ⟨fun _ => True, True⟩) h message
    (fun _ _ _ => plain) (fun _ => trivial) trivial (fun _ _ => trivial)
  have errands : Errands (fun _ => False) s (s.driverMessage h message).1 :=
    s.driverMessage_errands plain h message
  have taken : s.call? (.message h message) = some (s.driverMessage h message).1 := rfl
  exact ⟨s.registry_call taken plain,
    congrArg (fun g : Ground => g.thread) ground, errands.foreground.resolve_right id⟩

end Scene

end GuestSeat
