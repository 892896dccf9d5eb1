import GuestSeat.Proofs.Clip.Run
import GuestSeat.Proofs.Cursor.Delivery

/-!
Whether the cursor that is seen becomes the cursor of the process. A window that the pointer comes to shows
the current cursor at once; a cursor that is chosen later is sent to it by message. From then on the last
message for the window carries the current cursor, and without one the window shows it, until a cursor is
chosen while the pointer is elsewhere. When the pointer comes back, a message from before can still be on
its way, and overwrites what is shown then; and a clip that is put in force anew takes the pointer back to
the capture surface without showing it anything.
-/

namespace GuestSeat

open Environment (desktop)

/-- Windows in order: each is entered under its own handle, which was given out before, and none has the
host window that is the capture surface or will be. -/
structure Environment.Furnished (env : Environment) : Prop where
  past : desktop.id.toNat < env.nextHandle.toNat
  windows : ∀ entry ∈ env.windows.entries, entry.2.info.handle = entry.1 ∧ entry.1.isNull = false ∧
    entry.1.id.toNat < env.nextHandle.toNat ∧ entry.2.info.host ≠ some env.outlook.surface

namespace Scene

variable {cursors : OrderedMap CursorId HostCursor} {start s t : Scene}

/-- A seat at its start, in surroundings in order, with no cursor on its way. -/
structure Outset (cursors : OrderedMap CursorId HostCursor) (s : Scene) : Prop where
  input : s.seat.input = (Seat.ofConfig s.seat.config).input
  tracker : s.seat.tracker = {}
  realizer : s.seat.realizer = .table cursors
  idle : s.env.outlook.carried = []
  furnished : s.env.Furnished

namespace Outset

theorem unclipped (h : Outset cursors s) : s.view.capture = none := by
  simp [view, Face.view, h.input, Seat.ofConfig]

theorem surface (h : Outset cursors s) : s.view.surface = s.env.outlook.surface := by
  simp [view, Face.view, face, h.input, Seat.ofConfig]

theorem entry_of_hosts {h : Handle} {host : Option HostWindow} (known : s.view.hosts h = some host) :
    ∃ entry ∈ s.env.windows.entries, entry.1 = h ∧ entry.2.info.host = host := by
  obtain ⟨info, listed, rfl⟩ := Option.map_eq_some_iff.mp known
  obtain ⟨hosted, entered, rfl⟩ := Option.map_eq_some_iff.mp listed
  exact ⟨_, s.env.windows.mem_of_get? entered, rfl, rfl⟩

theorem named (h : Outset cursors s) : s.view.hosts Handle.null = none := by
  by_contra known
  obtain ⟨host, known⟩ := Option.ne_none_iff_exists'.mp known
  obtain ⟨entry, member, null, -⟩ := entry_of_hosts known
  obtain ⟨-, named, -⟩ := h.furnished.windows entry member
  rw [null] at named
  cases named

theorem found (h : Outset cursors s) {w : HostWindow} {k : Handle} (found : s.view.lookup w = some k) :
    s.view.hosts k = some (some w) := by
  obtain ⟨hosted, seen, rfl⟩ := Option.map_eq_some_iff.mp found
  have host : hosted.info.host = some w := by simpa using List.find?_some seen
  obtain ⟨entry, member, rfl⟩ := List.mem_map.mp (List.mem_of_find?_eq_some seen)
  obtain ⟨own, -⟩ := h.furnished.windows entry member
  have known := s.env.windows.get?_of_mem member
  change ((s.env.windows.get? entry.2.info.handle).map _).map _ = _
  rw [own, known]
  exact congrArg some host

theorem watched (h : Outset cursors s) : Watched cursors 0 s where
  tidy := {
    table := h.realizer
    past := h.furnished.past
    room := s.env.nextHandle.toNat_lt
    known := by
      intro k known
      obtain ⟨host, known⟩ := Option.ne_none_iff_exists'.mp known
      obtain ⟨entry, member, rfl, -⟩ := entry_of_hosts known
      exact (h.furnished.windows entry member).2.2.1
    carried := by
      intro p member
      rw [show s.view.carried = [] from h.idle] at member
      cases member
    named := by rw [h.named]; rfl
    found := fun w k => h.found
    apart := by
      intro k known
      obtain ⟨entry, member, -, host⟩ := entry_of_hosts known
      rw [h.surface] at host
      exact (h.furnished.windows entry member).2.2.2 host
    stands := by
      intro k held
      rw [h.unclipped] at held
      cases held }
  surfaced := by
    intro clipping
    rw [show s.standing.clip = none by simp [standing, h.input, Seat.ofConfig]] at clipping
    cases clipping

theorem under_eq_none (h : Outset cursors s) : s.view.under = none := by
  have window : s.view.tracker.window = Handle.null := by
    rw [show s.view.tracker = {} from h.tracker]
  simp [View.under, window, View.surfaceOf, h.unclipped, h.named]

end Outset

/-- The host window that the pointer is over. -/
def under? (s : Scene) : Option HostWindow := s.cursorSurface? s.seat.tracker.window

/-- The cursors that are on their way to a host window, in the order in which they come. -/
def bound (s : Scene) (w : HostWindow) : List (Handle × Option CursorId) :=
  s.env.outlook.carried.filter fun p => s.cursorSurface? p.1 = some w

/-- A host window is in step with the process: the last cursor on its way to it is the one of the process,
and if there is none, it was last shown that one. -/
structure InStep (s : Scene) (w : HostWindow) : Prop where
  coming : ∀ p, (s.bound w).getLast? = some p → p.2 = s.seat.tracker.cursor
  shown : s.bound w = [] → s.display.Shows w

namespace Watched

variable {n : Nat}

theorem cursorSurface? (h : Watched cursors n s) (k : Handle) : s.cursorSurface? k = s.view.surfaceOf k :=
  cursorSurface?_eq h.surfaced h.tidy.named_capture k

theorem under? (h : Watched cursors n s) : s.under? = s.view.under := h.cursorSurface? _

theorem bound (h : Watched cursors n s) (w : HostWindow) : s.bound w = s.view.bound w := by
  unfold Scene.bound View.bound
  simp only [h.cursorSurface?]
  rfl

theorem inStep (h : Watched cursors n s) {w : HostWindow} (hs : s.view.InStep w) : s.InStep w :=
  ⟨by rw [h.bound]; exact hs.coming, by rw [h.bound]; exact hs.shown⟩

end Watched

/-- The seat is called or its surroundings change, or the oldest message that carries a cursor is
delivered. -/
inductive Step
  | turn (turn : Turn)
  | deliver

def step? (s : Scene) : Step → Option Scene
  | .turn turn => s.take? turn
  | .deliver => (firstCarried? s.env.journal.messages).map fun (p, left) => s.deliverCarried p left

/-- Calls have room for the handles they use up; the null cursor is not chosen, and cursors come by the
messages that were posted only. The surroundings may change, but not the windows nor what is shown or on
its way. -/
def Permitted (s : Scene) : Step → Prop
  | .turn (.call call) => (∀ h cursor, call ≠ .message h (.setCursor cursor)) ∧
      (∀ cursor, call = .setCursor cursor → CursorTracker.choice cursor = cursor) ∧
      s.env.nextHandle.toNat + 2 * s.appetite < UInt64.size
  | .turn (.change env) => env.outlook = s.env.outlook ∧ s.env.nextHandle ≤ env.nextHandle
  | .deliver => True

/-- A clip that stays in force is put in force anew, which takes the pointer back from another window to
the one that stands for the clip. Events do not take it there in this way. -/
def Recalls (s : Scene) : Step → Scene → Prop
  | .turn (.call call), t => ¬ call.Roams ∧ s.seat.input.isClipping = true ∧
      t.seat.input.isClipping = true ∧ t.seat.input.captureWindow = s.seat.input.captureWindow ∧
      s.seat.tracker.window ≠ s.seat.input.captureWindow ∧
      t.seat.tracker.window = t.seat.input.captureWindow
  | .turn (.change _), _ | .deliver, _ => False

/-- Whenever the pointer comes to a host window, no cursor is on its way there. -/
def Prompt (s t : Scene) : Prop := ∀ w, t.under? = some w → s.under? ≠ some w → t.bound w = []

/-- A permitted step by which the pointer comes to no host window with a cursor on its way there, and is not
recalled to a clip. -/
structure Orderly (s : Scene) (step : Step) (t : Scene) : Prop where
  permitted : s.Permitted step
  prompt : s.Prompt t
  unrecalled : ¬ s.Recalls step t

/-- The host window under the pointer comes into step: it is told of a choice, or the pointer came to it,
not by a recall, while no cursor was on its way there. -/
inductive Syncs (s : Scene) (step : Step) (t : Scene) (w : HostWindow) : Prop
  | told {cursor : Option CursorId} (chosen : step = .turn (.call (.setCursor cursor)))
      (sent : s.env.outlook.carried.length < t.env.outlook.carried.length) (hovers : t.under? = some w)
  | came (away : s.under? ≠ some w) (hovers : t.under? = some w) (clear : t.bound w = [])
      (unrecalled : ¬ s.Recalls step t)

/-- A permitted step; if it chooses a cursor, the pointer is over the host window. -/
def Attends (w : HostWindow) (s : Scene) (step : Step) (_ : Scene) : Prop :=
  s.Permitted step ∧ ∀ cursor, step = .turn (.call (.setCursor cursor)) → s.under? = some w

/-- A scene that steps of a kind lead to. -/
inductive Track (allowed : Scene → Step → Scene → Prop) (start : Scene) : Scene → Prop
  | start : Track allowed start start
  | step {s t : Scene} {step : Step} (track : Track allowed start s) (ok : allowed s step t)
      (taken : s.step? step = some t) : Track allowed start t

section Track

variable {allowed more : Scene → Step → Scene → Prop}

theorem Track.andCall (track : Track allowed start s) (call : Call)
    (ok : allowed s (.turn (.call call)) t) (taken : s.call? call = some t) : Track allowed start t :=
  track.step ok taken

theorem Track.andDeliver (track : Track allowed start s) (ok : allowed s .deliver t)
    (taken : s.step? .deliver = some t) : Track allowed start t :=
  track.step ok taken

theorem Track.mono (track : Track allowed start s)
    (weaker : ∀ s step t, allowed s step t → more s step t) : Track more start s := by
  induction track with
  | start => exact .start
  | step track ok taken ih => exact .step ih (weaker _ _ _ ok) taken

end Track

variable {call : Call} {step : Step} {w : HostWindow}

/-- What is not there, or has no name, has nowhere to show a cursor. -/
theorem Watched.under_eq_none (watched : Watched cursors 0 s)
    (nowhere : s.seat.tracker.window.isNull = true ∨ s.view.hosts s.seat.tracker.window = none) :
    s.view.under = none := by
  change s.view.surfaceOf s.seat.tracker.window = none
  rcases nowhere with null | absent
  · have named : s.seat.tracker.window = Handle.null := by simpa [Handle.isNull] using null
    rw [named, View.surfaceOf, if_neg watched.tidy.named_capture]
    exact watched.tidy.named
  · have other : s.view.capture ≠ some s.seat.tracker.window := by
      intro held
      simp [(watched.tidy.stands _ held).1] at absent
    rw [View.surfaceOf, if_neg other, absent]
    rfl

/-- A choice of a cursor while the pointer is over a host window: it is told, or the cursor is the same. -/
theorem Watched.setCursor (watched : Watched cursors 0 s) {cursor : Option CursorId}
    (named : CursorTracker.choice cursor = cursor) : Watched cursors 0 (s.setCursor cursor) ∧
      (s.setCursor cursor).view.under = s.view.under ∧ ∀ w, s.view.under = some w →
        (s.setCursor cursor).view.InStep w ∨
          (s.setCursor cursor).env.outlook.carried = s.env.outlook.carried ∧
            (s.view.InStep w → (s.setCursor cursor).view.InStep w) := by
  obtain ⟨tracker, told, view, window, value, sent⟩ := s.view_setCursor cursor
  have known : ∀ p ∈ told, s.view.hosts p.1 ≠ none := by
    rcases sent with ⟨rfl, known⟩ | ⟨rfl, -⟩
    · rintro p member
      rwa [List.mem_singleton.mp member]
    · nofun
  have quiet := s.quiet_setCursor cursor
  refine ⟨⟨by rw [view]; exact watched.tidy.choosing tracker known,
    watched.surfaced.of_eq quiet.clip quiet.captureSurface⟩, ?_, fun w hovers => ?_⟩
  · rw [view]
    change s.view.surfaceOf tracker.window = _
    rw [window]
    rfl
  rcases sent with ⟨rfl, -⟩ | ⟨rfl, same | nowhere⟩
  · left
    rw [view, show (s.seat.tracker.window, cursor) = (s.view.tracker.window, tracker.cursor) by
      rw [value, named]; rfl]
    exact View.inStep_told hovers
  · right
    refine ⟨?_, fun step => ?_⟩
    · have carried := congrArg View.carried view
      rw [View.choosing, List.append_nil] at carried
      exact carried
    · rw [view, View.choosing, List.append_nil]
      refine step.congr rfl same fun shows => ?_
      rw [Display.Shows, show (_ : CursorTracker).cursor = s.seat.tracker.cursor from same]
      exact shows
  · rw [watched.under_eq_none nowhere] at hovers
    cases hovers

/-- A table of cursors forgets none, and a report to the registry concerns no cursor. -/
theorem view_special (table : s.seat.realizer = .table cursors) (taken : s.call? call = some t)
    (special : ¬ call.IsOrdinary) (own : ∀ h cursor, call ≠ .message h (.setCursor cursor))
    (choice : ∀ cursor, call ≠ .setCursor cursor) :
    t.view = s.view ∧ t.seat.input = s.seat.input := by
  cases s.special_of_call taken special with
  | chosen cursor => exact absurd rfl (choice cursor)
  | shown h cursor => exact absurd rfl (own h cursor)
  | destroyed cursor =>
      refine ⟨?_, rfl⟩
      have same : s.seat.realizer.forget cursor = s.seat.realizer := by
        rw [table]
        rfl
      unfold destroyCursor
      rw [same]
  | ignored | heard => exact ⟨rfl, rfl⟩
  | ruled => exact ⟨view_of_face (face_tell _ rfl) rfl, rfl⟩

theorem Watched.roomy {n : Nat} (watched : Watched cursors 0 s)
    (room : s.env.nextHandle.toNat + 2 * n < UInt64.size) : Watched cursors n s :=
  ⟨{ watched.tidy with room }, watched.surfaced⟩

/-- A call other than a choice takes no window out of step, and shows the current cursor where the pointer
comes to, unless it recalls the pointer. -/
theorem call_keeps (watched : Watched cursors 0 s) (ok : s.Permitted (.turn (.call call)))
    (choice : ∀ cursor, call ≠ .setCursor cursor) (taken : s.call? call = some t) :
    Watched cursors 0 t ∧ (∀ w, s.view.KeepsStep w → t.view.KeepsStep w) ∧
      (s.view.Greeted t.view ∨ ¬ call.Roams ∧ s.view.Recalled t.view) := by
  obtain ⟨own, -, room⟩ := ok
  by_cases ordinary : call.IsOrdinary
  · have doings := s.doings_licence taken ordinary
    have roomy := watched.roomy room
    obtain ⟨watched, keeps⟩ := doings.view_preserves
      (Q := fun v => ∀ w, s.view.KeepsStep w → v.KeepsStep w)
      (fun change tidy hq w hs => change.keepsStep tidy (hq w hs)) roomy fun _ hs => hs
    refine ⟨watched, keeps, ?_⟩
    by_cases roams : call.Roams
    · have steady : ¬ (call.licence.asked ∨ call.licence.direct) := by
        rintro (asked | ⟨h, rfl⟩)
        · cases call <;> first | exact roams | exact asked
        · exact roams
      exact Or.inl (doings.view_preserves (Q := s.view.Greeted)
        (fun change tidy hq => change.greeted steady tidy hq) roomy (.refl s.view)).2
    · obtain ⟨-, recalled | settled⟩ := doings.view_preserves
        (Q := fun v => s.view.Recalled v ∨ s.view.Settled v)
        (fun change tidy hq => change.recalled roams tidy hq) roomy (Or.inr (.refl s.view))
      · exact Or.inr ⟨roams, recalled⟩
      · exact Or.inl settled.1
  · obtain ⟨view, input⟩ := view_special watched.tidy.table taken ordinary own choice
    refine ⟨⟨by rw [view]; exact watched.tidy, ?_⟩, by rw [view]; exact fun _ hs => hs,
      Or.inl (by rw [view]; exact .refl s.view)⟩
    exact watched.surfaced.of_eq (by rw [input]) (by rw [input])

theorem change_keeps (watched : Watched cursors 0 s) {env : Environment}
    (outlook : env.outlook = s.env.outlook) (grown : s.env.nextHandle ≤ env.nextHandle) :
    Watched cursors 0 { s with env } ∧ (∀ w, s.view.KeepsStep w → ({ s with env } : Scene).view.KeepsStep w) ∧
      ({ s with env } : Scene).view.under = s.view.under := by
  have view : ({ s with env } : Scene).view = { s.view with nextHandle := env.nextHandle } := by
    rw [view_eq, outlook]
    rfl
  refine ⟨⟨?_, watched.surfaced⟩, fun w hs => ?_, ?_⟩
  · rw [view]
    exact watched.tidy.grow (UInt64.le_iff_toNat_le.mp grown) env.nextHandle.toNat_lt
  · rw [view]
    exact hs.imp_left fun step => step.congr rfl rfl id
  · rw [view]
    rfl

theorem deliver_keeps (watched : Watched cursors 0 s) (taken : s.step? .deliver = some t) :
    Watched cursors 0 t ∧ (∀ w, s.view.KeepsStep w → t.view.KeepsStep w) ∧ t.view.under = s.view.under := by
  obtain ⟨⟨p, left⟩, first, rfl⟩ := Option.map_eq_some_iff.mp taken
  have carried : s.view.carried = p :: left.filterMap Delivered.carried? := carried_of_first first
  have view : (s.deliverCarried p left).view = _ :=
    s.view_deliverCarried watched.surfaced watched.tidy.named_capture
  have quiet := Scene.quiet_defineCursor
    { s with env := s.env.note fun j => { j with messages := left } } p.1 p.2
  dsimp only
  rw [view]
  refine ⟨⟨by rw [view]; exact watched.tidy.delivered carried,
    watched.surfaced.of_eq quiet.clip quiet.captureSurface⟩, fun w hs => ?_, s.view.under_delivered p _⟩
  exact hs.delivered watched.tidy.table carried

theorem capture_iff {h : Handle} : s.view.capture = some h ↔
    s.seat.input.isClipping = true ∧ s.seat.input.captureWindow = h := by
  simp only [view, Face.view, InputState.isClipping, InputState.captureWindow]
  cases s.seat.input.clip <;> simp

theorem recalls_of_view (stays : ¬ call.Roams) (recalled : s.view.Recalled t.view) :
    s.Recalls (.turn (.call call)) t := by
  obtain ⟨h, first, again, away, above⟩ := recalled
  obtain ⟨held, rfl⟩ := capture_iff.mp first
  obtain ⟨still, same⟩ := capture_iff.mp again
  exact ⟨stays, held, still, same, away, above.trans same.symm⟩

/-- No step takes a window out of step, but for a choice of a cursor while the pointer is elsewhere. -/
theorem step_keeps (watched : Watched cursors 0 s) (ok : s.Permitted step) (taken : s.step? step = some t) :
    Watched cursors 0 t ∧ ∀ w, (∀ cursor, step = .turn (.call (.setCursor cursor)) → s.under? = some w) →
      s.view.KeepsStep w → t.view.KeepsStep w := by
  cases step with
  | turn turn =>
      cases turn with
      | call call =>
          by_cases choice : ∃ cursor, call = .setCursor cursor
          · obtain ⟨cursor, rfl⟩ := choice
            cases taken
            obtain ⟨watched', -, told⟩ := watched.setCursor (ok.2.1 cursor rfl)
            refine ⟨watched', fun w attends hs => Or.inl ?_⟩
            have hovers : s.view.under = some w := watched.under?.symm.trans (attends cursor rfl)
            rcases told w hovers with step | ⟨-, kept⟩
            · exact step
            · exact kept (hs.inStep watched.tidy hovers)
          · obtain ⟨watched, keeps, -⟩ := call_keeps watched ok (fun cursor eq => choice ⟨cursor, eq⟩) taken
            exact ⟨watched, fun w _ => keeps w⟩
      | change env =>
          cases taken
          obtain ⟨watched, keeps, -⟩ := change_keeps watched ok.1 ok.2
          exact ⟨watched, fun w _ => keeps w⟩
  | deliver =>
      obtain ⟨watched, keeps, -⟩ := deliver_keeps watched taken
      exact ⟨watched, fun w _ => keeps w⟩

/-- Where the pointer comes to, the current cursor is shown, unless the pointer is recalled. -/
theorem step_greets (watched : Watched cursors 0 s) (ok : s.Permitted step) (taken : s.step? step = some t)
    (unrecalled : ¬ s.Recalls step t) : s.view.Greeted t.view := by
  have still : t.view.under = s.view.under → s.view.Greeted t.view :=
    fun same w hovers => Or.inl (same.symm.trans hovers)
  cases step with
  | turn turn =>
      cases turn with
      | call call =>
          by_cases choice : ∃ cursor, call = .setCursor cursor
          · obtain ⟨cursor, rfl⟩ := choice
            cases taken
            exact still (watched.setCursor (ok.2.1 cursor rfl)).2.1
          · obtain ⟨-, -, greeted | ⟨stays, recalled⟩⟩ :=
              call_keeps watched ok (fun cursor eq => choice ⟨cursor, eq⟩) taken
            · exact greeted
            · exact absurd (recalls_of_view stays recalled) unrecalled
      | change env =>
          cases taken
          exact still (change_keeps watched ok.1 ok.2).2.2
  | deliver => exact still (deliver_keeps watched taken).2.2

/-- A host window that comes into step is in step. -/
theorem step_syncs (watched : Watched cursors 0 s) (ok : s.Permitted step) (taken : s.step? step = some t)
    (syncs : Syncs s step t w) : t.view.InStep w := by
  obtain ⟨watched', -⟩ := step_keeps watched ok taken
  cases syncs with
  | @told cursor chosen sent hovers =>
      subst chosen
      cases taken
      obtain ⟨-, same, told⟩ := watched.setCursor (ok.2.1 cursor rfl)
      rw [watched'.under?, same] at hovers
      rcases told w hovers with step | ⟨silent, -⟩
      · exact step
      · rw [silent] at sent
        exact absurd sent (Nat.lt_irrefl _)
  | came away hovers clear unrecalled =>
      rw [watched'.bound] at clear
      have reached := step_greets watched ok taken unrecalled w (watched'.under?.symm.trans hovers)
      refine ⟨fun p last => ?_, fun _ => reached.resolve_left ?_⟩
      · rw [clear] at last
        cases last
      · rwa [← watched.under?]

theorem Track.watched (outset : Outset cursors start)
    (track : Track (fun s step _ => s.Permitted step) start s) : Watched cursors 0 s := by
  induction track with
  | start => exact outset.watched
  | step _ ok taken ih => exact (step_keeps ih ok taken).1

/-- Along an orderly run the host window under the pointer is in step. -/
theorem Track.inStep (outset : Outset cursors start) (track : Track Orderly start s) :
    Watched cursors 0 s ∧ ∀ w, s.under? = some w → s.view.InStep w := by
  induction track with
  | start =>
      refine ⟨outset.watched, fun w hovers => ?_⟩
      rw [outset.watched.under?, outset.under_eq_none] at hovers
      cases hovers
  | @step s t step _ ok taken ih =>
      obtain ⟨watched, inStep⟩ := ih
      obtain ⟨watched', keeps⟩ := step_keeps watched ok.permitted taken
      refine ⟨watched', fun w hovers => ?_⟩
      by_cases there : s.under? = some w
      · have kept := keeps w (fun _ _ => there) (Or.inl (inStep w there))
        exact kept.inStep watched'.tidy (watched'.under?.symm.trans hovers)
      · exact step_syncs watched ok.permitted taken (.came there hovers (ok.prompt w hovers there) ok.unrecalled)

/-- A host window that is attended keeps step. -/
theorem Track.keepsStep (watched : Watched cursors 0 s) (hs : s.view.KeepsStep w)
    (track : Track (Attends w) s t) : Watched cursors 0 t ∧ t.view.KeepsStep w := by
  induction track with
  | start => exact ⟨watched, hs⟩
  | step _ ok taken ih =>
      obtain ⟨watched, hs⟩ := ih
      obtain ⟨watched, keeps⟩ := step_keeps watched ok.1 taken
      exact ⟨watched, keeps w ok.2 hs⟩

/-- Along a run in which the pointer comes to a host window only while no cursor is on its way there, and
is recalled to no clip, the host window under the pointer is always in step: the last cursor on its way to it
is the one of the process, and without one it shows that. On any other run a host window is in step when the
pointer is over it as well, from a step on that brings it into step, until a cursor is chosen while the
pointer is elsewhere. -/
theorem cursor_converges (outset : Outset cursors start) :
    (∀ s, Track Orderly start s → ∀ w, s.under? = some w → s.InStep w) ∧
    (∀ s step t u w, Track (fun s step _ => s.Permitted step) start s → s.Permitted step →
      s.step? step = some t → Syncs s step t w → Track (Attends w) t u → u.under? = some w →
      u.InStep w) := by
  constructor
  · intro s track w hovers
    obtain ⟨watched, inStep⟩ := track.inStep outset
    exact watched.inStep (inStep w hovers)
  · intro s step t u w track ok taken syncs attended hovers
    have watched := track.watched outset
    have synced := step_syncs watched ok taken syncs
    obtain ⟨watched, keeps⟩ := Track.keepsStep (step_keeps watched ok taken).1 (Or.inl synced) attended
    exact watched.inStep (keeps.inStep watched.tidy (watched.under?.symm.trans hovers))

/-- Choices of a cursor, moves of the pointer, clips and their ends, and deliveries. -/
def Step.IsPlain : Step → Prop
  | .turn (.call (.setCursor (some _))) | .turn (.call (.clipCursor _)) | .turn (.call .resetClipping)
  | .deliver => True
  | .turn (.call (.dispatch event)) => ∃ e, event.kind = .motion e
  | .turn _ => False

def twoWindows : Scene :=
  let s := alone ⟨0, 0, 1920, 1080⟩
  let env := (s.env.createWindow WindowStyle.visible ⟨0, 0, 800, 600⟩).1
  let env := (env.createWindow WindowStyle.visible ⟨800, 0, 1600, 600⟩).1
  { seat := { s.seat with realizer := .table (.ofList [(⟨7⟩, ⟨51⟩), (⟨8⟩, ⟨68⟩)]) }, env }

theorem outset_twoWindows : Outset (.ofList [(⟨7⟩, ⟨51⟩), (⟨8⟩, ⟨68⟩)]) twoWindows where
  input := rfl
  tracker := rfl
  realizer := rfl
  idle := rfl
  furnished := ⟨by decide, by decide⟩

def pointed (s : Scene) (w : HostWindow) : Scene :=
  (s.dispatch { serial := ⟨0⟩, window := w, kind := .motion { position := ⟨5, 5⟩ } }).1

def crossed : Scene := ((twoWindows.pointed ⟨0x04000001⟩).setCursor (some ⟨7⟩)).pointed ⟨0x04000002⟩

theorem permitted_setCursor {c : CursorId} (named : c.id ≠ 0)
    (room : s.env.nextHandle.toNat + 2 * s.appetite < UInt64.size) :
    s.Permitted (.turn (.call (.setCursor (some c)))) := by
  refine ⟨nofun, ?_, room⟩
  rintro cursor ⟨⟩
  simp [CursorTracker.choice, named]

theorem prompt_of_idle (idle : t.env.outlook.carried = []) : s.Prompt t := by
  intro w _ _
  simp [bound, idle]

theorem prompt_of_still (still : t.under? = s.under?) : s.Prompt t :=
  fun _ hovers away => absurd (still.symm.trans hovers) away

theorem not_recalls_of_free (free : s.seat.input.isClipping = false) : ¬ s.Recalls step t := by
  unfold Recalls
  split <;> simp [free]

theorem track_crossed : Track (fun s step t => s.Orderly step t ∧ step.IsPlain) twoWindows crossed := by
  have came : Track (fun s step t => s.Orderly step t ∧ step.IsPlain) twoWindows
      (twoWindows.pointed ⟨0x04000001⟩) :=
    Track.start.andCall (.dispatch _)
      ⟨⟨⟨nofun, nofun, by decide⟩, prompt_of_idle rfl, not_recalls_of_free (by decide)⟩, _, rfl⟩ rfl
  have chose := came.andCall (.setCursor (some ⟨7⟩))
    ⟨⟨permitted_setCursor (by decide) (by decide), prompt_of_still (by decide),
      not_recalls_of_free (by decide)⟩, trivial⟩ rfl
  refine chose.andCall (.dispatch _)
    ⟨⟨⟨nofun, nofun, by decide⟩, ?_, not_recalls_of_free (by decide)⟩, _, rfl⟩ rfl
  intro w hovers _
  obtain rfl : ⟨0x04000002⟩ = w := Option.some.inj ((by decide : crossed.under? = _).symm.trans hovers)
  decide

/-- Another cursor was chosen since, and the message for the window that the pointer left was delivered. -/
def chosenAgain : Scene :=
  let s := crossed.setCursor (some ⟨8⟩)
  s.deliverCarried (⟨0x20000⟩, some ⟨7⟩) (s.env.journal.messages.drop 1)

/-- Another cursor was chosen since, and the pointer came back to the window that it had left. -/
def returned : Scene := (crossed.setCursor (some ⟨8⟩)).pointed ⟨0x04000001⟩

theorem track_chosen : Track (fun s step t => s.Orderly step t ∧ step.IsPlain) twoWindows
    (crossed.setCursor (some ⟨8⟩)) :=
  track_crossed.andCall (.setCursor (some ⟨8⟩)) ⟨⟨permitted_setCursor (by decide) (by decide),
    prompt_of_still (by decide), not_recalls_of_free (by decide)⟩, trivial⟩ rfl

theorem permitted_returned : (crossed.setCursor (some ⟨8⟩)).Permitted (.turn (.call (.dispatch
    { serial := ⟨0⟩, window := ⟨0x04000001⟩, kind := .motion { position := ⟨5, 5⟩ } }))) :=
  ⟨nofun, nofun, by decide⟩

/-- The message for the window that the pointer left does no harm to the one where the pointer is, which is told
of the current cursor last. If the pointer comes back and no cursor is chosen any more, the older one that is
delivered then is followed by that choice. -/
theorem chosenAgain_in_step :
    let hidden := returned.setCursor none
    let later := hidden.deliverCarried (⟨0x20000⟩, some ⟨7⟩) (hidden.env.journal.messages.drop 1)
    (chosenAgain.InStep ⟨0x04000002⟩ ∧ chosenAgain.bound ⟨0x04000002⟩ = [(⟨0x20002⟩, some ⟨8⟩)]) ∧
      later.InStep ⟨0x04000001⟩ ∧ later.bound ⟨0x04000001⟩ = [(⟨0x20000⟩, none)] := by
  intro hidden later
  obtain ⟨orderly, synced⟩ := cursor_converges outset_twoWindows
  have missed : Track Orderly twoWindows chosenAgain :=
    (track_chosen.mono fun _ _ _ ok => ok.1).andDeliver ⟨trivial, prompt_of_still (by decide), id⟩ rfl
  have back : Track (fun s step _ => s.Permitted step) twoWindows returned :=
    (track_chosen.mono fun _ _ _ ok => ok.1.permitted).andCall (.dispatch _) permitted_returned rfl
  have choice : returned.Permitted (.turn (.call (.setCursor none))) := by
    refine ⟨nofun, ?_, by decide⟩
    rintro cursor ⟨⟩
    rfl
  have told : Syncs returned (.turn (.call (.setCursor none))) hidden ⟨0x04000001⟩ :=
    .told rfl (by decide) (by decide)
  have attended : Track (Attends ⟨0x04000001⟩) hidden later := Track.start.andDeliver ⟨trivial, nofun⟩ rfl
  exact ⟨⟨orderly chosenAgain missed _ (by decide), by decide⟩,
    synced _ _ _ _ _ back choice rfl told attended (by decide), by decide⟩

/-- Along every run with steps of a kind, the window under the pointer shows the cursor of the process
whenever no cursor is on its way. -/
def Converges (allowed : Scene → Step → Scene → Prop) : Prop :=
  ∀ (cursors : OrderedMap CursorId HostCursor) (start s : Scene), Outset cursors start →
    Track allowed start s → s.env.outlook.carried = [] →
    ∀ w, s.under? = some w → s.display.Shows w

theorem Converges.mono {allowed more : Scene → Step → Scene → Prop} (h : Converges more)
    (weaker : ∀ s step t, allowed s step t → more s step t) : Converges allowed :=
  fun cursors start s outset track => h cursors start s outset (track.mono weaker)

/-- Not along every run does the cursor that is seen become the current one: a cursor may be on its way to
a window when the pointer comes back to it, and the pointer may be recalled to a clip. -/
theorem not_converges : ¬ Converges (fun s step _ => s.Permitted step ∧ step.IsPlain) ∧
    ¬ Converges (fun s step t => s.Permitted step ∧ step.IsPlain ∧ ¬ s.Recalls step t) ∧
    ¬ Converges (fun s step t => s.Permitted step ∧ step.IsPlain ∧ s.Prompt t) := by
  have late : ¬ Converges (fun s step t => s.Permitted step ∧ step.IsPlain ∧ ¬ s.Recalls step t) := by
    intro converges
    -- the pointer comes back to the window to which the older cursor is still on its way
    have track := track_chosen.mono fun _ _ _ ok => And.intro ok.1.permitted (And.intro ok.2 ok.1.unrecalled)
    have returned := track.andCall (.dispatch _)
      ⟨permitted_returned, ⟨_, rfl⟩, not_recalls_of_free (by decide)⟩ rfl
    have delivered := (returned.andDeliver ⟨trivial, trivial, id⟩ rfl).andDeliver ⟨trivial, trivial, id⟩ rfl
    have wrong := converges _ _ _ outset_twoWindows delivered rfl ⟨0x04000001⟩ (by decide)
    exact absurd wrong (by decide)
  refine ⟨fun converges => late (converges.mono fun _ _ _ ok => ⟨ok.1, ok.2.1⟩), late, fun converges => ?_⟩
  -- a cursor is chosen while the pointer is beside the clip, which then gets another rectangle
  have clipped : Track (fun s step t => s.Permitted step ∧ step.IsPlain ∧ s.Prompt t) twoWindows
      (twoWindows.clipCursor (some ⟨0, 0, 800, 600⟩)) :=
    Track.start.andCall (.clipCursor _) ⟨⟨nofun, nofun, by decide⟩, trivial, prompt_of_idle rfl⟩ rfl
  have left := clipped.andCall (.dispatch _) ⟨⟨nofun, nofun, by decide⟩, ⟨_, rfl⟩, prompt_of_idle rfl⟩
    (rfl : _ = some ((twoWindows.clipCursor (some ⟨0, 0, 800, 600⟩)).pointed ⟨0x04000001⟩))
  have chose := left.andCall (.setCursor (some ⟨7⟩))
    ⟨permitted_setCursor (by decide) (by decide), trivial, prompt_of_still (by decide)⟩ rfl
  have told := chose.andDeliver ⟨trivial, trivial, prompt_of_idle rfl⟩ rfl
  have recalled := told.andCall (.clipCursor (some ⟨0, 0, 400, 300⟩))
    ⟨⟨nofun, nofun, by decide⟩, trivial, prompt_of_idle rfl⟩ rfl
  have wrong := converges _ _ _ outset_twoWindows recalled rfl ⟨0x04000003⟩ (by decide)
  exact absurd wrong (by decide)

end Scene

end GuestSeat
