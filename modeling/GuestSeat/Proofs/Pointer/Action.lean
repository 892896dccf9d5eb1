import GuestSeat.Proofs.Seat.Unclaimed

/-!
Pointer events while there is a clip. What such an event may tell the guest is an action, which goes either to
the capture surface or to a guest window. In neither case does anything that a clip rests on change: a press
does not confine a pointer that is confined already.
-/

namespace GuestSeat

def EventRecord.action? (event : EventRecord) : Option Scene.PointerAction :=
  match event.kind with
  | .button e => (buttonInput e.button e.pressed).map fun input =>
    { host := event.window, position := e.position, flags := input.1, data := input.2, time := e.time }
  | .motion e => some { host := event.window, position := e.position, flags := MouseFlags.move, time := e.time }
  | .enter e =>
    if e.detail = .virtual then none
    else some { host := event.window, position := e.position, flags := MouseFlags.move, time := e.time }
  | _ => none

namespace Scene

/-- The kinds of events that come from the pointer and the keyboard. -/
def inputTags : List EventTag := [.motion, .enter, .key, .button, .rawMotion]

variable {s : Scene} {event : EventRecord} {a : PointerAction} {h : Handle}

theorem host_of_action (about : event.action? = some a) : a.host = event.window := by
  unfold EventRecord.action? at about
  split at about
  · obtain ⟨input, -, rfl⟩ := Option.map_eq_some_iff.mp about
    rfl
  · cases about
    rfl
  · split at about
    · cases about
    · cases about
      rfl
  · cases about

/-- A move of the pointer is checked against the fence first, a press is not. -/
theorem handle_of_action (about : event.action? = some a) (s : Scene) (h : Handle) :
    s.handle h event = if tellsOfMove event then s.moveTo h event.serial a else s.sendMouse h a := by
  unfold EventRecord.action? at about
  unfold handle tellsOfMove
  cases kind : event.kind with
  | button e =>
      rw [kind] at about
      obtain ⟨input, known, rfl⟩ := Option.map_eq_some_iff.mp about
      simp only [button, known]
      rfl
  | motion e =>
      rw [kind] at about
      cases about
      rfl
  | enter e =>
      rw [kind] at about
      dsimp only at about ⊢
      unfold enter
      split at about
      · cases about
      · next real =>
          cases about
          simp [real]
  | _ =>
      rw [kind] at about
      cases about

/-- Without a guest window, a move that the fence holds back is dropped, and any other goes to the capture surface. -/
theorem handle_null_of_action (about : event.action? = some a) (moves : tellsOfMove event = true) (s : Scene) :
    s.handle Handle.null event =
      if s.seat.input.warpFence.holdsBack event.serial then (s, false) else s.warped.captureMouse a := by
  rw [handle_of_action about, if_pos moves, moveTo_of_null]

/-- What the handler of an event comes to is what the event comes to, but for the event on record. -/
theorem dispatch_of_handled {answer : Scene × Bool}
    (handled : (s.receiving event).handle (target s.env event) event = answer) : s.dispatch event =
      (answer.1.edit fun i => { i with inFlight := s.seat.input.inFlight }, answer.2) :=
  congrArg (fun answer : Scene × Bool =>
    (answer.1.edit fun i => { i with inFlight := s.seat.input.inFlight }, answer.2)) handled

theorem action_of_tellsOfMove (moves : tellsOfMove event = true) : ∃ a, event.action? = some a := by
  unfold EventRecord.action?
  cases kind : event.kind with
  | motion e => exact ⟨_, rfl⟩
  | enter e =>
      have real : e.detail ≠ .virtual := by simpa [tellsOfMove, kind] using moves
      exact ⟨_, if_neg real⟩
  | _ => simp [tellsOfMove, kind] at moves

/-- An event from the pointer or the keyboard without an action is a key, raw motion or of no interest. -/
theorem input_cases (input : event.tag ∈ inputTags) :
    (∃ a, event.action? = some a) ∨ (∃ e, event.kind = .key e) ∨
      (∃ raw, event.kind = .generic (.rawMotion raw)) ∨ ∀ (s : Scene) h, s.handle h event = (s, false) := by
  unfold EventRecord.tag at input
  unfold handle EventRecord.action?
  cases kind : event.kind with
  | key e => exact .inr (.inl ⟨e, rfl⟩)
  | button e =>
      cases known : buttonInput e.button e.pressed with
      | some told => exact .inl ⟨_, Option.map_eq_some_iff.mpr ⟨told, known, rfl⟩⟩
      | none =>
          refine .inr (.inr (.inr fun s h => ?_))
          simp only [button, known]
  | motion e => exact .inl ⟨_, rfl⟩
  | enter e =>
      by_cases passing : e.detail = .virtual
      · refine .inr (.inr (.inr fun s h => ?_))
        simp only [enter, if_pos passing]
      · exact .inl ⟨_, if_neg passing⟩
  | generic e =>
      cases e with
      | rawMotion raw => exact .inr (.inr (.inl ⟨raw, rfl⟩))
      | _ => simp [kind, EventKind.tag, inputTags] at input
  | _ => simp [kind, EventKind.tag, inputTags] at input

/-- A visit makes the tracker follow the pointer and may show the cursor. -/
theorem visit_cases (s : Scene) (h : Handle) (host : Option HostWindow) : ∃ tracker realizer env,
    s.visit h host = { seat := { s.seat with tracker, realizer }, env } ∧
      (env = s.env ∨ ∃ request, env = s.env.request request) := by
  unfold visit
  split
  · next w _ _ =>
      unfold syncCursor showCursor realize
      cases (s.enterWindow h).1.seat.tracker.cursor with
      | none => exact ⟨_, _, _, rfl, .inr ⟨_, rfl⟩⟩
      | some cursor => exact ⟨_, _, _, rfl, .inr ⟨_, rfl⟩⟩
  · exact ⟨_, s.seat.realizer, _, rfl, .inl rfl⟩

/-- Where there is a clip already, a press asks for none. -/
theorem pressAutoClip_of_clipping (clipping : s.seat.input.isClipping = true) (h : Handle)
    (flags : MouseFlags) : s.pressAutoClip h flags = s := by
  have declined : ∀ top, s.clipFullscreen top false = (s, false) := by
    intro top
    unfold clipFullscreen
    rw [clipping, Bool.or_true]
    split <;> rfl
  unfold pressAutoClip
  dsimp only
  split
  · split
    · rw [declined]
    · rfl
  · rfl

/-- An action on the capture surface counts while there is a clip. -/
theorem captureMouse_on {region : ClipRegion} (held : s.seat.input.clip = some region)
    (surface : s.seat.input.captureSurface = some a.host) :
    s.captureMouse a = ((s.visit region.captureWindow (some a.host)).feedMouse Handle.null
      (capturePlace s.env.map region a.position) a, true) := by
  unfold captureMouse
  rw [held, surface, visit_some]
  simp

theorem inputs_captureMouse {region : ClipRegion} (held : s.seat.input.clip = some region)
    (surface : s.seat.input.captureSurface = some a.host) :
    (s.captureMouse a).1.env.journal.inputs = s.env.journal.inputs ++ [(Handle.null,
      .mouse (MouseInput.placed (capturePlace s.env.map region a.position) a.flags a.data a.time))] := by
  rw [captureMouse_on held surface]
  obtain ⟨tracker, realizer, env, visited, rfl | ⟨request, rfl⟩⟩ :=
    s.visit_cases region.captureWindow (some a.host) <;> rw [visited] <;> rfl

/-- An action on a guest window counts if the window is known. -/
theorem windowMouse_of_clipping {info : WindowInfo} (clipping : s.seat.input.isClipping = true)
    (known : s.env.info? h = some info) : s.windowMouse h a =
      ((s.visit h info.host).feedMouse h (windowPlace s.env info a.host a.position) a, true) := by
  have still : (s.visit h info.host).seat.input.isClipping = true := by
    obtain ⟨tracker, realizer, env, visited, -⟩ := s.visit_cases h info.host
    rw [visited]
    exact clipping
  have pressed := pressAutoClip_of_clipping still h a.flags
  unfold windowMouse
  rw [known]
  dsimp only
  exact congrArg (fun u : Scene => (u.feedMouse h (windowPlace s.env info a.host a.position) a, true)) pressed

theorem inputs_windowMouse {info : WindowInfo} (clipping : s.seat.input.isClipping = true)
    (known : s.env.info? h = some info) :
    (s.windowMouse h a).1.env.journal.inputs = s.env.journal.inputs ++ [(h,
      .mouse (MouseInput.placed (windowPlace s.env info a.host a.position) a.flags a.data a.time))] := by
  rw [windowMouse_of_clipping clipping known]
  obtain ⟨tracker, realizer, env, visited, rfl | ⟨request, rfl⟩⟩ := s.visit_cases h info.host <;>
    rw [visited] <;> rfl

end Scene
end GuestSeat
