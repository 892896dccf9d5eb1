import GuestSeat.Proofs.Clip.Run

/-!
The host's view of a clip. All that the host knows of one are the requests that it was sent, so what it
shows is found by replaying their log. The grab, the capture surface and the place of that surface agree
with the clip of the seat at every moment of a run.
-/

namespace GuestSeat

/-- What a log of requests did to the grab of the pointer and to the windows of the host. -/
structure HostView where
  grabbed : Option HostWindow := none
  mapped : HostWindow → Bool := fun _ => false
  area : HostWindow → Option Rect := fun _ => none

namespace HostView

def after (v : HostView) : HostRequest → HostView
  | .grabPointer w => { v with grabbed := some w }
  | .ungrabPointer => { v with grabbed := none }
  | .map w => { v with mapped := Function.update v.mapped w true }
  | .unmap w => { v with mapped := Function.update v.mapped w false }
  | .moveResize w rect => { v with area := Function.update v.area w (some rect) }
  | _ => v

/-- The view after a whole log, from a host that has been asked for nothing. -/
def replay (log : List HostRequest) : HostView := log.foldl after {}

theorem replay_append (log more : List HostRequest) :
    replay (log ++ more) = more.foldl after (replay log) := by
  simp [replay]

theorem after_of_not_clipWork (v : HostView) {r : HostRequest} (hr : r.isClipWork = false) :
    v.after r = v := by
  cases r <;> first | rfl | cases hr

/-- Requests that are no work on a clip do not show. -/
theorem replay_of_appends {log log' : List HostRequest}
    (h : Appends (fun r => r.isClipWork = false) log log') : replay log' = replay log := by
  obtain ⟨added, rfl, hadded⟩ := h
  rw [replay_append]
  induction added generalizing log with
  | nil => rfl
  | cons r rest ih =>
      have hr := after_of_not_clipWork (replay log) (hadded r (by simp))
      simp only [List.foldl_cons, hr]
      exact ih fun a member => hadded a (by simp [member])

end HostView

namespace Standing

variable (st : Standing)

def view : HostView := HostView.replay st.requests

@[simp] theorem view_doing (work : List HostRequest) :
    (st.doing work).view = work.foldl HostView.after st.view :=
  HostView.replay_append st.requests work

@[simp] theorem view_withWindow (thread : ThreadId) : (st.withWindow thread).view = st.view := rfl

@[simp] theorem view_withoutWindow (h : Handle) : (st.withoutWindow h).view = st.view := rfl

@[simp] theorem view_asked (status : RawStatus) : (st.asked status).view = st.view := by
  refine (st.view_doing st.asking).trans ?_
  unfold asking
  split <;> rfl

@[simp] theorem view_withoutRaw : st.withoutRaw.view = st.view := by
  refine (st.view_doing st.unasking).trans ?_
  unfold unasking
  split <;> rfl

theorem view_reporting (source target : Handle) : (st.reporting source target).view = st.view := rfl

@[simp] theorem view_withClip (clip : Option ClipRegion) : { st with clip }.view = st.view := rfl

/-- The host shows the clip as the seat has it, and no surface without a clip. -/
structure Mirrored (map : CoordinateMap) : Prop where
  surfaced : st.clip.isSome → st.surface.isSome
  grabbed : st.view.grabbed = if st.clip.isSome then st.surface else none
  mapped : ∀ w, st.view.mapped w = (st.clip.isSome && st.surface == some w)
  area : ∀ w region, st.surface = some w → st.clip = some region →
    st.view.area w = some (map.rectToRoot region.rect).atLeastUnit

/-- A clip that ends takes the grab and the surface with it. -/
theorem mirrored_closed {w : HostWindow} (map : CoordinateMap) (surface : st.surface = some w)
    (tries : List HostRequest)
    (others : ∀ w' ≠ w, (tries.foldl HostView.after st.view).mapped w' = false) (gone : Handle) :
    (st.closed tries gone).Mirrored map := by
  have view : (st.closed tries gone).view =
      { tries.foldl HostView.after st.view with
        grabbed := none
        mapped := Function.update (tries.foldl HostView.after st.view).mapped w false } := by
    have replayed : (st.closed tries gone).view =
        (tries ++ HostRequest.ungrabPointer :: st.surface.toList.map HostRequest.unmap).foldl
          HostView.after st.view :=
      (view_withoutRaw _).trans (view_doing _ _)
    rw [replayed, surface]
    simp [HostView.after]
  refine ⟨by simp [Standing.closed, withoutRaw, withoutWindow, doing], ?_, ?_, ?_⟩
  · rw [view]
    rfl
  · intro w'
    have unclipped : (st.closed tries gone).clip = none := rfl
    rw [view, unclipped]
    by_cases same : w' = w
    · simp [same]
    · simp [same, others w' same]
  · intro w' region _ clip
    cases clip

namespace Mirrored

variable {st st' : Standing} {map : CoordinateMap} {w : HostWindow}

theorem congr (h : st.Mirrored map) (clip : st'.clip = st.clip)
    (surface : st'.surface = st.surface) (view : st'.view = st.view) : st'.Mirrored map where
  surfaced := by rw [clip, surface]; exact h.surfaced
  grabbed := by rw [clip, surface, view]; exact h.grabbed
  mapped := by rw [clip, surface, view]; exact h.mapped
  area := by rw [clip, surface, view]; exact h.area

/-- No window but the capture surface is ever mapped. -/
theorem unmapped (h : st.Mirrored map) (surface : st.surface = some w) {w' : HostWindow}
    (other : w' ≠ w) : st.view.mapped w' = false := by
  simp [h.mapped, surface, other.symm]

/-- A granted grab shows the new area, whatever was shown before. -/
theorem granted (h : st.Mirrored map) (surface : st.surface = some w) {region : ClipRegion}
    (clip : st'.clip = some region) (surface' : st'.surface = some w)
    (view : st'.view = { st.view with
      grabbed := some w
      mapped := Function.update st.view.mapped w true
      area := Function.update st.view.area w (some (map.rectToRoot region.rect).atLeastUnit) }) :
    st'.Mirrored map := by
  refine ⟨by simp [surface'], by simp [view, clip, surface'], ?_, ?_⟩
  · intro w'
    rw [view, clip, surface']
    by_cases same : w' = w
    · simp [same]
    · have other : w ≠ w' := fun eq => same eq.symm
      simp [same, other, h.unmapped surface same]
  · intro w' region' hw hregion
    obtain rfl : w = w' := Option.some.inj (surface'.symm.trans hw)
    obtain rfl : region = region' := Option.some.inj (clip.symm.trans hregion)
    simp [view]

end Mirrored

end Standing

namespace Scene

variable {R : Permit} {n : Nat} {s t : Scene}

theorem Quiet.view (h : s.Quiet t) : t.standing.view = s.standing.view :=
  HostView.replay_of_appends h.env.requests

/-- Whatever becomes of a clip, the host shows it as it is. -/
theorem Outcome.mirrored (h : Outcome R n s t) (hs : s.standing.Mirrored s.env.map) :
    t.standing.Mirrored t.env.map := by
  have hmap : t.env.map = s.env.map := congrArg (fun g : Ground => g.map) h.ground
  rw [hmap]
  cases h with
  | quiet h => exact hs.congr h.clip h.captureSurface h.view
  | surfaced w ground bare standing =>
      have idle : s.standing.clip.isSome = false := by
        have surfaced := hs.surfaced
        rw [bare] at surfaced
        simpa using surfaced
      rw [standing]
      refine ⟨by simp [idle], ?_, ?_, ?_⟩
      · exact hs.grabbed.trans (by simp [idle])
      · exact fun w' => (hs.mapped w').trans (by simp [idle])
      · intro w' region _ clip
        have clip : s.standing.clip = some region := clip
        simp [clip] at idle
  | declined ground free plain standing =>
      rw [standing]
      exact hs.congr rfl rfl (by simp [Standing.declined])
  | refused w area ground free plain surface standing =>
      rw [standing]
      have prepared : (s.standing.prepared s.env.thread).Mirrored s.env.map :=
        hs.congr rfl rfl (by simp [Standing.prepared])
      -- the surface was shown for the attempt and is put away with it
      refine (s.standing.prepared s.env.thread).mirrored_closed _ surface _ ?_ _
      intro w' other
      have unmapped := prepared.unmapped surface other
      simp [HostView.after, grabWork, other, unmapped]
  | opened w rect kind native hR ground free plain surface standing =>
      rw [standing]
      refine hs.granted surface rfl surface ?_
      simp [Standing.opened, Standing.prepared, Standing.view_reporting, grabWork, HostView.after, Scene.area]
  | moved w rect kind old hR ground held surface standing =>
      rw [standing]
      refine hs.granted surface rfl surface ?_
      simp [Standing.moved, Standing.view_reporting, grabWork, HostView.after, Scene.area]
  | ended tries old report told ground held tried standing =>
      obtain ⟨w, surface⟩ := Option.isSome_iff_exists.mp (hs.surfaced (by simp [held]))
      have closed : (s.standing.closed tries old.captureWindow).Mirrored s.env.map := by
        refine s.standing.mirrored_closed _ surface tries ?_ _
        intro w' other
        have unmapped := hs.unmapped surface other
        -- the clip may end by an attempt to move it, which first shows the surface once more
        rcases tried with rfl | ⟨v, area, hv, rfl⟩
        · exact unmapped
        · obtain rfl : w = v := Option.some.inj (surface.symm.trans hv)
          simp [HostView.after, grabWork, other, unmapped]
      rw [standing]
      cases report with
      | false => exact closed
      | true => exact closed.congr rfl rfl rfl

structure Shown (map : CoordinateMap) (s : Scene) : Prop where
  plain : s.standing.registry = none
  fixed : s.env.map = map
  mirrored : s.standing.Mirrored map

variable {map : CoordinateMap}

theorem Outcome.shown (h : Outcome R n s t) (hs : s.Shown map) : t.Shown map := by
  have hmap : t.env.map = s.env.map := congrArg (fun g : Ground => g.map) h.ground
  refine ⟨h.registry hs.plain, hmap.trans hs.fixed, ?_⟩
  have mirrored := h.mirrored (by rw [hs.fixed]; exact hs.mirrored)
  rwa [hmap, hs.fixed] at mirrored

/-- Every call keeps the host in agreement with the clip. -/
theorem call_shown {call : Call} (ht : s.call? call = some t) (hs : s.Shown map) :
    t.Shown map := by
  obtain ⟨course, -⟩ := s.call_course (R := ⟨fun _ => True, True⟩) ht (fun _ _ _ => trivial)
    trivial (fun _ _ => trivial) (fun _ => trivial) (fun _ _ _ _ => hs.plain)
  refine course.preserves (P := fun _ u => u.Shown map) (fun h hu => h.shown hu) id ?_ 0 hs
  intro n u v standing setting hu
  refine ⟨?_, (congrArg Setting.map setting).trans hu.fixed, ?_⟩
  · rw [standing]
    exact hu.plain
  · rw [standing]
    exact hu.mirrored

/-- Changes of the surroundings keep the coordinate map and ask nothing of the host. -/
def AsksNothing (s : Scene) : Turn → Prop
  | .call _ => True
  | .change env => env.map = s.env.map ∧ env.journal.requests = s.env.journal.requests

theorem Run.shown {start s : Scene} (run : Run AsksNothing start s) (fresh : Fresh start)
    (unasked : start.env.journal.requests = []) : s.Shown start.env.map := by
  refine run.preserves (P := fun u => u.Shown start.env.map) ?_ ?_
  · have unclipped := fresh.clip_eq_none
    have blank : start.standing.view = {} := congrArg HostView.replay unasked
    refine ⟨fresh.registry, rfl, by simp [unclipped], ?_, ?_, ?_⟩
    · simp [blank, unclipped]
    · simp [blank, unclipped]
    · intro w region _ clip
      simp [unclipped] at clip
  · intro u v turn hu ok taken
    cases turn with
    | call call => exact call_shown taken hu
    | change env =>
        cases taken
        exact ⟨hu.plain, ok.1.trans hu.fixed,
          hu.mirrored.congr rfl rfl (congrArg HostView.replay ok.2)⟩

/-- The host mirrors the clip. Replaying the log of requests shows at every moment of a run that the
pointer is grabbed just while the seat clips, and on the capture surface; that this surface is mapped
just then, and no other window ever is; and that it covers the clip's rectangle, with sides of at least
one unit. -/
theorem replay_mirrors_clip {start s : Scene} (run : Run AsksNothing start s) (fresh : Fresh start)
    (unasked : start.env.journal.requests = []) :
    let view := HostView.replay s.env.journal.requests
    let input := s.seat.input
    (view.grabbed = if input.isClipping then input.captureSurface else none) ∧
      (input.isClipping → input.captureSurface.isSome) ∧
      (∀ w, view.mapped w = (input.isClipping && input.captureSurface == some w)) ∧
      ∀ w region, input.captureSurface = some w → input.clip = some region →
        view.area w = some (start.env.map.rectToRoot region.rect).atLeastUnit := by
  have mirrored := (run.shown fresh unasked).mirrored
  exact ⟨mirrored.grabbed, mirrored.surfaced, mirrored.mapped, mirrored.area⟩

/-- The host shows a first clip on the first window that it hands out. -/
theorem replay_mirrors_first_clip :
    let s := (alone ⟨0, 0, 1920, 1080⟩).clipCursor (some ⟨100, 100, 400, 300⟩)
    let view := HostView.replay s.env.journal.requests
    view.grabbed = some ⟨0x04000001⟩ ∧ view.mapped ⟨0x04000001⟩ = true ∧
      view.area ⟨0x04000001⟩ = some ⟨100, 100, 400, 300⟩ := by
  intro s view
  have run : Run AsksNothing (alone ⟨0, 0, 1920, 1080⟩) s :=
    .turn .start (show AsksNothing _ (.call (.clipCursor (some ⟨100, 100, 400, 300⟩))) from trivial) rfl
  obtain ⟨grabbed, -, mapped, area⟩ := replay_mirrors_clip run (fresh_alone _) rfl
  refine ⟨grabbed.trans (by decide), (mapped _).trans (by decide), ?_⟩
  exact (area ⟨0x04000001⟩ ⟨⟨100, 100, 400, 300⟩, ⟨0x20000⟩, .explicit⟩ (by decide) (by decide)).trans
    (by decide)

end Scene

end GuestSeat
