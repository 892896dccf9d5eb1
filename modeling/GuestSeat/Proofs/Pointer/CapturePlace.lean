import GuestSeat.Proofs.Pointer.Action
import GuestSeat.Proofs.Seat.Requests

/-!
Places on the capture surface. The surface is placed in root coordinates, with the origin of the virtual screen taken
off, while events on it are placed with the scale alone. Both come to the same: an event on the surface is given the
place of an event on the root window at the spot where the last request has put the surface, whatever the scale does.
Of the map only the conversions to and from real units are used, as they are.
-/

namespace GuestSeat

def HostRequest.placing? (w : HostWindow) : HostRequest → Option Rect
  | .moveResize v area => if v = w then some area else none
  | _ => none

def EventRecord.movedTo (event : EventRecord) (window : HostWindow) (position : Point) : EventRecord :=
  { event with
    window
    kind :=
      match event.kind with
      | .button e => .button { e with position }
      | .motion e => .motion { e with position }
      | .enter e => .enter { e with position }
      | kind => kind }

namespace Scene

/-- The coordinate map and the area of the last request of a log that placed a host window. -/
def lastPlacement? (w : HostWindow) (log : List Issue) : Option (CoordinateMap × Rect) :=
  (log.filterMap fun issue => (issue.request.placing? w).map fun area => (issue.map, area)).getLast?

variable {s t : Scene}

theorem placements_numbering (s : Scene) (w : HostWindow) (made : List HostRequest) :
    ((s.numbering made).filterMap fun issue => (issue.request.placing? w).map fun area => (issue.map, area)) =
      (made.filterMap (HostRequest.placing? w)).map fun area => (s.env.map, area) := by
  unfold numbering
  rw [List.mapIdx_eq_zipIdx_map, List.filterMap_map, List.map_filterMap]
  conv_rhs => rw [← List.zipIdx_map_fst 0 made, List.filterMap_map]
  rfl

theorem lastPlacement?_numbering (s : Scene) (w : HostWindow) (log : List Issue) (made : List HostRequest) :
    lastPlacement? w (log ++ s.numbering made) =
      (((made.filterMap (HostRequest.placing? w)).getLast?).map fun area => (s.env.map, area)).or
        (lastPlacement? w log) := by
  unfold lastPlacement?
  rw [List.filterMap_append, placements_numbering, List.getLast?_append, List.getLast?_map]

/-- While there is a clip, the last request of the log that placed the capture surface put it over the clip's
rectangle, under the map that was in force then. -/
def Covers (log : List Issue) (s : Scene) : Prop :=
  ∀ region, s.standing.clip = some region → ∃ w map, s.standing.surface = some w ∧
    lastPlacement? w log = some (map, (map.rectToRoot region.rect).atLeastUnit)

namespace Covers

variable {log : List Issue} {made : List HostRequest} {u v : Scene}

theorem of_free (free : s.standing.clip = none) : s.Covers log := by
  intro region held
  rw [free] at held
  cases held

/-- Requests that place nothing leave the surface where it is. -/
theorem append (more : List HostRequest) (covers : u.Covers (log ++ s.numbering made))
    (clip : v.standing.clip = u.standing.clip) (surface : v.standing.surface = u.standing.surface)
    (still : ∀ r ∈ more, ∀ w, r.placing? w = none) : v.Covers (log ++ s.numbering (made ++ more)) := by
  intro region held
  obtain ⟨w, map, known, last⟩ := covers region (clip ▸ held)
  refine ⟨w, map, surface.trans known, ?_⟩
  have none : more.filterMap (HostRequest.placing? w) = [] :=
    List.filterMap_eq_nil_iff.mpr fun r member => still r member w
  rw [lastPlacement?_numbering] at last ⊢
  rwa [List.filterMap_append, none, List.append_nil]

/-- A request that places the surface decides, if it is the last one. -/
theorem placed (w : HostWindow) (region : ClipRegion) (held : v.standing.clip = some region)
    (surface : v.standing.surface = some w) {more : List HostRequest}
    (last : (more.filterMap (HostRequest.placing? w)).getLast? = some (s.area region.rect)) :
    v.Covers (log ++ s.numbering (made ++ more)) := by
  intro other known
  obtain rfl : region = other := Option.some.inj (held.symm.trans known)
  refine ⟨w, s.env.map, surface, ?_⟩
  rw [lastPlacement?_numbering, List.filterMap_append, List.getLast?_append, last]
  rfl

end Covers

/-- The end of a clip adds some requests. -/
theorem requests_closed (st : Standing) (tries : List HostRequest) (gone : Handle) :
    ∃ more, (st.closed tries gone).requests = st.requests ++ more :=
  ⟨_, List.append_assoc st.requests _ _⟩

theorem placings_grabWork (w : HostWindow) (area : Rect) :
    (grabWork w area).filterMap (HostRequest.placing? w) = [area] := by
  simp [grabWork, HostRequest.placing?]

/-- The surface has been kept over the clip since the scene `s`, which the log leads to. -/
def Kept (s : Scene) (log : List Issue) (u : Scene) : Prop :=
  ∃ made, u.standing.requests = s.standing.requests ++ made ∧ u.env.map = s.env.map ∧
    u.Covers (log ++ s.numbering made)

theorem placing?_of_quiet {r : HostRequest} (quiet : r.isClipWork = false) (w : HostWindow) :
    r.placing? w = none := by
  cases r <;> first | rfl | simp [HostRequest.isClipWork] at quiet

namespace Kept

variable {log : List Issue} {more : List HostRequest} {u v : Scene}

theorem ended (hu : s.Kept log u) (map : v.env.map = u.env.map)
    (requests : v.standing.requests = u.standing.requests ++ more) (free : v.standing.clip = none) :
    s.Kept log v := by
  obtain ⟨made, known, still, -⟩ := hu
  exact ⟨made ++ more, by rw [requests, known, List.append_assoc], map.trans still, .of_free free⟩

theorem placed (hu : s.Kept log u) (map : v.env.map = u.env.map)
    (requests : v.standing.requests = u.standing.requests ++ more) (w : HostWindow) (region : ClipRegion)
    (held : v.standing.clip = some region) (surface : v.standing.surface = some w)
    (last : (more.filterMap (HostRequest.placing? w)).getLast? = some (u.area region.rect)) : s.Kept log v := by
  obtain ⟨made, known, still, -⟩ := hu
  have area : u.area region.rect = s.area region.rect := by
    unfold Scene.area
    rw [still]
  exact ⟨made ++ more, by rw [requests, known, List.append_assoc], map.trans still,
    .placed w region held surface (last.trans (congrArg some area))⟩

theorem silent (hu : s.Kept log u) (map : v.env.map = u.env.map)
    (requests : v.standing.requests = u.standing.requests ++ more) (clip : v.standing.clip = u.standing.clip)
    (surface : v.standing.surface = u.standing.surface)
    (still : ∀ r ∈ more, ∀ w, r.placing? w = none) : s.Kept log v := by
  obtain ⟨made, known, same, covers⟩ := hu
  exact ⟨made ++ more, by rw [requests, known, List.append_assoc], map.trans same,
    covers.append more clip surface still⟩

end Kept

/-- Whatever becomes of a clip, the surface is placed where it needs to be. -/
theorem Outcome.kept {R : Permit} {n : Nat} {u v : Scene} {log : List Issue} (outcome : Outcome R n u v)
    (hu : s.Kept log u) : s.Kept log v := by
  have map : v.env.map = u.env.map := congrArg (fun g : Ground => g.map) outcome.ground
  cases outcome with
  | quiet h =>
      obtain ⟨more, added, quiet⟩ := h.env.requests
      exact hu.silent map added h.clip h.captureSurface fun r member w => placing?_of_quiet (quiet r member) w
  | surfaced w ground bare standing =>
      -- without a surface there was no clip
      have free : u.standing.clip = none := by
        rw [Option.eq_none_iff_forall_ne_some]
        intro region held
        obtain ⟨_, _, _, covers⟩ := hu
        obtain ⟨w', -, surface, -⟩ := covers region held
        rw [bare] at surface
        cases surface
      exact hu.ended map (by rw [standing]; exact (List.append_nil _).symm) (by rw [standing]; exact free)
  | declined ground free plain standing =>
      exact hu.ended map (by rw [standing]; rfl) (by rw [standing]; exact free)
  | refused w area ground free plain surface standing =>
      obtain ⟨more, added⟩ := requests_closed (u.standing.prepared u.env.thread) (.unmap w :: grabWork w area)
        u.standing.fresh
      have requests : v.standing.requests = u.standing.requests ++ (u.standing.asking ++ more) := by
        rw [standing, ← List.append_assoc]
        exact added
      exact hu.ended map requests (by rw [standing]; rfl)
  | opened w rect kind native hR ground free plain surface standing =>
      let work := u.standing.asking ++ (.unmap w :: grabWork w (u.area rect) ++ [.defineCursor w native])
      have requests : v.standing.requests = u.standing.requests ++ work := by
        rw [standing]
        exact List.append_assoc u.standing.requests _ _
      have silent : u.standing.asking.filterMap (HostRequest.placing? w) = [] := by
        unfold Standing.asking
        split <;> rfl
      have once : work.filterMap (HostRequest.placing? w) = [u.area rect] := by
        simp only [work, List.filterMap_append, silent, List.cons_append, List.filterMap_cons, HostRequest.placing?,
          placings_grabWork, List.nil_append, List.filterMap_nil, List.append_nil]
      refine hu.placed map requests w ⟨rect, u.standing.fresh, kind⟩ (by rw [standing]; rfl)
        (by rw [standing]; exact surface) ?_
      rw [once]
      rfl
  | moved w rect kind old hR ground held surface standing =>
      have requests : v.standing.requests = u.standing.requests ++ grabWork w (u.area rect) := by
        rw [standing]
        rfl
      refine hu.placed map requests w ⟨rect, old.captureWindow, kind⟩ (by rw [standing]; rfl)
        (by rw [standing]; exact surface) ?_
      rw [placings_grabWork]
      rfl
  | ended tries old report told ground held tried standing =>
      obtain ⟨more, added⟩ := requests_closed u.standing tries old.captureWindow
      have requests : v.standing.requests = u.standing.requests ++ more := by
        rw [standing, ← added]
        cases report <;> rfl
      have dropped : v.standing.clip = none := by
        rw [standing]
        cases report <;> rfl
      exact hu.ended map requests dropped

theorem Kept.congr {u v : Scene} {log : List Issue} (hu : s.Kept log u)
    (requests : v.standing.requests = u.standing.requests) (clip : v.standing.clip = u.standing.clip)
    (surface : v.standing.surface = u.standing.surface) (map : v.env.map = u.env.map) : s.Kept log v :=
  hu.silent map (requests.trans (List.append_nil _).symm) clip surface nofun

theorem Special.kept {call : Call} {log : List Issue} (special : Special s call t) (hs : s.Kept log s) :
    s.Kept log t := by
  have quiet : s.Quiet t → s.Kept log t := fun h =>
    Outcome.kept (R := ⟨fun _ => True, True⟩) (n := 0) (.quiet h) hs
  cases special with
  | chosen cursor => exact quiet (s.quiet_setCursor cursor)
  | destroyed cursor => exact quiet (s.quiet_destroyCursor cursor)
  | shown h cursor => exact quiet (s.quiet_defineCursor h cursor)
  | ignored => exact hs
  | heard => exact hs.congr rfl rfl rfl rfl
  | ruled _ _ _ registry evicted =>
      let heard : Scene := { s with seat := { s.seat with registry := some registry } }
      have told := heard.standing_tell evicted .clipReset
      exact hs.congr (by rw [told]; rfl) (by rw [told]; rfl) (by rw [told]; rfl)
        (congrArg (fun g : Ground => g.map) (heard.ground_tell evicted .clipReset))

/-- Every call keeps the surface over the clip. -/
theorem Covers.call {call : Call} {log : List Issue} (covers : s.Covers log) (taken : s.call? call = some t) :
    t.Covers (log ++ s.numbering (s.madeUntil t)) := by
  have here : s.Kept log s := by
    refine ⟨[], (List.append_nil _).symm, rfl, ?_⟩
    rw [show s.numbering [] = [] from rfl, List.append_nil]
    exact covers
  have there : s.Kept log t := by
    by_cases ordinary : call.IsOrdinary
    · refine (s.doings_licence taken ordinary).course.preserves (P := fun _ u => s.Kept log u)
        (fun outcome hu => outcome.kept hu) id (fun standing setting hu => ?_) 0 here
      exact hu.congr (by rw [standing]) (by rw [standing]) (by rw [standing]) (congrArg Setting.map setting)
    · exact (s.special_of_call taken ordinary).kept here
  obtain ⟨made, requests, -, kept⟩ := there
  rwa [madeUntil_eq requests]

theorem Logged.covers {allowed : Scene → Turn → Prop} {start : Scene} {log : List Issue}
    (run : Logged allowed start log s) (free : start.standing.clip = none) : s.Covers log := by
  induction run with
  | start => exact .of_free free
  | call _ _ taken covers => exact covers.call taken
  | change _ _ covers => exact covers

/-- The origin of the virtual screen is taken off when the surface is placed and put back when a root point is
converted, so that it makes no difference. -/
theorem capturePlace_eq (map : CoordinateMap) (region : ClipRegion) (p : Point) :
    let area := (map.rectToRoot region.rect).atLeastUnit
    capturePlace map region p = map.fromRoot ⟨area.left + p.x, area.top + p.y⟩ := by
  intro area
  refine congrArg map.realToUser ?_
  simp only [area, Rect.atLeastUnit, CoordinateMap.rectToRoot, CoordinateMap.spanning, CoordinateMap.toRoot,
    Point.mk.injEq]
  omega

variable {event : EventRecord} {a : PointerAction}

theorem action?_movedTo (event : EventRecord) (w : HostWindow) (p : Point) :
    (event.movedTo w p).action? = event.action?.map fun a => { a with host := w, position := p } := by
  obtain ⟨serial, window, sent, kind⟩ := event
  cases kind with
  | button e =>
      unfold EventRecord.movedTo EventRecord.action?
      simp only [Option.map_map]
      rfl
  | enter e =>
      unfold EventRecord.movedTo EventRecord.action?
      by_cases passing : e.detail = .virtual <;> simp [passing]
  | _ => rfl

/-- An action on the capture surface brings input if there is a clip, and no other. -/
theorem inputs_captureMouse_cases (surface : s.seat.input.captureSurface = some a.host) :
    (s.captureMouse a).1.env.journal.inputs = s.env.journal.inputs ∨
      ∃ region, s.seat.input.clip = some region ∧ (s.captureMouse a).1.env.journal.inputs =
        s.env.journal.inputs ++ [(Handle.null,
          .mouse (MouseInput.placed (capturePlace s.env.map region a.position) a.flags a.data a.time))] := by
  cases held : s.seat.input.clip with
  | none =>
      left
      unfold captureMouse
      rw [held]
  | some region => exact .inr ⟨region, rfl, inputs_captureMouse held surface⟩

/-- If a button, a motion or an enter event on the capture surface brings input, it is that of its action. -/
theorem action_of_fed (kind : event.tag ∈ [.button, .motion, .enter])
    (free : (target s.env event).isNull = true) (surface : s.seat.input.captureSurface = some event.window)
    (fed : (s.dispatch event).1.env.journal.inputs ≠ s.env.journal.inputs) :
    ∃ a region, event.action? = some a ∧ s.seat.input.clip = some region ∧
      (s.dispatch event).1.env.journal.inputs = s.env.journal.inputs ++ [(Handle.null,
        .mouse (MouseInput.placed (capturePlace s.env.map region a.position) a.flags a.data a.time))] := by
  have among : [EventTag.button, .motion, .enter] ⊆ inputTags := by decide
  have dispatched : (s.dispatch event).1.env.journal.inputs =
      ((s.receiving event).handle Handle.null event).1.env.journal.inputs := by
    rw [← (eq_of_beq free : target s.env event = Handle.null)]
    rfl
  obtain ⟨a, about⟩ | ⟨e, key⟩ | ⟨raw, motion⟩ | idle := input_cases (among kind)
  · rw [← host_of_action about] at surface
    -- a fence that is released on the way leaves the clip and the map as they are
    have caught : ∀ u : Scene, u.seat.input.clip = s.seat.input.clip → u.env = s.env →
        u.seat.input.captureSurface = some a.host →
        (s.dispatch event).1.env.journal.inputs = (u.captureMouse a).1.env.journal.inputs →
        ∃ a region, event.action? = some a ∧ s.seat.input.clip = some region ∧
          (s.dispatch event).1.env.journal.inputs = s.env.journal.inputs ++ [(Handle.null,
            .mouse (MouseInput.placed (capturePlace s.env.map region a.position) a.flags a.data a.time))] := by
      intro u clip env surface dispatched
      rcases inputs_captureMouse_cases surface with silent | ⟨region, held, told⟩
      · exact absurd (dispatched.trans (silent.trans (by rw [env]))) fed
      · exact ⟨a, region, about, clip ▸ held, dispatched.trans (by rw [told, env])⟩
    by_cases moves : tellsOfMove event = true
    · rw [handle_null_of_action about moves] at dispatched
      by_cases stale : (s.receiving event).seat.input.warpFence.holdsBack event.serial = true
      · rw [if_pos stale] at dispatched
        exact absurd dispatched fed
      · rw [if_neg stale] at dispatched
        exact caught (s.receiving event).warped rfl rfl surface dispatched
    · rw [handle_of_action about, if_neg moves] at dispatched
      exact caught (s.receiving event) rfl rfl surface dispatched
  · simp [EventRecord.tag, key, EventKind.tag] at kind
  · simp [EventRecord.tag, motion, EventKind.tag] at kind
  · exact absurd (by rw [dispatched, idle]; rfl) fed

/-- The same action on the root window while there is a clip. -/
theorem inputs_at_root {info : WindowInfo} {p : Point} (about : event.action? = some a)
    (clipping : s.seat.input.isClipping = true)
    (named : (target s.env (event.movedTo Environment.root p)).isNull = false)
    (known : s.env.info? (target s.env (event.movedTo Environment.root p)) = some info) :
    (s.dispatch (event.movedTo Environment.root p)).1.env.journal.inputs =
      s.env.journal.inputs ++ [(target s.env (event.movedTo Environment.root p),
        .mouse (MouseInput.placed (s.env.map.fromRoot p) a.flags a.data a.time))] := by
  let rooted := event.movedTo Environment.root p
  have action : rooted.action? = some { a with host := Environment.root, position := p } := by
    rw [action?_movedTo, about]
    rfl
  have fed := inputs_windowMouse (s := s.receiving rooted)
    (a := { a with host := Environment.root, position := p }) clipping known
  have handled := handle_of_action action (s.receiving rooted) (target s.env rooted)
  have straight : (s.receiving rooted).handle (target s.env rooted) rooted =
      (s.receiving rooted).windowMouse (target s.env rooted) { a with host := Environment.root, position := p } := by
    rw [handled]
    simp [moveTo, sendMouse, rooted, named]
  rw [dispatch_of_handled straight]
  exact fed

/-- In a run from a seat at its start, whatever happens to the surroundings meanwhile: if a button, a motion or an enter
event on the capture surface, which is no guest window, brings input, then there is a last request that has placed the
surface. If the coordinate map is still the one of that request, the input is absolute, at the guest place of the root
point that lies as far from the corner of the placed area as the event from that of the surface. An event on the root
window at that point is given the same. -/
theorem capture_agrees_with_root {allowed : Scene → Turn → Prop} {start : Scene} {log : List Issue}
    (run : Logged allowed start log s) (fresh : start.seat.input = (Seat.ofConfig start.seat.config).input)
    (kind : event.tag ∈ [.button, .motion, .enter]) (free : (target s.env event).isNull = true)
    (surface : s.seat.input.captureSurface = some event.window)
    (fed : (s.dispatch event).1.env.journal.inputs ≠ s.env.journal.inputs) :
    ∃ a map area, event.action? = some a ∧ lastPlacement? event.window log = some (map, area) ∧
      (map = s.env.map →
        let place : Point := ⟨area.left + a.position.x, area.top + a.position.y⟩
        let input : GuestInput := .mouse (MouseInput.placed (s.env.map.fromRoot place) a.flags a.data a.time)
        let rooted := event.movedTo Environment.root place
        (s.dispatch event).1.env.journal.inputs = s.env.journal.inputs ++ [(Handle.null, input)] ∧
          ((target s.env rooted).isNull = false → (s.env.info? (target s.env rooted)).isSome = true →
            (s.dispatch rooted).1.env.journal.inputs = s.env.journal.inputs ++ [(target s.env rooted, input)])) := by
  obtain ⟨a, region, about, held, told⟩ := action_of_fed kind free surface fed
  have covers := run.covers (congrArg InputState.clip fresh)
  obtain ⟨w, map, known, last⟩ := covers region held
  obtain rfl : w = event.window := Option.some.inj (known.symm.trans surface)
  refine ⟨a, map, _, about, last, ?_⟩
  rintro rfl place input rooted
  refine ⟨by rw [told, capturePlace_eq], fun named there => ?_⟩
  obtain ⟨info, known⟩ := Option.isSome_iff_exists.mp there
  have clipping : s.seat.input.isClipping = true := Option.isSome_iff_exists.mpr ⟨region, held⟩
  exact inputs_at_root about clipping named known

def aside : Scene := alone ⟨-100, 50, 1820, 1130⟩

/-- A press of a button on the capture surface of that seat. -/
def pressedInside : EventRecord :=
  { serial := ⟨9⟩, window := ⟨0x04000001⟩, kind := .button { button := 1, pressed := true, position := ⟨10, 20⟩ } }

/-- The surface lies at `(100, 50)` of the root, so that the press is at `(110, 70)`, which is `(10, 120)` for the
guest. -/
theorem pressedInside_agrees_with_root :
    let s := aside.clipCursor (some ⟨0, 100, 400, 500⟩)
    let log := aside.numbering (aside.madeUntil s)
    lastPlacement? ⟨0x04000001⟩ log = some (aside.env.map, ⟨100, 50, 500, 450⟩) ∧
      (s.dispatch pressedInside).1.env.journal.inputs =
        [(Handle.null, .mouse (MouseInput.placed ⟨10, 120⟩ MouseFlags.leftDown 0 0))] ∧
      (s.dispatch (pressedInside.movedTo Environment.root ⟨110, 70⟩)).1.env.journal.inputs =
        [(Environment.desktop, .mouse (MouseInput.placed ⟨10, 120⟩ MouseFlags.leftDown 0 0))] := by
  intro s log
  have run : Logged (fun _ _ => True) aside log s := .single (.clipCursor (some ⟨0, 100, 400, 500⟩)) trivial rfl
  have placed : lastPlacement? ⟨0x04000001⟩ log = some (aside.env.map, ⟨100, 50, 500, 450⟩) := by decide +kernel
  have free : (target s.env pressedInside).isNull = true := by decide +kernel
  obtain ⟨a, map, area, about, last, agrees⟩ := capture_agrees_with_root run rfl (by decide) free
    (by decide +kernel) (by decide +kernel)
  cases about
  cases placed.symm.trans last
  obtain ⟨inside, outside⟩ := agrees (by decide +kernel)
  have place : s.env.map.fromRoot ⟨110, 70⟩ = ⟨10, 120⟩ := by decide +kernel
  have silent : s.env.journal.inputs = [] := by decide +kernel
  have rooted : target s.env (pressedInside.movedTo Environment.root ⟨110, 70⟩) = Environment.desktop := by
    decide +kernel
  have outside := outside (by decide +kernel) (by decide +kernel)
  refine ⟨placed, ?_, ?_⟩
  · rw [← place, ← List.nil_append [_], ← silent]
    exact inside
  · rw [← place, ← rooted, ← List.nil_append [_], ← silent]
    exact outside

end Scene

end GuestSeat
