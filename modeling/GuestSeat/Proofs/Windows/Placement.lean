import GuestSeat.Proofs.Seat.Errands
import GuestSeat.Proofs.Windows.Fullscreen

/-!
What the host's geometry of a window does to the guest window. A window that follows it is brought to the
rectangle that the event stands for: the corner goes there, and the size is taken over unless the window is
empty. It is placed only if that changes its rectangle, and then nothing changes but its own rectangles. In
all other cases no window is placed.
-/

namespace GuestSeat

namespace Rect

def movedTo (r : Rect) (corner : Point) : Rect :=
  ⟨corner.x, corner.y, corner.x + r.width, corner.y + r.height⟩

/-- A rectangle brought to a target. An empty one does not take the sides over. -/
def broughtTo (r target : Rect) : Rect := if r.isEmpty then r.movedTo target.topLeft else target

variable (r target next : Rect) (corner : Point)

@[simp] theorem topLeft_movedTo : (r.movedTo corner).topLeft = corner := rfl

@[simp] theorem width_movedTo : (r.movedTo corner).width = r.width := by
  show corner.x + r.width - corner.x = r.width
  omega

@[simp] theorem height_movedTo : (r.movedTo corner).height = r.height := by
  show corner.y + r.height - corner.y = r.height
  omega

/-- A rectangle is what its corner and its sides are. -/
theorem eq_of_sides {r target : Rect} (corner : r.topLeft = target.topLeft)
    (width : r.width = target.width) (height : r.height = target.height) : r = target := by
  obtain ⟨left, top, right, bottom⟩ := r
  obtain ⟨left', top', right', bottom'⟩ := target
  simp only [topLeft, Rect.width, Rect.height, Point.mk.injEq, Rect.mk.injEq] at *
  omega

@[simp] theorem isEmpty_movedTo : (r.movedTo corner).isEmpty = r.isEmpty := by
  have empty : ∀ r : Rect, r.isEmpty = (decide (r.width ≤ 0) || decide (r.height ≤ 0)) := by
    intro r
    unfold isEmpty width height
    rw [Bool.eq_iff_iff, Bool.or_eq_true, Bool.or_eq_true]
    simp only [decide_eq_true_iff]
    omega
  rw [empty, empty, width_movedTo, height_movedTo]

@[simp] theorem movedTo_topLeft : r.movedTo r.topLeft = r :=
  eq_of_sides rfl (r.width_movedTo _) (r.height_movedTo _)

@[simp] theorem topLeft_broughtTo : (r.broughtTo target).topLeft = target.topLeft := by
  unfold broughtTo
  split <;> rfl

variable {r target} in
theorem broughtTo_of_filled (filled : r.isEmpty = false) : r.broughtTo target = target := by
  unfold broughtTo
  rw [filled]
  rfl

theorem broughtTo_self : r.broughtTo r = r := by
  unfold broughtTo
  split
  · exact r.movedTo_topLeft
  · rfl

/-- It does not matter from where a rectangle is brought. -/
theorem broughtTo_movedTo : (r.movedTo corner).broughtTo target = r.broughtTo target := by
  unfold broughtTo
  rw [isEmpty_movedTo]
  split
  · exact eq_of_sides rfl (by simp) (by simp)
  · rfl

/-- On the way to a target, others that are not empty leave no trace. -/
theorem broughtTo_onward (filled : target.isEmpty = false) :
    (r.broughtTo target).broughtTo next = r.broughtTo next := by
  by_cases empty : r.isEmpty = true
  · have moved : r.broughtTo target = r.movedTo target.topLeft := if_pos empty
    rw [moved, broughtTo_movedTo]
  · have taken := eq_false_of_ne_true empty
    rw [broughtTo_of_filled taken, broughtTo_of_filled filled, broughtTo_of_filled taken]

/-- A rectangle that was brought to a target stays there. -/
theorem broughtTo_again : (r.broughtTo target).broughtTo target = r.broughtTo target := by
  by_cases empty : r.isEmpty = true
  · have moved : r.broughtTo target = r.movedTo target.topLeft := if_pos empty
    rw [moved, broughtTo_movedTo, moved]
  · rw [broughtTo_of_filled (eq_false_of_ne_true empty), broughtTo_self]

theorem broughtTo_eq_self_iff : r.broughtTo target = r ↔ r.topLeft = target.topLeft ∧
    (r.isEmpty = true ∨ r.width = target.width ∧ r.height = target.height) := by
  unfold broughtTo
  split
  · next empty =>
      constructor
      · intro same
        exact ⟨by rw [← same]; rfl, .inl empty⟩
      · rintro ⟨corner, -⟩
        rw [← corner, movedTo_topLeft]
  · next filled =>
      constructor
      · rintro rfl
        exact ⟨rfl, .inr ⟨rfl, rfl⟩⟩
      · rintro ⟨corner, sides⟩
        obtain ⟨width, height⟩ := sides.resolve_left filled
        exact (eq_of_sides corner width height).symm

end Rect

namespace PlacementFlags

def following (redraw position size : Bool) : PlacementFlags :=
  keepActive ||| keepOrder ||| (if redraw then discardContents else Flags.empty) |||
    (if position then keepPosition else Flags.empty) ||| if size then keepSize else Flags.empty

variable (redraw position size : Bool)

theorem contains_position : (following redraw position size).contains keepPosition = position := by
  cases redraw <;> cases position <;> cases size <;> decide

theorem contains_size : (following redraw position size).contains keepSize = size := by
  cases redraw <;> cases position <;> cases size <;> decide

theorem contains_both :
    (following redraw position size).contains (keepPosition ||| keepSize) = (position && size) := by
  cases redraw <;> cases position <;> cases size <;> decide

end PlacementFlags

namespace Scene

variable (foreign : Bool) (current rect : Rect)

theorem placementFlags_eq : placementFlags foreign current rect =
    PlacementFlags.following foreign (decide (current.topLeft = rect.topLeft))
      (current.width = rect.width && current.height = rect.height || current.isEmpty) := by
  simp only [placementFlags, PlacementFlags.following, decide_eq_true_iff]

/-- A placement that follows the host brings a window to the rectangle. -/
theorem placed_placementFlags :
    Environment.placed current rect (placementFlags foreign current rect) = current.broughtTo rect := by
  have corner : (if decide (current.topLeft = rect.topLeft) then current.topLeft else rect.topLeft) =
      rect.topLeft := by
    split
    · next there => exact of_decide_eq_true there
    · rfl
  let keep : Bool := current.width = rect.width && current.height = rect.height || current.isEmpty
  have moved : Environment.placed current rect (placementFlags foreign current rect) =
      (if keep then current else rect).movedTo rect.topLeft := by
    unfold Environment.placed
    rw [placementFlags_eq, PlacementFlags.contains_position, PlacementFlags.contains_size, corner]
    rfl
  rw [moved]
  by_cases empty : current.isEmpty = true
  · simp [Rect.broughtTo, keep, empty]
  · rw [Rect.broughtTo_of_filled (eq_false_of_ne_true empty)]
    by_cases sides : current.width = rect.width ∧ current.height = rect.height
    · have kept : keep = true := by simp [keep, sides]
      rw [if_pos kept]
      exact Rect.eq_of_sides rfl (by simp [sides]) (by simp [sides])
    · have sized : keep = false := by simpa [keep, empty] using sides
      rw [sized]
      exact rect.movedTo_topLeft

/-- A window that is where it is brought to is left alone. -/
theorem contains_keepBoth_iff : (placementFlags foreign current rect).contains
      (PlacementFlags.keepPosition ||| PlacementFlags.keepSize) = true ↔
    current.broughtTo rect = current := by
  rw [placementFlags_eq, PlacementFlags.contains_both, Rect.broughtTo_eq_self_iff]
  simp [or_comm]

end Scene

/-- Without a scale, guest points go to the root and back. -/
theorem CoordinateMap.fromRoot_toRoot {m : CoordinateMap} (unscaled : m.scale = none) (p : Point) :
    m.fromRoot (m.toRoot p) = p := by
  unfold fromRoot toRoot userToReal realToUser
  rw [unscaled]
  simp

namespace Environment

/-- A message is all that sending it leaves behind. -/
theorem backdrop_send (env : Environment) (h : Handle) (message : GuestMessage) :
    (env.send h message).1.backdrop = env.backdrop := by
  unfold send
  split
  · next done =>
      obtain ⟨-, rfl⟩ := deliver_eq_ok done
      rfl
  · rfl

section
variable (env : Environment) (h : Handle) (info : WindowInfo) (rect : Rect)

/-- The surroundings after a window is brought to a rectangle. It is not placed where it is already. -/
def bring : Environment :=
  if info.windowRect.broughtTo rect = info.windowRect then env
  else env.placeWindow h rect (Scene.placementFlags info.foreign info.windowRect rect)

theorem info?_placeWindow (flags : PlacementFlags) (k : Handle) :
    (env.placeWindow h rect flags).info? k =
      if k = h then (env.info? k).map fun info => { info with
        windowRect := placed info.windowRect rect flags
        clientRect := placed info.windowRect rect flags }
      else env.info? k := by
  simp only [info?, placeWindow, note, editInfo, editWindow, OrderedMap.get?_modify]
  split
  · simp [Function.comp_def]
  · rfl

@[simp] theorem map_bring : (env.bring h info rect).map = env.map := by
  unfold bring
  split <;> rfl

@[simp] theorem lookup?_bring : (env.bring h info rect).lookup? = env.lookup? := by
  unfold bring
  split
  · rfl
  · exact lookup?_editInfo _ h _ fun _ => ⟨rfl, rfl⟩

theorem info?_bring_of_ne {k : Handle} (other : k ≠ h) :
    (env.bring h info rect).info? k = env.info? k := by
  unfold bring
  split
  · rfl
  · rw [info?_placeWindow, if_neg other]

/-- What the surroundings have on record of how windows were placed. -/
theorem placements_bring : (env.bring h info rect).journal.placements =
    env.journal.placements ++
      if info.windowRect.broughtTo rect = info.windowRect then []
      else [(h, rect, Scene.placementFlags info.foreign info.windowRect rect)] := by
  unfold bring
  split
  · exact (List.append_nil _).symm
  · rfl

variable {env h info}

theorem info?_bring (known : env.info? h = some info) : ∃ client,
    (env.bring h info rect).info? h =
      some { info with windowRect := info.windowRect.broughtTo rect, clientRect := client } := by
  unfold bring
  split
  · next there => exact ⟨info.clientRect, by rw [known, there]⟩
  · refine ⟨info.windowRect.broughtTo rect, ?_⟩
    rw [info?_placeWindow, if_pos rfl, known, Option.map_some, Scene.placed_placementFlags]

theorem geometry?_bring (known : env.info? h = some info) (k : Handle) :
    Environment.geometry? (env.bring h info rect) k =
      if k = h then some (info.windowRect.broughtTo rect) else env.geometry? k := by
  unfold geometry?
  split
  · next same =>
      obtain ⟨client, after⟩ := info?_bring rect known
      rw [same, after]
      rfl
  · next other => rw [info?_bring_of_ne _ _ _ _ other]

theorem parent_bring (known : env.info? h = some info) : (env.bring h info rect).parent = env.parent := by
  funext k
  unfold parent
  by_cases same : k = h
  · obtain ⟨client, after⟩ := info?_bring rect known
    rw [same, after, known]
    rfl
  · rw [info?_bring_of_ne _ _ _ _ same]

/-- The window behind a host window is another one, or the one that was brought. -/
theorem hosted?_bring (known : env.info? h = some info) (w : HostWindow) :
    (env.bring h info rect).hosted? w = env.hosted? w ∨
      ∃ hosted client, env.hosted? w = some hosted ∧ hosted.info = info ∧
        (env.bring h info rect).hosted? w = some { hosted with info :=
          { info with windowRect := info.windowRect.broughtTo rect, clientRect := client } } := by
  unfold bring
  split
  · exact .inl rfl
  · let flags := Scene.placementFlags info.foreign info.windowRect rect
    let noted := env.note fun j => { j with placements := j.placements ++ [(h, rect, flags)] }
    let place := fun info : WindowInfo => { info with
      windowRect := placed info.windowRect rect flags
      clientRect := placed info.windowRect rect flags }
    rcases noted.hosted?_editInfo h place (fun _ => rfl) w with same | ⟨hosted, there, before, after⟩
    · exact .inl same
    · have found : env.info? h = some hosted.info := congrArg (Option.map HostedWindow.info) there
      have its : hosted.info = info := Option.some.inj (found.symm.trans known)
      refine .inr ⟨hosted, placed info.windowRect rect flags, before, its, after.trans ?_⟩
      rw [← Scene.placed_placementFlags info.foreign, its]

theorem netState_bring (known : env.info? h = some info) (w : HostWindow) :
    (env.bring h info rect).netState w = env.netState w := by
  unfold netState
  rcases hosted?_bring rect known w with same | ⟨hosted, client, before, -, after⟩
  · rw [same]
  · rw [before, after]
    rfl

/-- A window that is brought to where it lies on the root stays there. -/
theorem placeOnRoot_bring (known : env.info? h = some info) {w : HostWindow} {rect : Rect}
    (unscaled : env.map.scale = none)
    (corner : rect.topLeft = env.map.fromRoot (env.placeOnRoot w ⟨0, 0⟩)) (p : Point) :
    (env.bring h info rect).placeOnRoot w p = env.placeOnRoot w p := by
  unfold placeOnRoot at corner ⊢
  split
  · rfl
  next inner =>
  rw [if_neg inner] at corner
  rcases hosted?_bring rect known w with same | ⟨hosted, client, before, its, after⟩
  · rw [same, map_bring]
  · rw [before] at corner
    dsimp only at corner
    rw [its, Int.add_zero, Int.add_zero, CoordinateMap.fromRoot_toRoot unscaled] at corner
    rw [before, after, map_bring]
    simp only [Rect.topLeft_broughtTo, corner, its]

end

structure Reframes (h : Handle) (a b : Environment) : Prop where
  map : b.map = a.map
  lookup : b.lookup? = a.lookup?
  netState : b.netState = a.netState
  parent : b.parent = a.parent
  others : ∀ k, k ≠ h → b.info? k = a.info? k
  own : ∀ after, b.info? h = some after → ∃ info window client,
    a.info? h = some info ∧ after = { info with windowRect := window, clientRect := client }

/-- A window that is not inside itself stays so. -/
theorem Reframes.apart {h : Handle} {a b : Environment} (reframes : a.Reframes h b)
    (apart : ∀ info, a.info? h = some info → info.parent ≠ h) {info : WindowInfo}
    (known : b.info? h = some info) : info.parent ≠ h := by
  obtain ⟨before, window, client, found, rfl⟩ := reframes.own info known
  exact apart before found

theorem Reframes.of_backdrop (h : Handle) {a b : Environment} (same : b.backdrop = a.backdrop) :
    Reframes h a b where
  map := eq_of_backdrop same Environment.map fun _ => rfl
  lookup := eq_of_backdrop same Environment.lookup? fun _ => rfl
  netState := eq_of_backdrop same Environment.netState fun _ => rfl
  parent := eq_of_backdrop same Environment.parent fun _ => rfl
  others := fun k _ => eq_of_backdrop same (info? · k) fun _ => rfl
  own := by
    intro after known
    have before : a.info? h = some after := (eq_of_backdrop same (info? · h) fun _ => rfl).symm.trans known
    exact ⟨after, after.windowRect, after.clientRect, before, rfl⟩

theorem reframes_bring {env : Environment} {h : Handle} {info : WindowInfo} (rect : Rect)
    (known : env.info? h = some info) : env.Reframes h (env.bring h info rect) where
  map := env.map_bring h info rect
  lookup := env.lookup?_bring h info rect
  netState := funext (netState_bring rect known)
  parent := parent_bring rect known
  others := fun _ other => env.info?_bring_of_ne h info rect other
  own := by
    intro after found
    obtain ⟨client, brought⟩ := info?_bring rect known
    exact ⟨info, _, client, known, Option.some.inj (found.symm.trans brought)⟩

end Environment

namespace Scene

/-- The command that a window is given instead of a place: it does not have the maximization that the
host reports. A window without a caption that fills an output is not asked. -/
def overdue? (env : Environment) (info : WindowInfo) : Option SysCommand :=
  (info.host.filter fun _ => info.style.hasCaption || !coversOutput env info.windowRect).bind
    fun host => maximization? info.style (env.netState host)

/-- Whether a window goes where an event about it has it. -/
structure Follows (s : Scene) (h : Handle) (info : WindowInfo) (event : EventRecord) : Prop where
  concerns : s.Concerns h event
  known : s.env.info? h = some info
  allowed : followsGeometry info (s.window h) event = true
  timely : overdue? s.env info = none

variable (s : Scene) (h : Handle) (info : WindowInfo) (rect : Rect)

theorem env_followPlacement : (s.followPlacement h info rect).1.env = s.env.bring h info rect := by
  unfold followPlacement Environment.bring
  dsimp only
  by_cases there : info.windowRect.broughtTo rect = info.windowRect
  · rw [if_pos ((contains_keepBoth_iff _ _ _).mpr there), if_pos there]
  · rw [if_neg (mt (contains_keepBoth_iff _ _ _).mp there), if_neg there]
    rfl

theorem env_followGeometry : (s.followGeometry h info rect).1.env =
    match overdue? s.env info with
    | none => s.env.bring h info rect
    | some command => (s.env.send h (.sysCommand command)).1 := by
  unfold followGeometry overdue?
  cases info.host.filter fun _ => info.style.hasCaption || !coversOutput s.env info.windowRect with
  | none => exact s.env_followPlacement h info rect
  | some host =>
      dsimp only [Option.bind_some]
      cases maximization? info.style (s.env.netState host) with
      | none => exact env_followPlacement _ h info rect
      | some command => rfl

variable {s h info} {event : EventRecord} {e : ConfigureEvent}

/-- What an event about geometry comes to if the window follows it. -/
theorem env_dispatch_of_follows (kind : event.kind = .configure e) (follows : s.Follows h info event) :
    (s.dispatch event).1.env = s.env.bring h info (configuredRect s.env h event e) := by
  obtain ⟨⟨about, there⟩, known, allowed, timely⟩ := follows
  let noted := (s.receiving event).editWindow h id
  have allowed : followsGeometry info (noted.window h) event = true := by
    rw [window_editWindow, if_pos rfl]
    exact allowed
  have handled : ((s.receiving event).handle (target s.env event) event).1 =
      (noted.followGeometry h info (configuredRect s.env h event e)).1 := by
    unfold handle configure
    rw [kind, about]
    dsimp only
    rw [if_neg (by simp [there]), show (s.receiving event).env.info? h = some info from known]
    dsimp only
    rw [if_pos allowed]
    rfl
  rw [s.fst_dispatch handled]
  have timely : overdue? noted.env info = none := timely
  have followed := noted.env_followGeometry h info (configuredRect s.env h event e)
  rw [timely] at followed
  exact followed

/-- It is no more than a command if the window does not. -/
theorem backdrop_dispatch (kind : event.kind = .configure e)
    (ignored : ∀ info, ¬ s.Follows (target s.env event) info event) :
    (s.dispatch event).1.env.backdrop = s.env.backdrop := by
  have handled : ((s.receiving event).handle (target s.env event) event).1.env.backdrop =
      s.env.backdrop := by
    generalize about : target s.env event = h at ignored ⊢
    unfold handle configure
    rw [kind]
    dsimp only
    split
    · rfl
    next there =>
    split
    · rfl
    next info known =>
    split
    · next allowed =>
        rw [env_followGeometry]
        split
        · next timely =>
            rw [window_editWindow, if_pos rfl] at allowed
            exact absurd ⟨⟨about, eq_false_of_ne_true there⟩, known, allowed, timely⟩ (ignored info)
        · exact Environment.backdrop_send ..
    · rfl
  exact handled

theorem backdrop_dispatch_of_not_follows (kind : event.kind = .configure e)
    (concerns : s.Concerns h event) (known : s.env.info? h = some info)
    (ignored : ¬ s.Follows h info event) : (s.dispatch event).1.env.backdrop = s.env.backdrop := by
  refine backdrop_dispatch kind fun other follows => ?_
  rw [concerns.1] at follows
  obtain rfl : other = info := Option.some.inj (follows.known.symm.trans known)
  exact ignored follows

/-- What becomes of the geometry of windows in an event about it. -/
theorem geometry?_dispatch_of_follows (kind : event.kind = .configure e) (follows : s.Follows h info event)
    (k : Handle) : Environment.geometry? (s.dispatch event).1.env k =
      if k = h then some (info.windowRect.broughtTo (configuredRect s.env h event e))
      else s.env.geometry? k := by
  rw [env_dispatch_of_follows kind follows, Environment.geometry?_bring _ follows.known]

theorem geometry?_dispatch_of_ignored (kind : event.kind = .configure e)
    (ignored : ∀ info, ¬ s.Follows (target s.env event) info event) (k : Handle) :
    Environment.geometry? (s.dispatch event).1.env k = s.env.geometry? k :=
  Environment.eq_of_backdrop (backdrop_dispatch kind ignored) (fun env => env.geometry? k) fun _ => rfl

/-- An event about geometry changes no more than the rectangles of the window that it is about. -/
theorem reframes_dispatch (kind : event.kind = .configure e) :
    s.env.Reframes (target s.env event) (s.dispatch event).1.env := by
  by_cases followed : ∃ info, s.Follows (target s.env event) info event
  · obtain ⟨info, follows⟩ := followed
    rw [env_dispatch_of_follows kind follows]
    exact Environment.reframes_bring _ follows.known
  · exact .of_backdrop _ (backdrop_dispatch kind (not_exists.mp followed))

theorem target_dispatch (kind : event.kind = .configure e) (next : EventRecord) :
    target (s.dispatch event).1.env next = target s.env next := by
  unfold target
  rw [(reframes_dispatch kind).lookup]

/-- Only the extended state that was read is noted about a window. -/
theorem view_dispatch {α : Type} (view : ManagedState → α)
    (read : ∀ (m : ManagedState) netState, view { m with netState } = view m)
    (kind : event.kind = .configure e) (k : Handle) :
    view ((s.dispatch event).1.window k) = view (s.window k) := by
  show view (((s.receiving event).handle (target s.env event) event).1.window k) = _
  unfold handle
  rw [kind]
  dsimp only
  split
  · rfl
  · exact view_configure _ view k _ read event e

/-- How events about geometry are judged does not change by one of them. -/
theorem followsGeometry_dispatch (kind : event.kind = .configure e) (next : EventRecord) (k : Handle) :
    followsGeometry info ((s.dispatch event).1.window k) next = followsGeometry info (s.window k) next :=
  view_dispatch (followsGeometry info · next) (fun _ _ => rfl) kind k

/-- Before the same backdrop the same events are followed. -/
theorem Follows.of_backdrop {t : Scene} (same : t.env.backdrop = s.env.backdrop)
    (view : followsGeometry info (t.window h) event = followsGeometry info (s.window h) event)
    (follows : t.Follows h info event) : s.Follows h info event := by
  obtain ⟨⟨about, there⟩, known, allowed, timely⟩ := follows
  have keeps {α : Type} (f : Environment → α) (blind : ∀ env : Environment, f env.backdrop = f env) :
      f s.env = f t.env := (Environment.eq_of_backdrop same f blind).symm
  exact {
    concerns := ⟨(keeps (target · event) fun _ => rfl).trans about, there⟩
    known := (keeps (Environment.info? · h) fun _ => rfl).trans known
    allowed := view.symm.trans allowed
    timely := (keeps (overdue? · info) fun _ => rfl).trans timely }

section
variable {env : Environment} {next : EventRecord}

theorem topLeft_configuredRect (own : event.sent = false) (top : isTopLevel env h = true) :
    (configuredRect env h event e).topLeft =
      env.map.fromRoot (env.placeOnRoot event.window ⟨0, 0⟩) := by
  unfold configuredRect
  rw [own, top]
  rfl

/-- Where an event has a window go does not depend on where another one of its sort took the window. -/
theorem configuredRect_bring (known : env.info? h = some info) (apart : info.parent ≠ h)
    (window : next.window = event.window) (sent : next.sent = event.sent)
    (unscaled : event.sent = false → isTopLevel env h = true → env.map.scale = none)
    (e e' : ConfigureEvent) :
    configuredRect (env.bring h info (configuredRect env h event e)) h next e' =
      configuredRect env h next e' := by
  have corner : event.sent = false → isTopLevel env h = true →
      (configuredRect env h event e).topLeft =
        env.map.fromRoot (env.placeOnRoot event.window ⟨0, 0⟩) := topLeft_configuredRect
  generalize configuredRect env h event e = rect at corner
  have parent : (env.bring h info rect).parent = env.parent := Environment.parent_bring rect known
  have top : isTopLevel (env.bring h info rect) h = isTopLevel env h := by
    unfold isTopLevel
    rw [parent]
  have outside : env.parent h ≠ h := by
    unfold Environment.parent
    rw [known]
    exact apart
  unfold configuredRect
  rw [top, parent, Environment.map_bring, Environment.info?_bring_of_ne _ _ _ _ outside, window, sent]
  cases own : event.sent with
  | true => rfl
  | false =>
      cases level : isTopLevel env h with
      | false => rfl
      | true => rw [Environment.placeOnRoot_bring known (unscaled own level) (corner own level)]

end

end Scene

end GuestSeat
