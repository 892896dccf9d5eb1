import GuestSeat.Proofs.Windows.Placement

/-!
Geometry that is no news. An event that is told again places no window, however often, so that no window
is moved to and fro for ever. An event that tells of a window's geometry as it is leaves a window at the
top level alone, but not always one inside another: the corner in the parent's client area is compared
with one on the screen, and the window jumps by the distance between the two.
-/

namespace GuestSeat

namespace Rect

variable (r : Rect)

theorem offset_offset (x y dx dy : Int) : (r.offset x y).offset dx dy = r.offset (x + dx) (y + dy) := by
  simp only [offset, Rect.mk.injEq]
  omega

theorem offset_eq_self_iff {d : Point} : r.offset d.x d.y = r ↔ d = ⟨0, 0⟩ := by
  obtain ⟨left, top, right, bottom⟩ := r
  obtain ⟨x, y⟩ := d
  simp only [offset, Rect.mk.injEq, Point.mk.injEq]
  omega

end Rect

namespace Scene

open Environment (root)

variable {s : Scene} {h : Handle} {info : WindowInfo} {event : EventRecord} {e : ConfigureEvent}

/-- What an event about the geometry of a window brings it to, it need not be brought to again. -/
theorem placements_dispatch_again (kind : event.kind = .configure e)
    (unscaled : s.env.map.scale = none)
    (apart : ∀ info, s.env.info? (target s.env event) = some info → info.parent ≠ target s.env event) :
    ((s.dispatch event).1.dispatch event).1.env.journal.placements =
      (s.dispatch event).1.env.journal.placements := by
  have about : target (s.dispatch event).1.env event = target s.env event := target_dispatch kind event
  by_cases again : ∃ info, (s.dispatch event).1.Follows (target s.env event) info event
  · obtain ⟨after, again⟩ := again
    by_cases before : ∃ info, s.Follows (target s.env event) info event
    · obtain ⟨info, before⟩ := before
      have brought := env_dispatch_of_follows kind before
      have place := configuredRect_bring before.known (apart info before.known)
        (rfl : event.window = event.window) rfl (fun _ _ => unscaled) e e
      obtain ⟨client, known⟩ := Environment.info?_bring (configuredRect s.env _ event e) before.known
      rw [← brought, again.known] at known
      rw [env_dispatch_of_follows kind again, Environment.placements_bring, brought, place,
        Option.some.inj known]
      simp only [Rect.broughtTo_again, if_pos, List.append_nil]
    · -- a window that goes nowhere at first would go nowhere now
      have still := backdrop_dispatch kind (not_exists.mp before)
      exact absurd ⟨after, again.of_backdrop still (followsGeometry_dispatch kind event _)⟩ before
  · have still := backdrop_dispatch kind (about ▸ not_exists.mp again)
    exact Environment.eq_of_backdrop still (fun env => env.journal.placements) fun _ => rfl

/-- A scene after it was told the same a number of times. -/
def told (s : Scene) (event : EventRecord) : Nat → Scene
  | 0 => s
  | n + 1 => ((s.told event n).dispatch event).1

/-- An event about the geometry of a window that is told again and again places the window once at most,
the first time. -/
theorem repeated_geometry_places_once (kind : event.kind = .configure e)
    (unscaled : s.env.map.scale = none)
    (apart : ∀ info, s.env.info? (target s.env event) = some info → info.parent ≠ target s.env event)
    (n : Nat) : (s.told event (n + 1)).env.journal.placements =
      (s.dispatch event).1.env.journal.placements := by
  have steady : ∀ n, (s.told event n).env.map.scale = none ∧
      target (s.told event n).env event = target s.env event ∧
      ∀ info, (s.told event n).env.info? (target s.env event) = some info →
        info.parent ≠ target s.env event := by
    intro n
    induction n with
    | zero => exact ⟨unscaled, rfl, apart⟩
    | succ n ih =>
        obtain ⟨unscaled, about, apart⟩ := ih
        have reframes : (s.told event n).env.Reframes (target (s.told event n).env event)
            (s.told event (n + 1)).env := reframes_dispatch kind
        rw [about] at reframes
        exact ⟨reframes.map ▸ unscaled, (target_dispatch kind event).trans about,
          fun info => reframes.apart apart⟩
  induction n with
  | zero => rfl
  | succ n ih =>
      obtain ⟨unscaled, about, apart⟩ := steady n
      exact (placements_dispatch_again kind unscaled (about ▸ apart)).trans ih

def innerWindow : WindowInfo :=
  { WindowInfo.plain ⟨0x20002⟩ WindowStyle.child ⟨110, 120, 160, 150⟩ with
    host := some ⟨0x5000000⟩, managed := true, mapped := true, parent := ⟨0x20000⟩ }

/-- It lies in a window that does not begin at the screen's corner. -/
def nested : Scene :=
  let s := alone ⟨0, 0, 1920, 1080⟩
  { s with env :=
      (s.env.createWindow WindowStyle.visible ⟨100, 100, 500, 400⟩).1.addWindow innerWindow }

def placeReported : EventRecord :=
  { serial := ⟨0⟩, window := ⟨0x5000000⟩, kind := .configure ⟨⟨10, 20⟩, 50, 30⟩ }

/-- Told three times, it places the window once. -/
theorem nested_placed_once : (nested.told placeReported 3).env.journal.placements =
    [(⟨0x20002⟩, ⟨10, 20, 60, 50⟩, placementFlags false ⟨110, 120, 160, 150⟩ ⟨10, 20, 60, 50⟩)] := by
  have about : target nested.env placeReported = ⟨0x20002⟩ := by decide +kernel
  have apart : ∀ info, nested.env.info? (target nested.env placeReported) = some info →
      info.parent ≠ target nested.env placeReported := by
    rw [about]
    intro info known
    obtain rfl := Option.some.inj known
    decide
  rw [repeated_geometry_places_once rfl rfl apart 2]
  decide +kernel

/-- Whether an event tells of the geometry of a window as it is: of its sides and, if the event was sent,
of its corner on the root, else of the corner in the parent's client area. Of the corner of a window at
the top level, events that were not sent have nothing to tell. -/
structure Echoes (env : Environment) (h : Handle) (info : WindowInfo) (event : EventRecord)
    (e : ConfigureEvent) : Prop where
  width : signedExtent e.width = info.windowRect.width
  height : signedExtent e.height = info.windowRect.height
  sent : event.sent = true → e.position = env.map.toRoot info.windowRect.topLeft
  inner : event.sent = false → isTopLevel env h = false → ∃ parent,
    env.info? (env.parent h) = some parent ∧
      e.position = ⟨info.windowRect.left - parent.clientRect.left,
        info.windowRect.top - parent.clientRect.top⟩

/-- From where a window is to where it is taken to be. Inside another window its place in the parent's
client area is taken for one on the screen; what the host tells of the root lies at the root's corner. -/
def misreading (env : Environment) (h : Handle) (info : WindowInfo) (event : EventRecord) : Point :=
  if isTopLevel env h then
    if !event.sent && event.window == root then
      ⟨env.map.virtualOrigin.x - info.windowRect.left, env.map.virtualOrigin.y - info.windowRect.top⟩
    else ⟨0, 0⟩
  else
    match env.info? (env.parent h) with
    | none => ⟨0, 0⟩
    | some parent => ⟨-parent.clientRect.left, -parent.clientRect.top⟩

/-- The rectangle that an echo has a window go to. -/
theorem configuredRect_of_echo {env : Environment} (unscaled : env.map.scale = none)
    (own : event.window = root ∨ ∃ hosted, env.hosted? event.window = some hosted ∧ hosted.info = info)
    (echoes : Echoes env h info event e) : configuredRect env h event e =
      info.windowRect.offset (misreading env h info event).x (misreading env h info event).y := by
  have sized : ∀ x y, Rect.ofSize x y e.width e.height =
      info.windowRect.offset (x - info.windowRect.left) (y - info.windowRect.top) := by
    intro x y
    simp only [Rect.ofSize, echoes.width, echoes.height, Rect.offset, Rect.width, Rect.height,
      Rect.mk.injEq]
    omega
  unfold configuredRect misreading
  simp only [sized]
  cases sent : event.sent with
  | true =>
      have corner : env.map.fromRoot e.position = info.windowRect.topLeft := by
        rw [echoes.sent sent, CoordinateMap.fromRoot_toRoot unscaled]
      cases isTopLevel env h with
      | true => simp [corner, Rect.topLeft]
      | false => cases env.info? (env.parent h) <;> simp [corner, Rect.topLeft, Rect.offset_offset]
  | false =>
      cases top : isTopLevel env h with
      | true =>
          by_cases onRoot : event.window = root
          · have corner : env.placeOnRoot root ⟨0, 0⟩ = ⟨0, 0⟩ := rfl
            simp [corner, onRoot, CoordinateMap.fromRoot, CoordinateMap.realToUser, unscaled]
          · obtain ⟨hosted, found, its⟩ := own.resolve_left onRoot
            have corner : env.map.fromRoot (env.placeOnRoot event.window ⟨0, 0⟩) =
                info.windowRect.topLeft := by
              rw [← CoordinateMap.fromRoot_toRoot unscaled info.windowRect.topLeft]
              simp [Environment.placeOnRoot, onRoot, found, its]
            simp [corner, onRoot, Rect.topLeft]
      | false =>
          obtain ⟨parent, found, place⟩ := echoes.inner sent top
          have back : ∀ a b : Int, a - b - a = -b := fun a b => by omega
          simp [place, found, back]

/-- An event that tells of the geometry of a window as it is has the window placed only if the place is
misread. Then the window jumps by the distance between where it is and where it is taken to be. -/
theorem echo_moves_by_misreading (kind : event.kind = .configure e) (concerns : s.Concerns h event)
    (known : s.env.info? h = some info)
    (own : event.window = root ∨
      ∃ hosted, s.env.hosted? event.window = some hosted ∧ hosted.info = info)
    (unscaled : s.env.map.scale = none) (filled : info.windowRect.isEmpty = false)
    (echoes : Echoes s.env h info event e) :
    let jump := misreading s.env h info event
    let rect := info.windowRect.offset jump.x jump.y
    ((s.dispatch event).1.env.journal.placements = s.env.journal.placements ↔
        ¬ s.Follows h info event ∨ jump = ⟨0, 0⟩) ∧
      (s.Follows h info event → jump ≠ ⟨0, 0⟩ →
        (s.dispatch event).1.env.journal.placements = s.env.journal.placements ++
            [(h, rect, placementFlags info.foreign info.windowRect rect)] ∧
          Environment.geometry? (s.dispatch event).1.env h = some rect) := by
  intro jump rect
  have place : configuredRect s.env h event e = rect := configuredRect_of_echo unscaled own echoes
  have reach : info.windowRect.broughtTo rect = rect := Rect.broughtTo_of_filled filled
  have followed : s.Follows h info event →
      (s.dispatch event).1.env.journal.placements = s.env.journal.placements ++
        if jump = ⟨0, 0⟩ then []
        else [(h, rect, placementFlags info.foreign info.windowRect rect)] := by
    intro follows
    rw [env_dispatch_of_follows kind follows, Environment.placements_bring, place, reach]
    simp only [rect, Rect.offset_eq_self_iff]
  constructor
  · by_cases follows : s.Follows h info event
    · rw [followed follows]
      by_cases stays : jump = ⟨0, 0⟩ <;> simp [stays, follows]
    · have still := backdrop_dispatch_of_not_follows kind concerns known follows
      exact iff_of_true (Environment.eq_of_backdrop still (fun env => env.journal.placements) fun _ => rfl)
        (.inl follows)
  · intro follows away
    refine ⟨by rw [followed follows, if_neg away], ?_⟩
    rw [env_dispatch_of_follows kind follows, place, Environment.geometry?_bring _ known, if_pos rfl, reach]

/-- The inner window goes to where it would be if it was not inside. -/
theorem nested_jumps : (nested.dispatch placeReported).1.env.journal.placements =
      nested.env.journal.placements ++ [(⟨0x20002⟩, ⟨10, 20, 60, 50⟩,
        placementFlags false ⟨110, 120, 160, 150⟩ ⟨10, 20, 60, 50⟩)] ∧
    Environment.geometry? (nested.dispatch placeReported).1.env ⟨0x20002⟩ = some ⟨10, 20, 60, 50⟩ := by
  have concerns : nested.Concerns ⟨0x20002⟩ placeReported := ⟨by decide +kernel, by decide⟩
  have known : nested.env.info? ⟨0x20002⟩ = some innerWindow := rfl
  have echoes : Echoes nested.env ⟨0x20002⟩ innerWindow placeReported ⟨⟨10, 20⟩, 50, 30⟩ := by
    refine ⟨by decide, by decide, nofun, fun _ _ => ⟨_, rfl, ?_⟩⟩
    decide +kernel
  have follows : nested.Follows ⟨0x20002⟩ innerWindow placeReported :=
    ⟨concerns, known, by decide +kernel, by decide +kernel⟩
  exact (echo_moves_by_misreading rfl concerns known (.inr ⟨_, rfl, rfl⟩) rfl (by decide) echoes).2
    follows (by decide +kernel)

end Scene

end GuestSeat
