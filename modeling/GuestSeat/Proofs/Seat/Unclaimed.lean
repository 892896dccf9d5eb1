import GuestSeat.Proofs.Clip.Run
import GuestSeat.Proofs.Drain.Handover
import GuestSeat.Proofs.Seat.Handlers

/-!
Events on host windows that are nobody's: no guest window is behind them, and they are neither the root nor
the surface that a clip catches the pointer with. Their handlers find no window to act on. All that such an
event can do is to show, as a move of the pointer, that a warp has taken effect.
-/

namespace GuestSeat.Scene

open Environment (root)

structure Unclaimed (s : Scene) (w : HostWindow) : Prop where
  unknown : s.env.lookup? w = none
  below : w ≠ root
  aside : s.seat.input.captureSurface ≠ some w

def tellsOfMove (event : EventRecord) : Bool :=
  match event.kind with
  | .motion _ => true
  | .enter e => e.detail != .virtual
  | _ => false

/-- Whether an event shows that the warp which is waited for has taken effect. -/
def showsWarp (s : Scene) (event : EventRecord) : Bool :=
  s.seat.input.warpFence.isArmed && tellsOfMove event && !s.seat.input.warpFence.holdsBack event.serial

def warped (s : Scene) : Scene := s.edit fun i => { i with warpFence := {} }

variable {s : Scene} {event : EventRecord}

theorem Unclaimed.target_eq (unclaimed : s.Unclaimed event.window) : target s.env event = Handle.null := by
  unfold target
  split
  · rfl
  · rw [unclaimed.unknown, beq_false_of_ne unclaimed.below]
    rfl

theorem captureMouse_aside {a : PointerAction} (aside : s.seat.input.captureSurface ≠ some a.host) :
    s.captureMouse a = (s, false) := by
  unfold captureMouse
  split
  · rfl
  · rw [beq_false_of_ne aside]
    rfl

/-- A move of the pointer without a guest window releases the fence and counts, unless it is older. -/
theorem moveTo_of_null (serial : Serial) (a : PointerAction) : s.moveTo Handle.null serial a =
    if s.seat.input.warpFence.holdsBack serial then (s, false) else s.warped.captureMouse a := by
  have passed : s.passWarpFence serial =
      (s.edit fun i => { i with warpFence := i.warpFence.pass serial },
        s.seat.input.warpFence.holdsBack serial) := rfl
  unfold moveTo
  rw [if_pos (show Handle.null.isNull = true from rfl), passed]
  cases held : s.seat.input.warpFence.holdsBack serial with
  | true =>
      have kept : s.seat.input.warpFence.pass serial = s.seat.input.warpFence := if_pos held
      dsimp only [edit]
      rw [kept]
      rfl
  | false =>
      have released : s.seat.input.warpFence.pass serial = {} := if_neg (by rw [held]; nofun)
      dsimp only [edit]
      rw [released]
      rfl

theorem fst_moveTo_aside {a : PointerAction} (aside : s.seat.input.captureSurface ≠ some a.host)
    (serial : Serial) : (s.moveTo Handle.null serial a).1 =
      if s.seat.input.warpFence.holdsBack serial then s else s.warped := by
  rw [moveTo_of_null]
  split
  · rfl
  · exact congrArg Prod.fst (captureMouse_aside (s := s.warped) aside)

/-- A fence that is not armed makes no difference when it is released. -/
theorem warped_of_unarmed (unarmed : s.seat.input.warpFence.isArmed = false) : s.warped = s := by
  have same : s.seat.input.warpFence = {} := by
    unfold Fence.isArmed at unarmed
    rw [Option.isSome_eq_false_iff, Option.isNone_iff_eq_none] at unarmed
    exact congrArg Fence.mk unarmed
  unfold warped edit
  rw [← same]

theorem showsWarp_eq_false (other : tellsOfMove event = false) : s.showsWarp event = false := by
  simp [showsWarp, other]

theorem handle_move {a : PointerAction} (moves : tellsOfMove event = true)
    (aside : s.seat.input.captureSurface ≠ some a.host) :
    (s.moveTo Handle.null event.serial a).1 = if s.showsWarp event then s.warped else s := by
  rw [fst_moveTo_aside aside]
  unfold showsWarp
  rw [moves, Bool.and_true]
  cases armed : s.seat.input.warpFence.isArmed with
  | true => cases s.seat.input.warpFence.holdsBack event.serial <;> rfl
  | false =>
      rw [warped_of_unarmed armed]
      split <;> split <;> rfl

/-- A search that leaves the null handle out finds nothing under it. -/
theorem filter_null (known : Option WindowInfo) (q : WindowInfo → Bool) :
    (known.filter fun info => !Handle.null.isNull && q info) = none := by
  cases known <;> rfl

/-- Without a window to act on a handler does nothing, but for what moves of the pointer do to the fence. -/
theorem handle_null (plain : ∀ e, event.kind ≠ .generic e)
    (aside : s.seat.input.captureSurface ≠ some event.window) :
    (s.handle Handle.null event).1 = if s.showsWarp event then s.warped else s := by
  by_cases moves : tellsOfMove event = true
  · unfold handle
    cases kind : event.kind with
    | motion e => exact handle_move moves aside
    | enter e =>
        have real : e.detail ≠ .virtual := by simpa [tellsOfMove, kind] using moves
        dsimp only
        unfold enter
        rw [if_neg real]
        exact handle_move moves aside
    | _ => simp [tellsOfMove, kind] at moves
  · rw [Bool.not_eq_true] at moves
    rw [showsWarp_eq_false moves, if_neg Bool.false_ne_true]
    unfold handle
    cases kind : event.kind with
    | key _ | leave _ | focusIn _ | expose _ | unmap | destroy | configure _ | property _
    | clientMessage _ => rfl
    | button e =>
        dsimp only
        unfold button
        split
        · rfl
        · exact congrArg Prod.fst (captureMouse_aside aside)
    | motion e => simp [tellsOfMove, kind] at moves
    | enter e =>
        have passing : e.detail = .virtual := by simpa [tellsOfMove, kind] using moves
        dsimp only
        unfold enter
        rw [if_pos passing]
    | focusOut e =>
        have kept : s.captureLost Handle.null event.window = s := by
          unfold captureLost
          rw [beq_false_of_ne aside, Bool.and_false]
          rfl
        dsimp only
        unfold focusOut
        split
        · exact kept
        · rfl
    | map =>
        dsimp only
        unfold mapped
        rw [beq_false_of_ne aside]
        rfl
    | reparent e =>
        dsimp only
        unfold reparented
        rw [filter_null]
    | gravity e =>
        dsimp only
        unfold gravity
        rw [filter_null]
    | generic e => exact absurd kind (plain e)

/-- Just one thing may change: a fence that is armed is released by a move of the pointer which is not
older. -/
theorem dispatch_of_unclaimed (plain : ∀ e, event.kind ≠ .generic e)
    (unclaimed : s.Unclaimed event.window) :
    (s.dispatch event).1 = if s.showsWarp event then s.warped else s := by
  have about := unclaimed.target_eq
  have handled : ((s.receiving event).handle (target s.env event) event).1 =
      if (s.receiving event).showsWarp event then (s.receiving event).warped else s.receiving event := by
    rw [about]
    exact handle_null plain unclaimed.aside
  rw [s.fst_dispatch handled, show (s.receiving event).showsWarp event = s.showsWarp event from rfl]
  split <;> rfl

/-- An event on a host window that is nobody's leaves the surroundings as they are, down to the journal of
requests, messages and input. Of the seat it leaves everything but the fence. -/
theorem unclaimed_event_inert (plain : ∀ e, event.kind ≠ .generic e)
    (unclaimed : s.Unclaimed event.window) :
    let t := (s.dispatch event).1
    t.env = s.env ∧ t.seat.tracker = s.seat.tracker ∧ t = if s.showsWarp event then s.warped else s := by
  have handled := dispatch_of_unclaimed plain unclaimed
  refine ⟨?_, ?_, handled⟩
  all_goals
    rw [handled]
    split <;> rfl

def warping : Scene :=
  (alone ⟨0, 0, 1920, 1080⟩).edit fun i => { i with warpFence := Fence.armed ⟨5⟩ }

/-- The pointer moved on a host window that nobody knows. -/
def movedAstray (serial : Serial) : EventRecord :=
  { serial, window := ⟨0xdead⟩, kind := .motion { position := ⟨1, 1⟩, time := 0 } }

/-- The fence is released by the first event that is not older, and nothing else happens. -/
theorem warping_moved_astray : (warping.dispatch (movedAstray ⟨4⟩)).1 = warping ∧
    (warping.dispatch (movedAstray ⟨5⟩)).1 = warping.warped ∧ warping.warped ≠ warping := by
  have astray : ∀ serial, warping.Unclaimed (movedAstray serial).window := fun _ =>
    { unknown := show warping.env.lookup? ⟨0xdead⟩ = none by decide +kernel
      below := show (⟨0xdead⟩ : HostWindow) ≠ root by decide
      aside := nofun }
  have plain : ∀ serial e, (movedAstray serial).kind ≠ .generic e := by
    intro serial e same
    cases same
  refine ⟨?_, ?_, ?_⟩
  · exact (unclaimed_event_inert (plain ⟨4⟩) (astray ⟨4⟩)).2.2
  · exact (unclaimed_event_inert (plain ⟨5⟩) (astray ⟨5⟩)).2.2
  · intro same
    exact absurd (congrArg (fun s : Scene => s.seat.input.warpFence) same) (by decide)

end GuestSeat.Scene
