import GuestSeat.Proofs.Clip.Course

/-!
Runs of a single seat. Between its calls the surroundings may change: windows come and go, the host and
the guest change their minds. What a run may do is left to a predicate on its turns.
-/

namespace GuestSeat.Scene

/-- A call of the seat, or a change of its surroundings. -/
inductive Turn
  | call (call : Call)
  | change (env : Environment)

def take? (s : Scene) : Turn → Option Scene
  | .call call => s.call? call
  | .change env => some { s with env }

/-- A seat that has not acted yet and is not the desktop's. -/
structure Fresh (s : Scene) : Prop where
  input : s.seat.input = (Seat.ofConfig s.seat.config).input
  registry : s.seat.registry = none

theorem Fresh.clip_eq_none {s : Scene} (fresh : Fresh s) : s.standing.clip = none :=
  congrArg InputState.clip fresh.input

/-- A fresh seat on a screen with one output and no window but the desktop's. -/
def alone (screen : Rect) : Scene := { seat := .ofConfig {}, env := .ofScreen screen }

theorem fresh_alone (screen : Rect) : Fresh (alone screen) := ⟨rfl, rfl⟩

inductive Run (allowed : Scene → Turn → Prop) (start : Scene) : Scene → Prop
  | start : Run allowed start start
  | turn {s t : Scene} {turn : Turn} (run : Run allowed start s) (ok : allowed s turn)
      (taken : s.take? turn = some t) : Run allowed start t

/-- What every turn preserves holds all along a run. -/
theorem Run.preserves {allowed : Scene → Turn → Prop} {start s : Scene} {P : Scene → Prop}
    (run : Run allowed start s) (hstart : P start)
    (hturn : ∀ {s t : Scene} {turn : Turn}, P s → allowed s turn → s.take? turn = some t → P t) :
    P s := by
  induction run with
  | start => exact hstart
  | turn _ ok taken ih => exact hturn ih ok taken

end GuestSeat.Scene
