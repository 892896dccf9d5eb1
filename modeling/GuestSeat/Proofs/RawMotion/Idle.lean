import GuestSeat.RawMotion.Accumulator

/-!
Raw motion that is off. An accumulator that never had a session, or whose session is over, holds nothing
but its status, and no event changes that.
-/

namespace GuestSeat.Accumulator

variable {ν : Type} [MotionNumber ν] {a : Accumulator ν}

structure IsIdle (a : Accumulator ν) : Prop where
  off : a.status ≠ .enabled
  blank : a = { (initial : Accumulator ν) with status := a.status }

theorem isIdle_initial : (initial : Accumulator ν).IsIdle := ⟨by simp [initial], rfl⟩

/-- An idle accumulator has neither axes nor a source, and nothing is left over in it. -/
theorem IsIdle.fields (h : a.IsIdle) :
    a.x = none ∧ a.y = none ∧ a.source = none ∧ a.restX = 0 ∧ a.restY = 0 := by
  rw [h.blank]
  exact ⟨rfl, rfl, rfl, rfl, rfl⟩

theorem IsIdle.withdraw (h : a.IsIdle) : a.withdraw.IsIdle := by
  refine ⟨by simp [Accumulator.withdraw], ?_⟩
  rw [h.blank]
  rfl

theorem isIdle_disable (on : a.status = .enabled) : a.disable.IsIdle := by
  have ended : a.disable = { (initial : Accumulator ν) with status := .disabled } := by
    simp [disable, isEnabled, on]
  rw [ended]
  exact ⟨by simp, rfl⟩

/-- Raw events are lost on an idle accumulator. -/
theorem IsIdle.accumulate (h : a.IsIdle) (event : RawMotionEvent ν) (screen : Rect) :
    a.accumulate event screen = (a, .notApplicable) := by
  unfold Accumulator.accumulate
  rw [h.fields.1]

/-- A session's core pointer is the only device whose changes count, and there is no session. -/
theorem IsIdle.follow (h : a.IsIdle) (change : DeviceChangeEvent ν) : a.follow change = a := by
  have unknown : a.corePointer = none := by
    rw [h.blank]
    rfl
  simp [Accumulator.follow, isSourceSwitch, unknown]

end GuestSeat.Accumulator
