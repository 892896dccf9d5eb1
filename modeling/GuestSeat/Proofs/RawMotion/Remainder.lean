import Mathlib.Data.Rat.Floor
import Mathlib.Tactic.Linarith
import GuestSeat.Proofs.RawMotion.Source

/-!
Raw motion without drift. Reckoned exactly, an accumulator passes on all the motion that it takes in but what is
left over, and less than one is ever left over on either coordinate. The two coordinates are passed on together,
whichever of them is due; whole parts are taken toward zero, so steps may have either sign and cancel.
-/

namespace GuestSeat

def truncated (q : ℚ) : Int := if q < 0 then ⌈q⌉ else ⌊q⌋

def coordinateLimit : Int := 2 ^ 31

/-- Exact arithmetic. -/
instance : MotionNumber ℚ where
  ofInt n := n
  less a b := decide (a < b)
  isFraction q := decide (|q| < 1)
  whole q := truncated q
  toCoordinate q := max (-coordinateLimit) (min (coordinateLimit - 1) (truncated q))

def FitsCoordinate (q : ℚ) : Prop := -coordinateLimit ≤ truncated q ∧ truncated q < coordinateLimit

instance : DecidablePred FitsCoordinate := fun _ => inferInstanceAs (Decidable (_ ∧ _))

theorem truncated_intCast (n : Int) : truncated n = n := by
  unfold truncated
  split <;> simp

theorem abs_sub_truncated (q : ℚ) : |q - truncated q| < 1 := by
  rw [abs_lt]
  unfold truncated
  split
  · constructor <;> linarith [Int.ceil_lt_add_one q, Int.le_ceil q]
  · constructor <;> linarith [Int.lt_floor_add_one q, Int.floor_le q]

theorem toCoordinate_truncated {q : ℚ} (fits : FitsCoordinate q) :
    MotionNumber.toCoordinate (MotionNumber.whole q) = truncated q := by
  have same : MotionNumber.toCoordinate (MotionNumber.whole q) =
      max (-coordinateLimit) (min (coordinateLimit - 1) (truncated (truncated q))) := rfl
  rw [same, truncated_intCast]
  unfold FitsCoordinate at fits
  omega

def MotionOutcome.step : MotionOutcome → Point
  | .motion step => step
  | .pending | .notApplicable => ⟨0, 0⟩

/-- An event that was taken in, and the accumulator that it met. -/
structure RawIntake (ν : Type) where
  taker : Accumulator ν
  event : RawMotionEvent ν
  screen : Rect

namespace RawIntake

def step {ν : Type} [MotionNumber ν] (i : RawIntake ν) : Point := (i.taker.accumulate i.event i.screen).2.step

/-- Whether the accumulated motion has coordinates for whole parts. -/
def Fits (x y : AxisCalibration ℚ) (i : RawIntake ℚ) : Prop :=
  FitsCoordinate (i.taker.restX + x.stepOf i.event.valuators i.screen.width) ∧
    FitsCoordinate (i.taker.restY + y.stepOf i.event.valuators i.screen.height)

instance (x y : AxisCalibration ℚ) : DecidablePred (Fits x y) :=
  fun _ => inferInstanceAs (Decidable (_ ∧ _))

end RawIntake

namespace Accumulator

section session

variable {ν : Type} [MotionNumber ν] {a : Accumulator ν}

/-- Whether a call finds the axes of the coordinates anew. -/
def recalibrates (a : Accumulator ν) : RawCall ν → Bool
  | .event _ _ => false
  | .change change => a.isSourceSwitch change
  | .calibrate _ => true

/-- Whether the axes of the coordinates have just been found anew, and raw motion is on. -/
inductive Recalibrated : Accumulator ν → Prop
  | enabled (a : Accumulator ν) (session : RawSession ν) : Recalibrated (a.enable session)
  | called (a : Accumulator ν) (on : a.isEnabled = true) (call : RawCall ν)
      (anew : a.recalibrates call = true) : Recalibrated (a.next call)

def intakes (a : Accumulator ν) : List (RawCall ν) → List (RawIntake ν)
  | [] => []
  | .event event screen :: rest =>
    let later := (a.next (.event event screen)).intakes rest
    if (a.accumulate event screen).2 = .notApplicable then later else ⟨a, event, screen⟩ :: later
  | .change change :: rest => (a.next (.change change)).intakes rest
  | .calibrate axes :: rest => (a.next (.calibrate axes)).intakes rest

theorem Recalibrated.rest (h : a.Recalibrated) : a.restX = 0 ∧ a.restY = 0 := by
  cases h with
  | enabled a session => exact ⟨rfl, rfl⟩
  | called a on call anew =>
    cases call with
    | event event screen => cases anew
    | change change =>
      have switched : a.isSourceSwitch change = true := anew
      simp only [next, follow, switched, if_true]
      exact ⟨rfl, rfl⟩
    | calibrate axes => exact ⟨rfl, rfl⟩

theorem recalibrates_next (a : Accumulator ν) (call : RawCall ν) :
    (a.next call).recalibrates = a.recalibrates := by
  funext later
  unfold recalibrates isSourceSwitch
  rw [(sameSession_next a call).core]

theorem axes_next {call : RawCall ν} (kept : a.recalibrates call = false) :
    (a.next call).x = a.x ∧ (a.next call).y = a.y := by
  cases call with
  | event event screen =>
    by_cases admitted : a.Admits event
    · obtain ⟨restX, restY, outcome, eq, -⟩ := accumulate_admitted admitted screen
      simp [next, eq]
    · simp [next, accumulate_refused admitted]
  | change change =>
    have other : a.isSourceSwitch change = false := kept
    simp [next, follow, other]
  | calibrate axes => cases kept

theorem intakes_admitted {event : RawMotionEvent ν} (admitted : a.Admits event) (screen : Rect)
    (rest : List (RawCall ν)) : a.intakes (.event event screen :: rest) =
      ⟨a, event, screen⟩ :: (a.next (.event event screen)).intakes rest := by
  refine if_neg fun unanswered => ?_
  obtain ⟨restX, restY, outcome, eq, answered⟩ := accumulate_admitted admitted screen
  rw [eq] at unanswered
  rcases answered with rfl | ⟨step, rfl⟩ <;> cases unanswered

theorem intakes_refused {event : RawMotionEvent ν} (refused : ¬ a.Admits event) (screen : Rect)
    (rest : List (RawCall ν)) : a.intakes (.event event screen :: rest) = a.intakes rest := by
  simp only [intakes, next, accumulate_refused refused, if_true]

end session

variable {a : Accumulator ℚ} {x y : AxisCalibration ℚ}

/-- All of a step is passed on or left over. -/
theorem advance_balance (a : Accumulator ℚ) {dx dy : ℚ} (fitsX : FitsCoordinate (a.restX + dx))
    (fitsY : FitsCoordinate (a.restY + dy)) :
    ((a.advance dx dy).2.step.x : ℚ) + (a.advance dx dy).1.restX = a.restX + dx ∧
      ((a.advance dx dy).2.step.y : ℚ) + (a.advance dx dy).1.restY = a.restY + dy := by
  unfold advance
  dsimp only
  split
  · exact ⟨zero_add _, zero_add _⟩
  · dsimp only [MotionOutcome.step]
    rw [toCoordinate_truncated fitsX, toCoordinate_truncated fitsY]
    exact ⟨add_sub_cancel _ _, add_sub_cancel _ _⟩

theorem abs_rest_advance (a : Accumulator ℚ) (dx dy : ℚ) :
    |(a.advance dx dy).1.restX| < 1 ∧ |(a.advance dx dy).1.restY| < 1 := by
  unfold advance
  dsimp only
  split
  · next fractions =>
    rw [Bool.and_eq_true] at fractions
    exact ⟨of_decide_eq_true fractions.1, of_decide_eq_true fractions.2⟩
  · exact ⟨abs_sub_truncated _, abs_sub_truncated _⟩

/-- An event that is taken in moves on, or leaves over, what its values and what was left over come to. -/
theorem intake_balance {event : RawMotionEvent ℚ} (admitted : a.Admits event) (screen : Rect)
    (hx : a.x = some x) (hy : a.y = some y) (fits : RawIntake.Fits x y ⟨a, event, screen⟩) :
    ((RawIntake.mk a event screen).step.x : ℚ) + (a.next (.event event screen)).restX =
        a.restX + x.stepOf event.valuators screen.width ∧
      ((RawIntake.mk a event screen).step.y : ℚ) + (a.next (.event event screen)).restY =
        a.restY + y.stepOf event.valuators screen.height := by
  obtain ⟨x', y', hx', hy', eq⟩ := accumulate_eq_advance admitted screen
  cases hx.symm.trans hx'
  cases hy.symm.trans hy'
  simp only [RawIntake.step, next, eq]
  exact advance_balance { a with source := some event.device } fits.1 fits.2

def IsFractional (a : Accumulator ℚ) : Prop := |a.restX| < 1 ∧ |a.restY| < 1

theorem isFractional_of_rest (noX : a.restX = 0) (noY : a.restY = 0) : a.IsFractional := by
  unfold IsFractional
  rw [noX, noY, abs_zero]
  exact ⟨zero_lt_one, zero_lt_one⟩

theorem IsFractional.next (h : a.IsFractional) (call : RawCall ℚ) : (a.next call).IsFractional := by
  cases call with
  | event event screen =>
    by_cases admitted : a.Admits event
    · obtain ⟨x, y, -, -, eq⟩ := accumulate_eq_advance admitted screen
      simp only [Accumulator.next, eq]
      exact abs_rest_advance _ _ _
    · simp only [Accumulator.next, accumulate_refused admitted]
      exact h
  | change change =>
    simp only [Accumulator.next, follow]
    split
    · exact isFractional_of_rest rfl rfl
    · exact h
  | calibrate axes => exact isFractional_of_rest rfl rfl

theorem IsFractional.after (h : a.IsFractional) (calls : List (RawCall ℚ)) :
    (a.after calls).IsFractional := by
  induction calls generalizing a with
  | nil => exact h
  | cons call rest ih => exact ih (h.next call)

/-- Over some calls that do not find the axes anew all motion that was taken in is passed on or left over. -/
theorem balance_after (hx : a.x = some x) (hy : a.y = some y) {calls : List (RawCall ℚ)}
    (steady : ∀ call ∈ calls, a.recalibrates call = false) (within : ∀ i ∈ a.intakes calls, i.Fits x y) :
    (((a.intakes calls).map fun i => i.step.x).sum : ℚ) + (a.after calls).restX = a.restX +
        ((a.intakes calls).map fun i => x.stepOf i.event.valuators i.screen.width).sum ∧
      (((a.intakes calls).map fun i => i.step.y).sum : ℚ) + (a.after calls).restY = a.restY +
        ((a.intakes calls).map fun i => y.stepOf i.event.valuators i.screen.height).sum := by
  -- by the calls; the axes stay, and what the first call leaves over is what the later ones start with
  induction calls generalizing a with
  | nil => simp [intakes, after]
  | cons call rest ih =>
    obtain ⟨first, others⟩ := List.forall_mem_cons.mp steady
    obtain ⟨sameX, sameY⟩ := axes_next first
    have ih := ih (sameX.trans hx) (sameY.trans hy) fun later member => by
      rw [recalibrates_next]
      exact others later member
    change _ + ((a.next call).after rest).restX = _ ∧ _ + ((a.next call).after rest).restY = _
    cases call with
    | event event screen =>
      by_cases admitted : a.Admits event
      · rw [intakes_admitted admitted] at within ⊢
        obtain ⟨fits, within⟩ := List.forall_mem_cons.mp within
        obtain ⟨laterX, laterY⟩ := ih within
        obtain ⟨nowX, nowY⟩ := intake_balance admitted screen hx hy fits
        simp only [List.map_cons, List.sum_cons]
        constructor <;> linarith
      · rw [intakes_refused admitted] at within ⊢
        simp only [next, accumulate_refused admitted] at ih ⊢
        exact ih within
    | change change =>
      have other : a.isSourceSwitch change = false := first
      have same : a.next (.change change) = a := by simp [next, follow, other]
      have skipped : a.intakes (.change change :: rest) = a.intakes rest := congrArg (·.intakes rest) same
      rw [skipped] at within ⊢
      rw [same] at ih ⊢
      exact ih within
    | calibrate axes => cases first

/-- Raw motion does not drift. Since the axes were last found anew, the motion that was passed on and what is left
over make up all the steps that were taken in, on either coordinate, provided that what has been accumulated has
always had coordinates for whole parts. After every call less than one is left over. -/
theorem motion_never_drifts (recalibrated : a.Recalibrated) (hx : a.x = some x) (hy : a.y = some y)
    {calls : List (RawCall ℚ)} (steady : ∀ call ∈ calls, a.recalibrates call = false)
    (within : ∀ i ∈ a.intakes calls, i.Fits x y) :
    (((a.intakes calls).map fun i => i.step.x).sum : ℚ) + (a.after calls).restX =
        ((a.intakes calls).map fun i => x.stepOf i.event.valuators i.screen.width).sum ∧
      (((a.intakes calls).map fun i => i.step.y).sum : ℚ) + (a.after calls).restY =
        ((a.intakes calls).map fun i => y.stepOf i.event.valuators i.screen.height).sum ∧
      ∀ past future, calls = past ++ future →
        |(a.after past).restX| < 1 ∧ |(a.after past).restY| < 1 := by
  obtain ⟨noX, noY⟩ := recalibrated.rest
  obtain ⟨sumX, sumY⟩ := balance_after hx hy steady within
  rw [noX] at sumX
  rw [noY] at sumY
  have fractional : a.IsFractional := isFractional_of_rest noX noY
  exact ⟨sumX.trans (zero_add _), sumY.trans (zero_add _), fun past _ _ => fractional.after past⟩

/-- Steps of two fifths add up until one is passed on, and the step down along the other axis is cut off with
it. -/
theorem slow_motion_adds_up :
    let axis (number : UInt16) (label : AxisLabel) : AxisInfo ℚ := ⟨number, label, -1, -1, .relative⟩
    let session : RawSession ℚ := ⟨⟨2⟩, [⟨⟨2⟩, .masterPointer, ⟨3⟩, [axis 0 .relX, axis 1 .relY]⟩,
      ⟨⟨9⟩, .slavePointer, ⟨2⟩, []⟩]⟩
    let slow : RawCall ℚ := .event { device := ⟨9⟩, valuators := ⟨1, [2 / 5]⟩ } ⟨0, 0, 1920, 1080⟩
    let both : RawCall ℚ := .event { device := ⟨9⟩, valuators := ⟨3, [2 / 5, -1 / 5]⟩ } ⟨0, 0, 1920, 1080⟩
    let start := (initial : Accumulator ℚ).enable session
    (start.intakes [slow, slow, both]).map RawIntake.step = [⟨0, 0⟩, ⟨0, 0⟩, ⟨1, 0⟩] ∧
      1 + (start.after [slow, slow, both]).restX = 6 / 5 ∧
      (start.after [slow, slow, both]).restY = -1 / 5 := by
  intro axis session slow both start
  obtain ⟨sumX, sumY, -⟩ := @motion_never_drifts start ⟨0, -1, -1⟩ ⟨1, -1, -1⟩ (.enabled _ _) rfl rfl
    [slow, slow, both] (by decide) (by decide +kernel)
  have stepsX : ((start.intakes [slow, slow, both]).map fun i => (i.step.x : ℚ)).sum = 1 := by decide +kernel
  have stepsY : ((start.intakes [slow, slow, both]).map fun i => (i.step.y : ℚ)).sum = 0 := by decide +kernel
  rw [stepsX] at sumX
  rw [stepsY] at sumY
  refine ⟨by decide +kernel, ?_, ?_⟩
  · calc _ = _ := sumX
      _ = 6 / 5 := by decide +kernel
  · calc _ = _ := (zero_add _).symm
      _ = _ := sumY
      _ = -1 / 5 := by decide +kernel

end Accumulator

end GuestSeat
