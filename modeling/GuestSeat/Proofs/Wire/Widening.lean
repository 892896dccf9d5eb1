import GuestSeat.Wire.Basic
import Mathlib.Data.List.Basic

/-!
Recovery of serials from their last sixteen bits. A widener compares every sequence number with the largest
serial so far, so serials may arrive out of order, on either side of a wrap, as long as none of them lies half a
span from the largest before it. Nothing is asked of where the wraps are or how many there are.
-/

namespace GuestSeat

/-- The last sixteen bits of a serial, which are all of it that comes over the wire. -/
def Serial.sequence (s : Serial) : UInt16 := s.value.toUInt16

theorem Serial.toNat_sequence (s : Serial) : s.sequence.toNat = s.value.toNat % Wire.Widener.span :=
  s.value.toNat_toUInt16

namespace Wire.Widener

variable {w : Widener} {t : Serial} {stream : List Serial}

/-- The widener once the given serials have been recovered. -/
def seen (w : Widener) (serials : List Serial) : Widener := ⟨(serials.map (·.value.toNat)).foldl max w.last⟩

/-- A serial that lies less than half a span from the largest one, on either side. -/
def Near (w : Widener) (t : Serial) : Prop := t.value.toNat < w.last + reach ∧ w.last < t.value.toNat + reach

instance : Decidable (w.Near t) := inferInstanceAs (Decidable (_ ∧ _))

def widenAll (w : Widener) : List UInt16 → List Serial
  | [] => []
  | sequence :: rest => (w.widen sequence).2 :: (w.widen sequence).1.widenAll rest

/-- None of the sums that are formed on the way to the nearest serial needs more than sixty-four bits. -/
def Fits (w : Widener) (sequence : UInt16) : Prop :=
  w.last - w.last % span + sequence.toNat + span < UInt64.size ∧ w.last + reach < UInt64.size

/-- Of the serials that end alike only one is near: the span below, the span of the largest serial and the span
above are told apart by the two comparisons. -/
theorem nearest_sequence (near : w.Near t) : w.nearest t.sequence = t.value.toNat := by
  obtain ⟨above, below⟩ := near
  simp only [nearest, t.toNat_sequence]
  split_ifs <;> simp only [span, reach] at * <;> omega

theorem widen_sequence (near : w.Near t) : w.widen t.sequence = (w.seen [t], t) := by
  simp only [widen, nearest_sequence near, UInt64.ofNat_toNat]
  rfl

theorem seen_cons (w : Widener) (t : Serial) (serials : List Serial) :
    w.seen (t :: serials) = (w.seen [t]).seen serials := rfl

theorem fits (room : w.last < UInt64.size - 2 * span) (sequence : UInt16) : w.Fits sequence := by
  have small : sequence.toNat < span := sequence.toNat_lt
  simp only [Fits, span, reach, UInt64.size] at *
  omega

theorem last_seen_lt {bound : Nat} (start : w.last < bound) {serials : List Serial}
    (room : ∀ t ∈ serials, t.value.toNat < bound) : (w.seen serials).last < bound := by
  induction serials generalizing w with
  | nil => exact start
  | cons t rest ih =>
    rw [seen_cons]
    exact ih (Nat.max_lt.mpr ⟨start, room t List.mem_cons_self⟩) fun u known => room u (List.mem_cons_of_mem t known)

/-- Serials each of which lies less than half a span from the largest one before it are recovered from their last
sixteen bits, and sums formed on the way stay within sixty-four bits where the serials leave two spans of room. -/
theorem widenAll_sequences
    (near : ∀ i (within : i < stream.length), (w.seen (stream.take i)).Near stream[i]) :
    w.widenAll (stream.map Serial.sequence) = stream ∧
      (w.last < UInt64.size - 2 * span → (∀ t ∈ stream, t.value.toNat < UInt64.size - 2 * span) →
        ∀ i (within : i < stream.length), (w.seen (stream.take i)).Fits stream[i].sequence) := by
  refine ⟨?_, fun start room i within =>
    fits (last_seen_lt start fun t taken => room t (List.mem_of_mem_take taken)) _⟩
  -- the widener of the rest of the stream has seen its first serial
  induction stream generalizing w with
  | nil => rfl
  | cons t rest ih =>
    have first : w.widen t.sequence = (w.seen [t], t) := widen_sequence (near 0 (Nat.zero_lt_succ _))
    have others : (w.seen [t]).widenAll (rest.map Serial.sequence) = rest :=
      ih fun i within => near (i + 1) (Nat.succ_lt_succ within)
    rw [List.map_cons, widenAll, first, others]

/-- Serials on both sides of two wraps, not all of them in order. -/
theorem widenAll_sequences_across_wraps :
    let stream := [0x10005, 0xfffe, 0x17fff, 0x11000, 0x1fffe, 0x20001].map Serial.mk
    (∀ i (within : i < stream.length), ((Widener.mk 0xfff0).seen (stream.take i)).Near stream[i]) ∧
      (Widener.mk 0xfff0).widenAll [0x0005, 0xfffe, 0x7fff, 0x1000, 0xfffe, 0x0001] = stream ∧
      ∀ i (within : i < stream.length), ((Widener.mk 0xfff0).seen (stream.take i)).Fits stream[i].sequence := by
  intro stream
  have near : ∀ i (within : i < stream.length), ((Widener.mk 0xfff0).seen (stream.take i)).Near stream[i] := by
    decide
  have recovered := widenAll_sequences near
  exact ⟨near, recovered.1, recovered.2 (by decide) (by decide)⟩

end Wire.Widener
end GuestSeat
