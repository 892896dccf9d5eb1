import GuestSeat.Seat.Basic

/-!
The serials of requests. The host numbers whatever a seat requests, one after the other, so that the serials can
be read off the journal. A fence that a seat arms stands at one of them: the request that will move the pointer
has not been made at that point, but it is the next one that is.
-/

namespace GuestSeat

namespace Serial

/-- The serial of the request that comes so many requests later. -/
def after (s : Serial) (n : Nat) : Serial := ⟨s.value + UInt64.ofNat n⟩

variable (s : Serial)

@[simp] theorem after_zero : s.after 0 = s := congrArg Serial.mk (UInt64.add_zero s.value)

theorem next_eq_after : s.next = s.after 1 := rfl

theorem after_after (m n : Nat) : (s.after m).after n = s.after (m + n) := by
  simp only [after, UInt64.ofNat_add, UInt64.add_assoc]

theorem toNat_after {n : Nat} (room : s.value.toNat + n < UInt64.size) :
    (s.after n).value.toNat = s.value.toNat + n := by
  have small : n < UInt64.size := Nat.lt_of_le_of_lt (Nat.le_add_left n _) room
  rw [after, UInt64.toNat_add, UInt64.toNat_ofNat_of_lt' small]
  exact Nat.mod_eq_of_lt room

end Serial

/-- To check an event against a fence keeps or releases it. -/
theorem Fence.pass_cases (f : Fence) (s : Serial) : f.pass s = f ∨ f.pass s = {} := by
  unfold pass
  split
  · exact .inl rfl
  · exact .inr rfl

/-- Whether a request takes the pointer to another place; a grab takes it into the clip. -/
def HostRequest.movesPointer : HostRequest → Bool
  | .grabPointer _ | .warpPointer _ => true
  | _ => false

namespace Environment

def Numbers (a b : Environment) : Prop :=
  ∃ made, b.journal.requests = a.journal.requests ++ made ∧ b.lastSerial = a.lastSerial.after made.length

variable {a b c : Environment}

theorem Numbers.refl (a : Environment) : a.Numbers a := ⟨[], by simp, by simp⟩

theorem Numbers.trans (first : a.Numbers b) (second : b.Numbers c) : a.Numbers c := by
  obtain ⟨made, requests, serial⟩ := first
  obtain ⟨more, requests', serial'⟩ := second
  refine ⟨made ++ more, ?_, ?_⟩
  · rw [requests', requests, List.append_assoc]
  · rw [serial', serial, Serial.after_after, List.length_append]

theorem numbers_request (env : Environment) (r : HostRequest) : env.Numbers (env.request r) := ⟨[r], rfl, rfl⟩

end Environment

namespace Scene

/-- What can become of the fence on the way from `s` to `t`: it stays as it is, it is released, or it is armed at a
request made on the way, one that moves the pointer. -/
def Aims (s t : Scene) : Prop :=
  t.seat.input.warpFence = s.seat.input.warpFence ∨ t.seat.input.warpFence = {} ∨
    ∃ before request later, t.env.journal.requests = s.env.journal.requests ++ (before ++ request :: later) ∧
      request.movesPointer = true ∧
      t.seat.input.warpFence = .armed (s.env.lastSerial.after (before.length + 1))

/-- The requests of a seat are numbered, and its fence is armed at none but those that move the pointer. -/
structure Numbered (s t : Scene) : Prop where
  env : s.env.Numbers t.env
  aims : s.Aims t

variable {s t u : Scene}

theorem Aims.of_eq (same : t.seat.input.warpFence = s.seat.input.warpFence) : s.Aims t := .inl same

namespace Numbered

theorem refl (s : Scene) : s.Numbered s := ⟨.refl s.env, .inl rfl⟩

theorem trans (first : s.Numbered t) (second : t.Numbered u) : s.Numbered u := by
  refine ⟨first.env.trans second.env, ?_⟩
  obtain ⟨made, requests, serial⟩ := first.env
  obtain ⟨more, requests', -⟩ := second.env
  rcases second.aims with same | released | ⟨before, request, later, known, moves, armed⟩
  · rcases first.aims with same' | released | ⟨before, request, later, known, moves, armed⟩
    · exact .inl (same.trans same')
    · exact .inr (.inl (same.trans released))
    · refine .inr (.inr ⟨before, request, later ++ more, ?_, moves, same.trans armed⟩)
      rw [requests', known]
      simp
  · exact .inr (.inl released)
  · refine .inr (.inr ⟨made ++ before, request, later, ?_, moves, ?_⟩)
    · rw [known, requests, List.append_assoc, List.append_assoc]
    · rw [armed, serial, Serial.after_after, List.length_append, Nat.add_assoc]

/-- Neither the requests nor the fence changed. -/
theorem of_eq (requests : t.env.journal.requests = s.env.journal.requests)
    (serial : t.env.lastSerial = s.env.lastSerial)
    (fence : t.seat.input.warpFence = s.seat.input.warpFence) : s.Numbered t :=
  ⟨⟨[], by simp [requests], by simp [serial]⟩, .inl fence⟩

theorem request (s : Scene) (r : HostRequest) : s.Numbered (s.request r) := ⟨s.env.numbers_request r, .inl rfl⟩

end Numbered

end Scene

end GuestSeat
