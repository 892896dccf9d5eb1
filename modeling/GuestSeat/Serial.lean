import GuestSeat.Document.Codec

/-!
Serial numbers and fences. The host numbers the requests it receives and stamps every event with the
number of the last one; the numbers wrap around. A fence remembers one request, so that events from
before the request took effect can be told apart.
-/

namespace GuestSeat

structure Serial where
  value : UInt64
deriving DecidableEq, Inhabited

namespace Serial

/-- Whether `a` was given out before `b`: going from `b` to `a` is a step back of at most half the
range. -/
def precedes (a b : Serial) : Bool := 0x8000000000000000 ≤ (a.value - b.value).toNat

def next (s : Serial) : Serial := ⟨s.value + 1⟩

def text (s : Serial) : String := "#" ++ toString s.value.toNat

def codec : Codec Serial := Codec.u64.along Serial.mk Serial.value

end Serial

/-- The request whose effect is being waited for, if there is one. -/
structure Fence where
  serial : Option Serial := none
deriving DecidableEq, Inhabited

namespace Fence

/-- A fence at a request, whatever stood before. -/
def armed (s : Serial) : Fence := ⟨some s⟩

def isArmed (f : Fence) : Bool := f.serial.isSome

/-- Whether an event is older than the fence. -/
def holdsBack (f : Fence) (s : Serial) : Bool :=
  match f.serial with
  | none => false
  | some fence => s.precedes fence

/-- The fence after an event was checked against it: the first event that it does not hold back
releases it. -/
def pass (f : Fence) (s : Serial) : Fence := if f.holdsBack s then f else {}

end Fence

end GuestSeat
