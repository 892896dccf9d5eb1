import GuestSeat.Seat.Drain
import GuestSeat.Seat.Validity

/-!
Several seats in the same surroundings, as the threads of one process. Those that share a cursor tracker
see each other's choice of the cursor.
-/

namespace GuestSeat

/-- A seat of a session; a seat that shares the tracker has its own copy only while it acts. -/
structure Member where
  seat : Seat
  sharesTracker : Bool

structure Session where
  members : List Member
  /-- The tracker of the seats that share one. -/
  tracker : CursorTracker := {}
  env : Environment

namespace Session

def scene? (s : Session) (index : Nat) : Option Scene :=
  (s.members[index]?).map fun member =>
    let seat := if member.sharesTracker then { member.seat with tracker := s.tracker } else member.seat
    { seat, env := s.env }

/-- The session after a seat went on to another scene. -/
def put (s : Session) (index : Nat) (scene : Scene) : Session :=
  match s.members[index]? with
  | none => s
  | some member =>
    { members := s.members.set index { member with seat := scene.seat }
      tracker := if member.sharesTracker then scene.seat.tracker else s.tracker
      env := scene.env }

def act (s : Session) (index : Nat) (f : Scene → Scene) : Session :=
  match s.scene? index with
  | none => s
  | some scene => s.put index (f scene)

end Session

end GuestSeat
