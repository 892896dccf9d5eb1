import GuestSeat.Ids
import GuestSeat.OrderedMap

/-!
Host cursors for guest cursors. A realizer knows none, looks them up in a table, or asks the realizers
it is layered from one after the other and remembers the first answer.
-/

namespace GuestSeat

inductive Realizer
  /-- Realizes nothing, so that the host shows its own cursor. -/
  | null
  | table (cursors : OrderedMap CursorId HostCursor)
  | layered (layers : List Realizer) (found : OrderedMap CursorId HostCursor)
deriving Inhabited

namespace Realizer

def name : Realizer → String
  | .null => "null"
  | .table _ => "table"
  | .layered _ _ => "layered"

/-- The answers that a layered realizer remembers. -/
def remembered : Realizer → OrderedMap CursorId HostCursor
  | .layered _ found => found
  | _ => {}

def layerCount : Realizer → Nat
  | .layered layers _ => layers.length
  | _ => 0

mutual

/-- The host cursor of a guest cursor, if it can be realized, and the realizer afterwards. -/
def realize : Realizer → CursorId → Realizer × Option HostCursor
  | .null, _ => (.null, none)
  | .table cursors, c => (.table cursors, cursors.get? c)
  | .layered layers found, c =>
    match found.get? c with
    | some native => (.layered layers found, some native)
    | none =>
      match realizeFirst layers c with
      | (layers, none) => (.layered layers found, none)
      | (layers, some native) => (.layered layers (found.insert c native), some native)

/-- The answer of the first layer that has one, and the layers afterwards. -/
def realizeFirst : List Realizer → CursorId → List Realizer × Option HostCursor
  | [], _ => ([], none)
  | layer :: rest, c =>
    match realize layer c with
    | (layer, some native) => (layer :: rest, some native)
    | (layer, none) =>
      let (rest, answer) := realizeFirst rest c
      (layer :: rest, answer)

end

mutual

/-- The realizer after a guest cursor was destroyed. Tables do not change. -/
def forget : Realizer → CursorId → Realizer
  | .null, _ => .null
  | .table cursors, _ => .table cursors
  | .layered layers found, c => .layered (forgetAll layers c) (found.erase c)

/-- The layers after a guest cursor was destroyed. -/
def forgetAll : List Realizer → CursorId → List Realizer
  | [], _ => []
  | layer :: rest, c => forget layer c :: forgetAll rest c

end

end Realizer

end GuestSeat
