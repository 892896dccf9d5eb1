import GuestSeat.Document.Tree

/-!
Settled documents. In a settled tree the entries of every record have different names and stand in
the order of their names; where a name was repeated, its last entry counts.
-/

namespace GuestSeat.Tree

/-- Entries in order with one more, which replaces one of the same name. -/
def settleEntry (name : String) (t : Tree) : List (String × Tree) → List (String × Tree)
  | [] => [(name, t)]
  | (other, u) :: rest =>
    if name < other then (name, t) :: (other, u) :: rest
    else if name = other then (name, t) :: rest
    else (other, u) :: settleEntry name t rest

mutual

/-- The settled form of a tree. -/
def settled : Tree → Tree
  | .list items => .list (settledItems items)
  | .record entries => .record (settledEntries [] entries)
  | t => t

def settledItems : List Tree → List Tree
  | [] => []
  | t :: rest => t.settled :: settledItems rest

/-- The settled forms of entries that follow those of `done`. -/
def settledEntries (done : List (String × Tree)) : List (String × Tree) → List (String × Tree)
  | [] => done
  | (name, t) :: rest => settledEntries (settleEntry name t.settled done) rest

end

end GuestSeat.Tree
