import GuestSeat.Ids

/-!
The cursor of a process: the window the pointer was last over, the cursor last chosen, and when the two
were last brought together. Showing the cursor again is held back unless something changed or the
interval has passed.
-/

namespace GuestSeat

/-- Ticks are counted in words of this range. -/
def tickRange : Nat := UInt64.size

/-- The time from one tick to another, around the end of the range if need be. -/
def ticksBetween (earlier later : Nat) : Nat := (later + tickRange - earlier) % tickRange

structure CursorTracker where
  /-- The window that the pointer was last over. -/
  window : Handle := Handle.null
  /-- The cursor last chosen on any thread. -/
  cursor : Option CursorId := none
  /-- When the window was last told. -/
  shownAt : Nat := 0
deriving DecidableEq, Inhabited

namespace CursorTracker

/-- Whether the cursor has to be shown again at `now`, which then counts as the time it was. -/
def renew (t : CursorTracker) (changed : Bool) (now interval : Nat) : CursorTracker × Bool :=
  if changed || interval < ticksBetween t.shownAt now then ({ t with shownAt := now }, true)
  else (t, false)

/-- The pointer is over a window; whether the window has to show the cursor. -/
def enter (t : CursorTracker) (window : Handle) (now interval : Nat) : CursorTracker × Bool :=
  { t with window }.renew (t.window != window) now interval

/-- The choice of a cursor. The null cursor is the choice of none. -/
def choice (cursor : Option CursorId) : Option CursorId := cursor.filter fun c => c.id != 0

/-- The guest chose a cursor; whether the window under the pointer has to be told. -/
def choose (t : CursorTracker) (cursor : Option CursorId) (now interval : Nat) :
    CursorTracker × Bool :=
  { t with cursor := choice cursor }.renew (t.cursor != choice cursor) now interval

end CursorTracker

end GuestSeat
