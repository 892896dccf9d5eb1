import GuestSeat.Flags
import GuestSeat.Ids
import GuestSeat.OrderedMap
import GuestSeat.Serial

/-!
The window manager's view of a window, and the cache that a seat keeps of it for the windows it has
heard about.
-/

namespace GuestSeat

inductive WmState
  | withdrawn
  | normal
  | iconic
deriving DecidableEq, Inhabited

namespace WmState

def all : List WmState := [.withdrawn, .normal, .iconic]

def spelling : WmState → String
  | .withdrawn => "withdrawn"
  | .normal => "normal"
  | .iconic => "iconic"

def codec : Codec WmState := .named all spelling

/-- The number that stands for a state on the host. -/
def code : WmState → UInt32
  | .withdrawn => 0
  | .normal => 1
  | .iconic => 3

def ofCode? (n : UInt32) : Option WmState := all.find? fun s => s.code == n

end WmState

def netStateNames : FlagTable :=
  [("FULLSCREEN", 1), ("ABOVE", 2), ("MAXIMIZED", 4), ("SKIP_PAGER", 8), ("SKIP_TASKBAR", 16),
    ("SKIP_SWITCHER", 32)]

/-- The extended states that are tracked. -/
abbrev NetState := Flags netStateNames

namespace NetState

def fullscreen : NetState := ⟨1⟩

def maximized : NetState := ⟨4⟩

end NetState

/-- What is known of one window. -/
structure ManagedState where
  /-- The last iconification that was acted on. -/
  iconic : Bool := false
  /-- The state property as last read. -/
  wmState : WmState := .withdrawn
  netState : NetState := Flags.empty
  /-- Fullscreen was asked for and is not confirmed. -/
  pendingFullscreen : Bool := false
  /-- Geometry older than the last geometry request is out of date. -/
  configureFence : Fence := {}
deriving DecidableEq, Inhabited

/-- The windows heard about, in the order in which they were. -/
abbrev ManagedCache := OrderedMap Handle ManagedState

namespace ManagedCache

/-- The state of a window; one not heard about has the initial state. -/
def state (m : ManagedCache) (h : Handle) : ManagedState := m.getD h {}

/-- The cache after `f` changed the state of a window, which from then on is in it. -/
def update (m : ManagedCache) (h : Handle) (f : ManagedState → ManagedState) : ManagedCache :=
  m.alter h {} f

def isIconic (m : ManagedCache) (h : Handle) : Bool := (m.state h).iconic

end ManagedCache

end GuestSeat
