import GuestSeat.Clip
import GuestSeat.ClipRegistry
import GuestSeat.Config.Basic
import GuestSeat.Cursor.Realizer
import GuestSeat.Cursor.Tracker
import GuestSeat.Environment.Exchange
import GuestSeat.RawMotion.Accumulator

/-!
A seat handles the input of one guest thread: it takes host events and the guest's own calls and turns
them into requests to either side. A scene is a seat together with its surroundings; everything a seat
does is a function from scenes to scenes.
-/

namespace GuestSeat

/-- The event that is being handled. -/
structure InFlight where
  tag : EventTag
  serial : Serial
deriving DecidableEq, Inhabited

/-- The input state of one thread. -/
structure InputState where
  inFlight : Option InFlight := none
  /-- Motion from before the last warp of the pointer is out of date. -/
  warpFence : Fence := {}
  raw : Accumulator Float := .initial
  /-- The applications of the thread take raw input only. -/
  rawOnly : Bool := false
  clip : Option ClipRegion := none
  captureSurface : Option HostWindow := none
  /-- The window that last lost focus. -/
  lastFocus : Handle := Handle.null
  /-- When a clip was last reset from outside. -/
  clipResetAt : Option Nat := none
  /-- The window that last got keyboard focus. -/
  keyboardWindow : Handle := Handle.null
deriving DecidableEq

namespace InputState

def clipState (i : InputState) : ClipState := ClipState.ofRegion i.clip

def isClipping (i : InputState) : Bool := i.clip.isSome

/-- The capture window of the clip, null without a clip. -/
def captureWindow (i : InputState) : Handle :=
  match i.clip with
  | none => Handle.null
  | some region => region.captureWindow

def isHandling (i : InputState) : Bool := i.inFlight.isSome

/-- Whether the last reset from outside lies back long enough. -/
def isDebounced (i : InputState) (now interval : Nat) : Bool :=
  i.clipResetAt.all fun resetAt => interval ≤ now - resetAt

end InputState

structure Seat where
  config : Config
  input : InputState
  /-- What is known of the windows of the thread. -/
  windows : ManagedCache := {}
  /-- Only the seat of the desktop thread has one. -/
  registry : Option ClipRegistry := none
  tracker : CursorTracker := {}
  realizer : Realizer := .null

def Seat.ofConfig (config : Config) : Seat :=
  { config, input := { rawOnly := config.pointer.rawInputOnly } }

/-- The owner of the clip as the seat's registry has it, null if the seat has none. -/
def Seat.registryOwner (seat : Seat) : Handle :=
  match seat.registry with
  | none => Handle.null
  | some registry => registry.owner

/-- A seat and its surroundings. -/
structure Scene where
  seat : Seat
  env : Environment

namespace Scene

def act (s : Scene) (f : Environment → Environment) : Scene := { s with env := f s.env }

def edit (s : Scene) (f : InputState → InputState) : Scene :=
  { s with seat := { s.seat with input := f s.seat.input } }

def request (s : Scene) (r : HostRequest) : Scene := s.act fun env => env.request r

def tell (s : Scene) (h : Handle) (message : GuestMessage) : Scene :=
  s.act fun env => env.tell h message

def notify (s : Scene) (h : Handle) (message : GuestMessage) : Scene :=
  s.act fun env => (env.send h message).1

def editWindow (s : Scene) (h : Handle) (f : ManagedState → ManagedState) : Scene :=
  { s with seat := { s.seat with windows := s.seat.windows.update h f } }

def window (s : Scene) (h : Handle) : ManagedState := s.seat.windows.state h

def forgetWindow (s : Scene) (h : Handle) : Scene :=
  { s with seat := { s.seat with windows := s.seat.windows.erase h } }

/-- Wait with motion for the next request to take effect. -/
def armWarpFence (s : Scene) : Scene :=
  s.edit fun i => { i with warpFence := Fence.armed s.env.nextSerial }

/-- Whether the thread is the desktop's, which arbitrates clips and never holds one. -/
def onDesktopThread (s : Scene) : Bool :=
  s.seat.registry.isSome ||
    (s.env.owner? Environment.desktop).any fun owner => owner.thread == s.env.thread

end Scene

end GuestSeat
