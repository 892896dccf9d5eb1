import GuestSeat.Event.Basic
import GuestSeat.Geometry.CoordinateMap
import GuestSeat.Input
import GuestSeat.Message.Basic
import GuestSeat.RawMotion.Session
import GuestSeat.Request
import GuestSeat.Window

/-!
The surroundings of a seat, in memory: a host display with its queue of events, and a guest window
system with its table of windows. Whatever a seat asks of either is kept in a journal.
-/

namespace GuestSeat

/-- A window of the table and what the window manager reports of it. -/
structure HostedWindow where
  info : WindowInfo
  wmState : Option WmState := none
  netState : NetState := Flags.empty
deriving DecidableEq, Inhabited

/-- What was asked of the host and of the guest, each in order. -/
structure Journal where
  requests : List HostRequest := []
  messages : List Delivered := []
  /-- Input with the window it was made for, null for raw input. -/
  inputs : List (Handle × GuestInput) := []
  placements : List (Handle × Rect × PlacementFlags) := []
  /-- Events put back on the host's queue to be tried again. -/
  resent : List EventRecord := []
  destroyed : List Handle := []
  flushes : Nat := 0
deriving DecidableEq

structure Environment where
  queue : List EventRecord := []
  /-- The serial of the last request. -/
  lastSerial : Serial := ⟨0⟩
  map : CoordinateMap
  virtualScreen : Rect
  primaryMonitor : Rect
  windows : OrderedMap Handle HostedWindow
  nextHandle : UInt64 := 0x20000
  nextHost : UInt32 := 0x04000001
  foreground : Handle := Handle.null
  focus : Handle := Handle.null
  active : Handle := Handle.null
  /-- The thread that is running. -/
  thread : ThreadId := ⟨1⟩
  /-- The clip rectangle as the guest sees it. -/
  guestClip : Rect
  /-- Milliseconds since the guest started. -/
  tick : Nat := 10000
  /-- An input method is composing text. -/
  composing : Bool := false
  /-- The place of the pointer in root coordinates. -/
  pointer : Point := ⟨0, 0⟩
  /-- The host window with keyboard focus. -/
  inputFocus : Option HostWindow := none
  captureSurface : Option HostWindow := none
  /-- How windows answer; every other message gets the default reply. -/
  replies : OrderedMap (Handle × GuestMessage) MessageReply := {}
  /-- Windows that do not answer in time. -/
  unresponsive : List Handle := []
  /-- The index of the handle that the next wait reports. -/
  signaled : Option Nat := none
  grabSucceeds : Bool := true
  probeSucceeds : Bool := true
  captureSupported : Bool := true
  /-- What the host reports when raw motion is switched on; none if it has no raw motion. -/
  rawSession : Option (RawSession Float)
  journal : Journal := {}
deriving DecidableEq

namespace Environment

def root : HostWindow := ⟨1⟩

def desktop : Handle := ⟨0x10020⟩

def desktopThread : ThreadId := ⟨0⟩

def plainAxis (number : UInt16) (label : AxisLabel) : AxisInfo Float :=
  { number, label, min := -1, max := -1, mode := .relative }

/-- A raw session with a single mouse, which drives the core pointer. -/
def singleMouse : RawSession Float :=
  let axes := [plainAxis 0 .relX, plainAxis 1 .relY]
  { corePointer := ⟨2⟩
    devices := [
      { id := ⟨2⟩, use := .masterPointer, attachment := ⟨3⟩, axes },
      { id := ⟨9⟩, use := .slavePointer, attachment := ⟨2⟩, axes }] }

/-- A desktop on a virtual screen with one output and nothing else. -/
def ofScreen (screen : Rect) : Environment where
  map := { virtualOrigin := screen.topLeft }
  virtualScreen := screen
  primaryMonitor := screen
  windows := OrderedMap.ofList [(desktop, {
    info := { WindowInfo.plain desktop (WindowStyle.visible ||| WindowStyle.clipChildren) screen with
      thread := desktopThread, mapped := true } })]
  guestClip := screen
  rawSession := some singleMouse

/-- The largest tick. -/
def tickLimit : Nat := 0xffffffffffffffff

def elapse (env : Environment) (milliseconds : Nat) : Environment :=
  { env with tick := min (env.tick + milliseconds) tickLimit }

def nextSerial (env : Environment) : Serial := env.lastSerial.next

def note (env : Environment) (f : Journal → Journal) : Environment :=
  { env with journal := f env.journal }

def request (env : Environment) (r : HostRequest) : Environment :=
  { env with
    lastSerial := env.nextSerial
    journal := { env.journal with requests := env.journal.requests ++ [r] } }

def flush (env : Environment) : Environment :=
  env.note fun j => { j with flushes := j.flushes + 1 }

/-- Queue an event of the host that is stamped with the serial of the last request. -/
def push (env : Environment) (window : HostWindow) (kind : EventKind) : Environment :=
  { env with queue := env.queue ++ [{ serial := env.lastSerial, window, kind }] }

def pushRecord (env : Environment) (event : EventRecord) : Environment :=
  { env with queue := env.queue ++ [event] }

end Environment

end GuestSeat
