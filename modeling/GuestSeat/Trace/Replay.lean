import GuestSeat.Seat.Drain
import GuestSeat.Trace.Step

/-!
Replay of a trace: a single seat on a screen of its own goes through the steps, and what it asked of the
guest and of the host is counted.
-/

namespace GuestSeat

/-- What a replay came to. -/
structure ReplaySummary where
  steps : Nat := 0
  guestMessages : Nat := 0
  guestInputs : Nat := 0
  hostRequests : Nat := 0
  /-- The state at the end; none before it. -/
  clipState : Option ClipState := none
deriving DecidableEq, Inhabited

def ReplaySummary.entries (r : ReplaySummary) : List (String × Tree) :=
  [("steps", .nat r.steps), ("guest_messages", .nat r.guestMessages),
    ("guest_inputs", .nat r.guestInputs), ("host_requests", .nat r.hostRequests),
    ("clip_state", ClipState.codec.option.encode r.clipState)]

structure Replay where
  scene : Scene
  summary : ReplaySummary := {}

namespace Replay

def start (config : Config) (screen : Rect) : Replay where
  scene := { seat := .ofConfig config, env := .ofScreen screen }

/-- What a step does. -/
def perform (s : Scene) : TraceStep → Scene
  | .event window serial sent kind =>
    s.act fun env =>
      env.pushRecord { serial := serial.getD env.lastSerial, window, sent, kind }
  | .process mask => (s.drain (mask.getD QueueMask.allInput)).1
  | .window info state =>
    s.act fun env =>
      (env.addWindow info).editWindow info.handle fun hosted => { hosted with wmState := state }
  | .wmState window state =>
    s.act fun env => env.editWindow window fun hosted => { hosted with wmState := state }
  | .clipCursor rect => s.clipCursor rect
  | .setCursorPos p => s.setCursorPos p
  | .setCursor cursor => s.setCursor cursor
  | .foreground window => s.act fun env => env.setForeground window
  | .driverMessage window message => (s.driverMessage window message).1
  | .advance ms => s.act fun env => env.elapse ms

/-- Whether a message is one between seats that is addressed to the replay's own thread. -/
def isOwn (env : Environment) (d : Delivered) : Bool :=
  d.message.isDriverMessage && env.threadOf? d.window == some env.thread

/-- Take the messages for the own thread out of the journal and deliver them. -/
def deliverRound (s : Scene) : Scene :=
  let own := s.env.journal.messages.filter (isOwn s.env)
  let rest := s.env.journal.messages.filter fun d => !isOwn s.env d
  own.foldl (fun s d => (s.driverMessage d.window d.message).1)
    (s.act fun env => env.note fun j => { j with messages := rest })

/-- The rounds after which no message for the own thread is left. A message to the seat makes it report
to the desktop at most, and a report makes it do nothing. -/
def deliveryRounds : Nat := 3

/-- Deliver messages for the own thread until there are none. -/
def deliverOwn (s : Scene) : Scene := (List.range deliveryRounds).foldl (fun s _ => deliverRound s) s

def count (r : Replay) : Replay :=
  let j := r.scene.env.journal
  { scene := r.scene.act fun env =>
      env.note fun j => { j with messages := [], inputs := [], requests := [] }
    summary := { r.summary with
      guestMessages := r.summary.guestMessages + j.messages.length
      guestInputs := r.summary.guestInputs + j.inputs.length
      hostRequests := r.summary.hostRequests + j.requests.length } }

def apply (r : Replay) (step : TraceStep) : Replay :=
  let after : Replay :=
    { scene := deliverOwn (perform r.scene step)
      summary := { r.summary with steps := r.summary.steps + 1 } }
  after.count

def finish (r : Replay) : ReplaySummary :=
  { r.summary with clipState := some r.scene.seat.input.clipState }

/-- Go through a line; none if it is no line of a trace. -/
def line? (r : Replay) (line : String) : Option Replay :=
  match TraceStep.ofLine line with
  | .blank => some r
  | .step step => some (r.apply step)
  | .invalid => none

/-- Go through numbered lines; the number of the first that is no line of a trace is the fault. -/
def lines (r : Replay) (number : Nat) : List String → Except Nat Replay
  | [] => .ok r
  | text :: rest =>
    match r.line? text with
    | none => .error number
    | some r => r.lines (number + 1) rest

/-- The replays after one line, after two, and so on, up to the first that is no line of a trace. -/
def stages (r : Replay) : List String → List Replay
  | [] => []
  | text :: rest =>
    match r.line? text with
    | none => []
    | some r => r :: r.stages rest

/-- The summary of a whole trace, or the number of its first invalid line. -/
def run (config : Config) (screen : Rect) (text : String) : Except Nat ReplaySummary :=
  ((start config screen).lines 1 (Text.lines text)).map finish

def invalidLine (number : Nat) : String := "Invalid trace step on line " ++ toString number

end Replay

end GuestSeat
