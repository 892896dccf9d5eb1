import GuestSeat.Event.Mask
import GuestSeat.Merge
import GuestSeat.Seat.Dispatch

/-!
Draining the host's queue. Handlers leave the queue alone, so the events that a caller asks for are taken
out first and then handled one after the other, merged where they can be; the rest stays as it was.
-/

namespace GuestSeat.Scene

def mergeContext (s : Scene) : MergeContext where
  rawOnly := s.seat.input.rawOnly
  warpPending := s.seat.input.warpFence.isArmed

/-- Handle an event that waits and the events after it; whether any of them made work for the guest. -/
def drainAfter (s : Scene) (waiting : EventRecord) : List EventRecord → Scene × Bool
  | [] => s.dispatch waiting
  | event :: rest =>
    let merged := merge s.mergeContext waiting event
    match merged.action with
    | .discard => s.drainAfter merged.next rest
    | .ignore => s.drainAfter merged.previous rest
    | .handle =>
      let (s, queued) := s.dispatch merged.previous
      let (s, later) := s.drainAfter merged.next rest
      (s, queued || later)
    | .keep =>
      let (s, queued) := s.dispatch merged.next
      let (s, later) := s.drainAfter merged.previous rest
      (s, queued || later)

/-- Handle some events in order; whether any of them made work for the guest. -/
def drainAll (s : Scene) : List EventRecord → Scene × Bool
  | [] => (s, false)
  | event :: rest => s.drainAfter event rest

/-- Handle the events in the host's queue that may make work of a category in `mask`; whether any of
them did make work. -/
def drain (s : Scene) (mask : QueueMask) : Scene × Bool :=
  let taken := s.env.queue.filter fun event => event.matchesMask mask
  let left := s.env.queue.filter fun event => !event.matchesMask mask
  let (s, queued) := (s.act fun env => { env with queue := left }).drainAll taken
  (s.act Environment.flush, queued)

/-- Drain once, then wait for a handle, for the host or for the time to pass, and drain what the host
brought. While an event is being handled nothing is drained. -/
def waitFor (s : Scene) (handles : List WaitHandle) (timeout : Option Nat) (mask : QueueMask) :
    Scene × WaitStatus :=
  let mask := if s.seat.input.isHandling then Flags.empty else mask
  match s.drain mask with
  | (s, true) => (s, .inputReady)
  | (s, false) =>
    if handles.isEmpty && timeout == some 0 then (s, .timeout)
    else
      let (env, status) := s.env.wait handles timeout
      let s := { s with env }
      match status with
      | .inputReady => ((s.drain mask).1, .inputReady)
      | status => (s, status)

/-- Whether an event tells of the state property of a host window or of its end. -/
def tellsOfState (host : HostWindow) (event : EventRecord) : Bool :=
  event.window == host &&
    match event.kind with
    | .destroy => true
    | .property e => e.atom == .wmState
    | _ => false

/-- Take the events about the state property of a window out of a queue and note what they tell. The
results are the events left over, and whether one told that the window is gone; none is taken after
that. -/
def takeStates (s : Scene) (h : Handle) (host : HostWindow) :
    List EventRecord → Scene × List EventRecord × Bool
  | [] => (s, [], false)
  | event :: rest =>
    if tellsOfState host event then
      match event.kind with
      | .destroy => (s.forgetWindow h, rest, true)
      | .property e => (s.wmStateChanged h e.change false).takeStates h host rest
      | _ => s.takeStates h host rest
    else
      let (s, left, gone) := s.takeStates h host rest
      (s, event :: left, gone)

/-- Whether there is nothing to wait for: the window is gone, of no concern to the window manager, or
where it should be. -/
def isSettled (s : Scene) (h : Handle) (withdrawn : Bool) : Bool :=
  match s.env.info? h with
  | none => true
  | some info =>
    !info.managed || info.embedded || info.host.isNone || info.mapped == withdrawn ||
      ((s.window h).wmState == .withdrawn) == withdrawn

/-- What one look at the queue while waiting for a withdrawal comes to. -/
inductive Round
  /-- The wait is over; the flag tells whether the window got there. -/
  | finished (s : Scene) (reached : Bool)
  /-- The state property was told of; look again. -/
  | again (s : Scene)
  /-- Other events are in the queue, which keep every wait short and are never taken. -/
  | stuck

/-- Take a window's state events out of the queue, or wait for some until `deadline`. -/
def withdrawalRound (s : Scene) (h : Handle) (host : HostWindow) (deadline : Nat) : Round :=
  if s.env.queue.any (tellsOfState host) then
    let (next, left, gone) := s.takeStates h host s.env.queue
    let next := next.act fun env => { env with queue := left }
    if gone then .finished next true else .again next
  else
    let remaining := deadline - s.env.tick
    if remaining = 0 then .finished s false
    else
      match s.env.wait [] (some remaining) with
      | (env, .timeout) => .finished { s with env } false
      | _ => .stuck

/-- Look at the queue until a window is settled, at most so many times. -/
def withdrawalRounds (h : Handle) (withdrawn : Bool) (deadline : Nat) :
    Nat → Scene → Option (Scene × Bool)
  | 0, _ => none
  | fuel + 1, s =>
    if s.isSettled h withdrawn then some (s, true)
    else
      match s.env.host? h with
      | none => some (s, true)
      | some host =>
        match s.withdrawalRound h host deadline with
        | .finished s reached => some (s, reached)
        | .again s => withdrawalRounds h withdrawn deadline fuel s
        | .stuck => none

/-- Wait until the window manager withdrew a window, or took that back; whether it did so in time. There
is no result if the wait never ends, which it does not while events of other kinds are queued. -/
def awaitWithdrawal (s : Scene) (h : Handle) (withdrawn : Bool) : Option (Scene × Bool) :=
  let deadline := min (s.env.tick + s.seat.config.window.waitWithdrawnTimeout) Environment.tickLimit
  withdrawalRounds h withdrawn deadline (s.env.queue.length + 2) s

end GuestSeat.Scene
