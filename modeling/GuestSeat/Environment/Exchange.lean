import GuestSeat.Environment.Windows

/-!
What a seat exchanges with its surroundings besides windows: places on the screen, state properties, the
capture surface, messages to guest windows, and waits.
-/

namespace GuestSeat

namespace Environment

variable (env : Environment)

/-- A place relative to a host window in root coordinates. A window that is not known lies at the
root's corner. -/
def placeOnRoot (w : HostWindow) (p : Point) : Point :=
  if w == root then p
  else
    match env.hosted? w with
    | none => p
    | some hosted =>
      let origin := env.map.toRoot hosted.info.windowRect.topLeft
      ⟨origin.x + p.x, origin.y + p.y⟩

def wmState? (w : HostWindow) : Option WmState := (env.hosted? w).bind HostedWindow.wmState

def netState (w : HostWindow) : NetState :=
  ((env.hosted? w).map HostedWindow.netState).getD Flags.empty

/-- The invisible host window that pointer grabs are confined to, created at its first use. -/
def useCaptureSurface : Environment × Option HostWindow :=
  if env.captureSupported then
    match env.captureSurface with
    | some surface => (env, some surface)
    | none =>
      let (env, surface) := env.takeHost
      ({ env with captureSurface := some surface }, some surface)
  else (env, none)

/-- Warp the pointer to a place in root coordinates. -/
def warpPointer (p : Point) : Environment := { env.request (.warpPointer p) with pointer := p }

def setInputFocus (w : HostWindow) (time : Timestamp) : Environment :=
  { env.request (.setInputFocus w time) with inputFocus := some w }

def resend (event : EventRecord) : Environment :=
  env.note fun j => { j with resent := j.resent ++ [event] }

/-- Make a window the foreground window, which is then active as well. -/
def setForeground (h : Handle) : Environment := { env with foreground := h, active := h }

/-- Open the guest's clip rectangle to the whole virtual screen. -/
def resetGuestClip : Environment := { env with guestClip := env.virtualScreen }

def deliver (h : Handle) (message : GuestMessage) (sync : Bool) :
    Except DeliveryFault Environment :=
  if h.isNull || !env.windows.contains h then .error (.invalidWindow h)
  else .ok (env.note fun j => { j with messages := j.messages ++ [⟨h, message, sync⟩] })

def post (h : Handle) (message : GuestMessage) : Except DeliveryFault Environment :=
  env.deliver h message false

def tell (h : Handle) (message : GuestMessage) : Environment :=
  match env.post h message with
  | .ok env => env
  | .error _ => env

def replyTo (h : Handle) (message : GuestMessage) : MessageReply :=
  env.replies.getD (h, message) .default

def send (h : Handle) (message : GuestMessage) :
    Environment × Except DeliveryFault MessageReply :=
  match env.deliver h message true with
  | .ok env => (env, .ok (env.replyTo h message))
  | .error fault => (env, .error fault)

/-- Send a message and wait at most so long. A window that does not answer takes up the whole time. -/
def sendWithin (h : Handle) (message : GuestMessage) (timeout : Nat) :
    Environment × Except DeliveryFault MessageReply :=
  if env.unresponsive.contains h then (env.elapse timeout, .error (.timeout h timeout))
  else env.send h message

def feed (h : Handle) (input : GuestInput) : Environment :=
  env.note fun j => { j with inputs := j.inputs ++ [(h, input)] }

/-- Wait until a handle is signaled, the host has events or the time is over. Without a time limit a
wait that nothing ends is over at once. -/
def wait (handles : List WaitHandle) (timeout : Option Nat) : Environment × WaitStatus :=
  let idle := { env with signaled := none }
  match env.signaled.filter fun index => index < handles.length with
  | some index => (idle, .signaled index)
  | none =>
    if env.queue.isEmpty then (idle.elapse (timeout.getD 0), .timeout) else (idle, .inputReady)

/-- The first event in the queue that `accepts` takes, and the environment without it. -/
def takeEvent? (accepts : EventRecord → Bool) : Option (EventRecord × Environment) :=
  (env.queue.find? accepts).map fun event =>
    (event, { env with queue := env.queue.eraseP accepts })

end Environment

end GuestSeat
