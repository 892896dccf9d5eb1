import GuestSeat.Proofs.RawMotion.Idle
import GuestSeat.Proofs.Seat.Numbering
import GuestSeat.Seat.Clip

/-!
Most of what a seat does leaves the clip alone. `Scene.Quiet` says so of two scenes: the clip and what
it rests on are the same, no request moves or shows a window, touches the pointer's grab or switches raw
motion, and no message concerns the owner of the clip. The requests are numbered one after the other, and the fence is
armed at none but those that move the pointer. That goes for whatever a seat does about the cursor; the rest of
what is quiet is the routine of a seat.
-/

namespace GuestSeat

/-- Whether `l'` is `l` with items at its end that all satisfy `p`. -/
def Appends {α : Type} (p : α → Prop) (l l' : List α) : Prop :=
  ∃ added, l' = l ++ added ∧ ∀ a ∈ added, p a

namespace Appends

variable {α : Type} {p : α → Prop} {l l' l'' : List α}

theorem refl (p : α → Prop) (l : List α) : Appends p l l := ⟨[], by simp, by simp⟩

theorem single {a : α} (h : p a) : Appends p l (l ++ [a]) := ⟨[a], rfl, by simpa using h⟩

theorem trans (first : Appends p l l') (second : Appends p l' l'') : Appends p l l'' := by
  obtain ⟨added, rfl, hadded⟩ := first
  obtain ⟨more, rfl, hmore⟩ := second
  refine ⟨added ++ more, by simp, fun a member => ?_⟩
  rcases List.mem_append.mp member with h | h
  · exact hadded a h
  · exact hmore a h

end Appends

/-- Whether a request places or shows a window or concerns the pointer's grab or raw motion, as those of
a clip do. -/
def HostRequest.isClipWork : HostRequest → Bool
  | .moveResize _ _ | .map _ | .unmap _ | .grabPointer _ | .ungrabPointer | .enableRawMotion
  | .disableRawMotion => true
  | _ => false

def GuestMessage.isOwnership : GuestMessage → Bool
  | .clipOwnerChanged _ _ | .clipReset => true
  | _ => false

namespace Environment

structure Quiet (a b : Environment) : Prop where
  queue : b.queue = a.queue
  map : b.map = a.map
  virtualScreen : b.virtualScreen = a.virtualScreen
  primaryMonitor : b.primaryMonitor = a.primaryMonitor
  thread : b.thread = a.thread
  nextHandle : b.nextHandle = a.nextHandle
  threads : b.threadOf? = a.threadOf?
  requests : Appends (fun r => r.isClipWork = false) a.journal.requests b.journal.requests
  numbers : a.Numbers b
  messages : Appends (fun d => d.message.isOwnership = false) a.journal.messages b.journal.messages

namespace Quiet

variable {a b c : Environment}

theorem refl (a : Environment) : a.Quiet a :=
  ⟨rfl, rfl, rfl, rfl, rfl, rfl, rfl, .refl _ _, .refl a, .refl _ _⟩

theorem trans (first : a.Quiet b) (second : b.Quiet c) : a.Quiet c where
  queue := second.queue.trans first.queue
  map := second.map.trans first.map
  virtualScreen := second.virtualScreen.trans first.virtualScreen
  primaryMonitor := second.primaryMonitor.trans first.primaryMonitor
  thread := second.thread.trans first.thread
  nextHandle := second.nextHandle.trans first.nextHandle
  threads := second.threads.trans first.threads
  requests := first.requests.trans second.requests
  numbers := first.numbers.trans second.numbers
  messages := first.messages.trans second.messages

end Quiet

variable (env : Environment)

theorem quiet_request {r : HostRequest} (hr : r.isClipWork = false) : env.Quiet (env.request r) :=
  { Quiet.refl env with requests := .single hr, numbers := env.numbers_request r }

theorem quiet_deliver {next : Environment} {h : Handle} {message : GuestMessage} {sync : Bool}
    (hm : message.isOwnership = false) (hd : env.deliver h message sync = .ok next) :
    env.Quiet next := by
  unfold deliver at hd
  split at hd
  · cases hd
  · cases hd
    exact { Quiet.refl env with messages := .single hm }

theorem quiet_tell {h : Handle} {message : GuestMessage} (hm : message.isOwnership = false) :
    env.Quiet (env.tell h message) := by
  unfold tell post
  split
  · next hd => exact env.quiet_deliver hm hd
  · exact .refl env

end Environment

namespace Scene

structure Quiet (s t : Scene) : Prop where
  env : s.env.Quiet t.env
  config : t.seat.config = s.seat.config
  registry : t.seat.registry = s.seat.registry
  clip : t.seat.input.clip = s.seat.input.clip
  captureSurface : t.seat.input.captureSurface = s.seat.input.captureSurface
  rawStatus : t.seat.input.raw.status = s.seat.input.raw.status
  rawIdle : s.seat.input.raw.IsIdle → t.seat.input.raw = s.seat.input.raw
  inFlight : t.seat.input.inFlight = s.seat.input.inFlight
  aims : s.Aims t

namespace Quiet

variable {s t u : Scene}

theorem refl (s : Scene) : s.Quiet s := ⟨.refl _, rfl, rfl, rfl, rfl, rfl, fun _ => rfl, rfl, .of_eq rfl⟩

theorem numbered (h : s.Quiet t) : s.Numbered t := ⟨h.env.numbers, h.aims⟩

theorem trans (first : s.Quiet t) (second : t.Quiet u) : s.Quiet u where
  env := first.env.trans second.env
  config := second.config.trans first.config
  registry := second.registry.trans first.registry
  clip := second.clip.trans first.clip
  captureSurface := second.captureSurface.trans first.captureSurface
  rawStatus := second.rawStatus.trans first.rawStatus
  rawIdle := fun idle => by
    have kept := first.rawIdle idle
    exact (second.rawIdle (by rwa [kept])).trans kept
  inFlight := second.inFlight.trans first.inFlight
  aims := (first.numbered.trans second.numbered).aims

/-- Only the surroundings changed, and quietly. -/
theorem ofEnv {env : Environment} (h : s.env.Quiet env) : s.Quiet { s with env } :=
  ⟨h, rfl, rfl, rfl, rfl, rfl, fun _ => rfl, rfl, .of_eq rfl⟩

end Quiet

variable (s : Scene)

theorem quiet_request {r : HostRequest} (hr : r.isClipWork = false) : s.Quiet (s.request r) :=
  .ofEnv (s.env.quiet_request hr)

theorem quiet_tell {h : Handle} {message : GuestMessage} (hm : message.isOwnership = false) :
    s.Quiet (s.tell h message) :=
  .ofEnv (s.env.quiet_tell hm)

theorem quiet_showCursor (w : HostWindow) (cursor : Option CursorId) :
    s.Quiet (s.showCursor w cursor) := by
  unfold showCursor realize
  cases cursor with
  | none => exact s.quiet_request rfl
  | some c => exact { s.quiet_request (r := .defineCursor w (s.seat.realizer.realize c).2) rfl with }

theorem quiet_syncCursor (w : HostWindow) : s.Quiet (s.syncCursor w) := s.quiet_showCursor w _

theorem quiet_defineCursor (h : Handle) (cursor : Option CursorId) :
    s.Quiet (s.defineCursor h cursor) := by
  unfold defineCursor
  split
  · exact .refl s
  · exact s.quiet_showCursor _ cursor

theorem quiet_enterWindow (h : Handle) : s.Quiet (s.enterWindow h).1 := { Quiet.refl s with }

theorem quiet_setCursor (cursor : Option CursorId) : s.Quiet (s.setCursor cursor) := by
  unfold setCursor
  dsimp only
  split
  · refine Quiet.trans ?_ (quiet_tell _ rfl)
    exact { Quiet.refl s with }
  · exact { Quiet.refl s with }

theorem quiet_destroyCursor (cursor : CursorId) : s.Quiet (s.destroyCursor cursor) :=
  { Quiet.refl s with }

theorem quiet_markReset : s.Quiet s.markReset := { Quiet.refl s with }

end Scene

end GuestSeat
