import GuestSeat.Proofs.Drain.Exact
import GuestSeat.Proofs.Windows.Acknowledgement

/-!
Geometry from before the last geometry request of a window. The request is on record as a fence until the
next one, or until the window is forgotten, whatever else is done. As long as it is, an older event about
the geometry of the window comes to nothing, and so does one about an icon or a window that waits for
fullscreen; a drain drops such events for newer ones, but changes none.
-/

namespace GuestSeat.Scene

/-- The fence that the geometry of a window has to pass. -/
def geometryFence (s : Scene) (h : Handle) : Fence := (s.window h).configureFence

variable (s : Scene) (h : Handle)

theorem fence_congr {t : Scene} (same : t.seat.windows = s.seat.windows) :
    t.geometryFence h = s.geometryFence h :=
  congrArg ManagedState.configureFence (window_congr same h)

theorem fence_editWindow (k : Handle) {f : ManagedState → ManagedState}
    (keeps : (f (s.window k)).configureFence = (s.window k).configureFence) :
    (s.editWindow k f).geometryFence h = s.geometryFence h :=
  s.view_editWindow ManagedState.configureFence h k keeps

theorem fence_netStateChanged (k : Handle) :
    (s.netStateChanged k).geometryFence h = s.geometryFence h := by
  unfold netStateChanged
  split
  · rfl
  · apply fence_editWindow
    unfold ManagedState.acknowledge
    split <;> rfl

theorem fence_property (k : Handle) (e : PropertyEvent) :
    (s.property k e).1.geometryFence h = s.geometryFence h := by
  unfold property
  split
  · exact s.view_wmStateChanged ManagedState.configureFence h k (fun _ _ => rfl) (fun _ _ _ => rfl)
      e.change true
  · exact s.fence_netStateChanged h k
  · rfl

theorem fence_configure (k : Handle) (event : EventRecord) (e : ConfigureEvent) :
    (s.configure k event e).1.geometryFence h = s.geometryFence h :=
  s.view_configure ManagedState.configureFence h k (fun _ _ => rfl) event e

theorem fence_requestNetState (k : Handle) (desired : NetState) :
    (s.requestNetState k desired).geometryFence h = s.geometryFence h := by
  unfold requestNetState
  split
  · rfl
  · split
    · rfl
    · exact s.fence_editWindow h k rfl

theorem fence_forgetWindow {k : Handle} (other : k ≠ h) :
    (s.forgetWindow k).geometryFence h = s.geometryFence h := by
  unfold geometryFence
  rw [window_forgetWindow, if_neg other.symm]

theorem fence_noteConfigureRequest (k : Handle) :
    (s.noteConfigureRequest k).geometryFence h =
      if h = k then Fence.armed s.env.nextSerial else s.geometryFence h := by
  unfold geometryFence noteConfigureRequest
  rw [window_editWindow]
  split <;> rfl

/-- An event changes no fence of a window whose end it does not tell. -/
theorem fence_dispatch {event : EventRecord} (lasts : ¬ Ends h s event) :
    (s.dispatch event).1.geometryFence h = s.geometryFence h := by
  let u := s.receiving event
  change (u.handle (target s.env event) event).1.geometryFence h = u.geometryFence h
  by_cases tells : TellsOfWindow event
  · unfold handle
    cases kind : event.kind with
    | property e =>
        dsimp only
        split
        · rfl
        · exact u.fence_property h _ e
    | configure e =>
        dsimp only
        split
        · rfl
        · exact u.fence_configure h _ event e
    | destroy =>
        dsimp only
        unfold destroyed
        split
        · rfl
        · next there =>
            apply fence_forgetWindow
            rintro rfl
            exact lasts ⟨⟨rfl, by simpa using there⟩, kind⟩
    | generic extension =>
        cases extension <;> simp [TellsOfWindow, EventRecord.tag, kind, EventKind.tag] at tells
    | _ => simp [TellsOfWindow, EventRecord.tag, kind, EventKind.tag] at tells
  · exact u.fence_congr h (u.windows_handle _ tells)

theorem fence_awaitWithdrawal {k : Handle} {withdrawn reached : Bool} {t : Scene}
    (ended : s.awaitWithdrawal k withdrawn = some (t, reached))
    (lasts : ¬ s.Forgets h (.awaitWithdrawal k withdrawn)) :
    t.geometryFence h = s.geometryFence h := by
  rw [forgets_awaitWithdrawal_iff, ← losesWindow_iff ended] at lasts
  exact view_withdrawalRounds ManagedState.configureFence (fun _ _ => rfl) h (Nat.min_le_right _ _)
    ended lasts

/-- No call changes the fence of a window but one that notes a geometry request or forgets the window. -/
theorem fence_call {call : Call} {t : Scene} (taken : s.call? call = some t)
    (other : call ≠ .noteConfigureRequest h) (lasts : ¬ s.Forgets h call) :
    t.geometryFence h = s.geometryFence h := by
  have handles : call.OnlyHandles → t.geometryFence h = s.geometryFence h := by
    intro only
    refine (s.call_until (P := fun u => u.geometryFence h = s.geometryFence h) (E := Ends h)
      (fun u event same goesOn => (u.fence_dispatch h goesOn).trans same)
      (fun u env _ same => same) only taken rfl).2 ?_
    intro handled present ending
    exact lasts (Or.inr (Or.inl ⟨handled, present, ending⟩))
  cases call with
  | dispatch _ | drain _ | waitFor _ _ _ =>
      apply handles
      trivial
  | requestNetState k desired =>
      cases taken
      exact s.fence_requestNetState h k desired
  | noteConfigureRequest k =>
      cases taken
      rw [fence_noteConfigureRequest, if_neg]
      rintro rfl
      exact other rfl
  | forgetWindow k =>
      cases taken
      apply fence_forgetWindow
      rintro rfl
      exact lasts (Or.inl rfl)
  | awaitWithdrawal k withdrawn =>
      obtain ⟨⟨u, reached⟩, ended, rfl⟩ := Option.map_eq_some_iff.mp taken
      exact s.fence_awaitWithdrawal h ended lasts
  | clipCursor rect =>
      cases taken
      exact s.fence_congr h (s.windows_clipCursor rect)
  | clipFullscreen k reset =>
      cases taken
      exact s.fence_congr h (s.windows_clipFullscreen k reset)
  | resetClipping =>
      cases taken
      exact s.fence_congr h s.windows_resetClipping
  | setCursor cursor =>
      cases taken
      exact s.fence_congr h (s.windows_setCursor cursor)
  | message k message =>
      cases taken
      exact s.fence_congr h (s.windows_driverMessage k message)
  | destroyCursor _ | setCursorPos _ | setRawOnly _ =>
      cases taken
      rfl

/-- Whether an event about the geometry of a window is not to be followed: it is older than a request, the
window is an icon, or fullscreen is awaited. -/
inductive HeldBack (s : Scene) (h : Handle) (request : Serial) (event : EventRecord) : Prop
  | outdated (older : event.serial.precedes request = true)
  | iconic (icon : (s.window h).iconic = true)
  | awaiting (pending : (s.window h).pendingFullscreen = true)

/-- Whether events about the geometry of a window come to nothing when they are held back. -/
def ShutsOut (s : Scene) (h : Handle) (request : Serial) : Prop :=
  ∀ (event : EventRecord) (e : ConfigureEvent), event.kind = .configure e → target s.env event = h →
    s.HeldBack h request event → s.dispatch event = (s, false)

variable {s h} {request : Serial}

/-- A window whose fence is armed has been heard of. -/
theorem get?_of_fence (armed : s.geometryFence h = Fence.armed request) :
    s.seat.windows.get? h = some (s.window h) := by
  cases found : s.seat.windows.get? h with
  | some state => rw [window_of_get? found]
  | none =>
      have unheard : s.window h = {} := by
        unfold window ManagedCache.state OrderedMap.getD
        rw [found]
        rfl
      unfold geometryFence at armed
      rw [unheard] at armed
      cases armed

theorem editWindow_id (armed : s.geometryFence h = Fence.armed request) : s.editWindow h id = s := by
  have same : s.seat.windows.update h id = s.seat.windows :=
    OrderedMap.insert_of_get? (get?_of_fence armed)
  unfold editWindow
  rw [same]

/-- Geometry that is held back changes nothing. -/
theorem configure_heldBack (armed : s.geometryFence h = Fence.armed request) {event : EventRecord}
    (held : s.HeldBack h request event) (e : ConfigureEvent) : s.configure h event e = (s, false) := by
  have ignored : ∀ info, followsGeometry info (s.window h) event = false := by
    intro info
    unfold geometryFence at armed
    unfold followsGeometry
    cases held with
    | outdated older =>
        have stopped : (s.window h).configureFence.holdsBack event.serial = true := by
          rw [armed]
          exact older
        simp [stopped]
    | iconic icon => simp [icon]
    | awaiting pending => simp [pending]
  unfold configure
  split
  · rfl
  · dsimp only
    rw [editWindow_id armed, ignored]
    rfl

theorem shutsOut_of_fence (armed : s.geometryFence h = Fence.armed request) :
    s.ShutsOut h request := by
  intro event e kind own held
  have handled : (s.receiving event).handle (target s.env event) event = (s.receiving event, false) := by
    unfold handle
    rw [kind, own]
    dsimp only
    split
    · rfl
    · have armed : (s.receiving event).geometryFence h = Fence.armed request := armed
      have held : (s.receiving event).HeldBack h request event := by
        cases held with
        | outdated older => exact .outdated older
        | iconic icon => exact .iconic icon
        | awaiting pending => exact .awaiting pending
      exact configure_heldBack armed held e
  apply Prod.ext
  · rw [s.fst_dispatch (congrArg Prod.fst handled)]
    rfl
  · change ((s.receiving event).handle (target s.env event) event).2 = false
    rw [handled]

/-- Merging makes up no geometry: what is handled of it stood in the queue as it is. -/
theorem mem_queue_of_drainTrail {mask : QueueMask} {handled : Scene × EventRecord}
    (member : handled ∈ s.drainTrail mask) {e : ConfigureEvent} (kind : handled.2.kind = .configure e) :
    handled.2 ∈ s.env.queue := by
  have event : handled.2 ∈ (s.handovers mask).map Handover.event := by
    rw [← (s.withQueue (s.rejected mask)).map_snd_trail ((s.handovers mask).map Handover.event)]
    exact List.mem_map_of_mem member
  obtain ⟨d, handed, same⟩ := List.mem_map.mp event
  obtain ⟨origin, found, from_origin⟩ := origin_of_mem_handoversOf _ handed
  rw [← same] at kind ⊢
  obtain unchanged | ⟨raw, values, -, changed⟩ := from_origin
  · rw [unchanged]
    exact (List.mem_filter.mp (List.mem_of_getElem? found)).1
  · rw [changed] at kind
    cases kind

theorem queue_wait (env : Environment) (handles : List WaitHandle) (timeout : Option Nat) :
    (env.wait handles timeout).1.queue = env.queue := by
  unfold Environment.wait
  split
  · rfl
  · split <;> rfl

/-- The same for all calls that do not bring an event of their own. -/
theorem mem_queue_of_callTrail {call : Call} {handled : Scene × EventRecord}
    (member : handled ∈ s.callTrail call) {e : ConfigureEvent} (kind : handled.2.kind = .configure e) :
    call = .dispatch handled.2 ∨ handled.2 ∈ s.env.queue := by
  cases call with
  | dispatch event =>
      rw [List.mem_singleton.mp member]
      exact Or.inl rfl
  | drain mask => exact Or.inr (mem_queue_of_drainTrail member kind)
  | waitFor handles timeout mask =>
      right
      unfold callTrail at member
      dsimp only at member
      generalize (if s.seat.input.isHandling then Flags.empty else mask) = mask at member
      obtain first | second := List.mem_append.mp member
      · exact mem_queue_of_drainTrail first kind
      have left := s.queue_drain mask
      split at second
      · cases second
      next t drained =>
      rw [drained] at left
      split at second
      · cases second
      have kept := queue_wait t.env handles timeout
      unfold waitTrail at second
      split at second
      · next env waited =>
          rw [waited] at kept
          have there : handled.2 ∈ env.queue := mem_queue_of_drainTrail second kind
          rw [kept, left] at there
          exact (List.mem_filter.mp there).1
      all_goals cases second
  | _ => cases member

/-- A turn that neither notes a geometry request of a window nor has it forgotten. -/
def LeavesFence (h : Handle) (s : Scene) : Turn → Prop
  | .call call => call ≠ .noteConfigureRequest h ∧ ¬ s.Forgets h call
  | .change _ => True

/-- After a geometry request of a window was noted, the request is on record until the next one is noted
or the window is forgotten. All that time, events about the window's geometry that are held back come to
nothing, at the end of the run and in the course of every call, up to an event that tells of the end of
the window; and the events that a call handles are those that it was given or found in the queue. Nothing
else that a seat does changes the record. -/
theorem geometry_fence_holds {start s : Scene} {h : Handle}
    (run : Run (LeavesFence h) (start.noteConfigureRequest h) s) :
    s.geometryFence h = Fence.armed start.env.nextSerial ∧
      s.ShutsOut h start.env.nextSerial ∧
      (∀ (call : Call) (first later : List (Scene × EventRecord)) (u : Scene) (event : EventRecord),
        s.callTrail call = first ++ (u, event) :: later →
          ((∀ handled ∈ first, ¬ Ends h handled.1 handled.2) → u.ShutsOut h start.env.nextSerial) ∧
            ∀ e : ConfigureEvent, event.kind = .configure e →
              call = .dispatch event ∨ event ∈ s.env.queue) ∧
      ∀ (u t : Scene) (call : Call), u.call? call = some t → call ≠ .noteConfigureRequest h →
        ¬ u.Forgets h call → t.geometryFence h = u.geometryFence h := by
  have armed : s.geometryFence h = Fence.armed start.env.nextSerial := by
    refine run.preserves (P := fun u => u.geometryFence h = Fence.armed start.env.nextSerial) ?_ ?_
    · rw [fence_noteConfigureRequest, if_pos rfl]
    · intro u t turn armed leaves taken
      cases turn with
      | call call => exact (u.fence_call h taken leaves.1 leaves.2).trans armed
      | change env =>
          cases taken
          exact armed
  refine ⟨armed, shutsOut_of_fence armed, ?_, fun u t call => u.fence_call h⟩
  intro call first later u event trail
  have member : (u, event) ∈ s.callTrail call := by
    rw [trail]
    exact List.mem_append_cons_self
  refine ⟨fun lasting => ?_, fun e kind => mem_queue_of_callTrail member kind⟩
  apply shutsOut_of_fence
  exact s.callTrail_until (P := fun v => v.geometryFence h = Fence.armed start.env.nextSerial)
    (fun v event armed goesOn => (v.fence_dispatch h goesOn).trans armed) (fun _ _ _ armed => armed)
    armed trail lasting

/-- A window whose geometry the guest is about to change. -/
def resized : Scene :=
  let s := alone ⟨0, 0, 1920, 1080⟩
  { s with env := (s.env.createWindow WindowStyle.visible ⟨0, 0, 800, 600⟩).1 }

/-- An event of some age that tells of other geometry of that window. -/
def moved (serial : Serial) : EventRecord :=
  { serial, window := ⟨0x4000001⟩, kind := .configure ⟨⟨100, 50⟩, 640, 480⟩ }

/-- After a request for a state as well, an event from before the geometry request comes to nothing,
while the first one after it is followed. -/
theorem resized_holds : ∃ s, Run (LeavesFence ⟨0x20000⟩) (resized.noteConfigureRequest ⟨0x20000⟩) s ∧
    s.dispatch (moved ⟨0⟩) = (s, false) ∧ (s.dispatch (moved ⟨1⟩)).2 = true := by
  have allowed : LeavesFence ⟨0x20000⟩ (resized.noteConfigureRequest ⟨0x20000⟩)
      (.call (.requestNetState ⟨0x20000⟩ NetState.maximized)) := by
    simp [LeavesFence, Forgets, callTrail]
  have run : Run (LeavesFence ⟨0x20000⟩) (resized.noteConfigureRequest ⟨0x20000⟩) _ :=
    .turn .start allowed rfl
  obtain ⟨-, shut, -⟩ := geometry_fence_holds run
  exact ⟨_, run, shut (moved ⟨0⟩) _ rfl rfl (.outdated rfl), rfl⟩

end GuestSeat.Scene
