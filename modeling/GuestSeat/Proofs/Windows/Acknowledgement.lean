import GuestSeat.Proofs.Windows.Fullscreen

/-!
How long a seat waits for fullscreen. The wait is over when the host is heard to show the window
fullscreen, when a request without fullscreen is sent for it, and when the window is forgotten. It is
over as well when fullscreen is asked for once more, since the seat takes the states of its last request
for those of the window: only that way out leaves a window that the host has not made fullscreen and
that the seat does not wait for. During the wait new geometry from the host does not reach the window.
-/

namespace GuestSeat

def Journal.messagesTo (j : Journal) (h : Handle) : List Delivered :=
  j.messages.filter fun delivered => delivered.window == h

namespace Environment

variable (env : Environment) (k h : Handle)

/-- What a change of one window shows of another: its description, and the messages that it was handed.
-/
def SameFor (env after : Environment) (h : Handle) : Prop :=
  after.info? h = env.info? h ∧ after.journal.messagesTo h = env.journal.messagesTo h

theorem sameFor_refl : env.SameFor env h := ⟨rfl, rfl⟩

variable {k h}

theorem sameFor_placeWindow (other : h ≠ k) (rect : Rect) (flags : PlacementFlags) :
    env.SameFor (env.placeWindow k rect flags) h := by
  constructor
  · change ((env.windows.modify k _).get? h).map HostedWindow.info = _
    rw [OrderedMap.get?_modify, if_neg other]
    rfl
  · rfl

theorem sameFor_send (other : h ≠ k) (message : GuestMessage) :
    env.SameFor (env.send k message).1 h := by
  unfold send deliver
  by_cases lost : (k.isNull || !env.windows.contains k) = true
  · rw [if_pos lost]
    exact env.sameFor_refl h
  · rw [if_neg lost]
    refine ⟨rfl, ?_⟩
    have foreign : ((⟨k, message, true⟩ : Delivered).window == h) = false :=
      beq_false_of_ne other.symm
    change (env.journal.messages ++ _).filter _ = env.journal.messages.filter _
    rw [List.filter_append, List.filter_cons_of_neg (by simpa using foreign), List.filter_nil,
      List.append_nil]

end Environment

namespace Scene

variable (s : Scene) (h : Handle)

theorem sameFor_followPlacement {k : Handle} (other : h ≠ k) (info : WindowInfo) (rect : Rect) :
    s.env.SameFor (s.followPlacement k info rect).1.env h := by
  unfold followPlacement
  dsimp only
  split
  · exact s.env.sameFor_refl h
  · exact s.env.sameFor_placeWindow other rect _

/-- New geometry of one window is of no concern to another. -/
theorem sameFor_configure {k : Handle} (other : h ≠ k) (event : EventRecord) (e : ConfigureEvent) :
    s.env.SameFor (s.configure k event e).1.env h := by
  unfold configure
  split
  · exact s.env.sameFor_refl h
  dsimp only
  split
  · unfold followGeometry
    split
    · exact sameFor_followPlacement _ h other _ _
    · dsimp only
      split
      · exact s.env.sameFor_send other _
      · exact sameFor_followPlacement _ h other _ _
  · exact s.env.sameFor_refl h

/-- A window that waits for fullscreen does not follow new geometry. -/
theorem env_configure (awaiting : s.AwaitsFullscreen h) (event : EventRecord) (e : ConfigureEvent) :
    (s.configure h event e).1.env = s.env := by
  unfold configure
  split
  · rfl
  next info _ =>
  have noted : (s.editWindow h id).AwaitsFullscreen h := (s.awaits_editWindow h h rfl).mpr awaiting
  have stays : followsGeometry info ((s.editWindow h id).window h) event = false := by
    unfold followsGeometry
    rw [noted]
    exact Bool.and_false _
  dsimp only
  rw [stays]
  rfl

theorem sameFor_dispatch (awaiting : s.AwaitsFullscreen h) {event : EventRecord} {e : ConfigureEvent}
    (geometry : event.kind = .configure e) : s.env.SameFor (s.dispatch event).1.env h := by
  let u := s.edit fun i => { i with inFlight := some ⟨event.tag, event.serial⟩ }
  change s.env.SameFor (u.handle (target s.env event) event).1.env h
  unfold handle
  rw [geometry]
  dsimp only
  split
  · exact s.env.sameFor_refl h
  · by_cases own : h = target s.env event
    · rw [← own, u.env_configure h awaiting event e]
      exact s.env.sameFor_refl h
    · exact u.sameFor_configure h own event e

def Confirms (call : Call) : Prop :=
  ∃ handled ∈ s.callTrail call, Acknowledges h handled.1 handled.2

/-- Whether a call has the seat forget a window: it says so, or it reads that the window is gone. -/
def Forgets (call : Call) : Prop :=
  call = .forgetWindow h ∨ (∃ handled ∈ s.callTrail call, Ends h handled.1 handled.2) ∨
    ∃ withdrawn, call = .awaitWithdrawal h withdrawn ∧ s.isSettled h withdrawn = false ∧
      ∃ host, s.env.host? h = some host ∧ ∃ event ∈ s.env.queue, TellsOfEnd host event

def Revokes (call : Call) : Prop :=
  ∃ desired, call = .requestNetState h desired ∧ s.TakesRequests h ∧
    desired.contains NetState.fullscreen = false

/-- Whether a call ends the wait for fullscreen in order. -/
def EndsInOrder (call : Call) : Prop :=
  s.Confirms h call ∨ s.Forgets h call ∨ s.Revokes h call

/-- Whether a call sends a request with fullscreen for a window of which fullscreen is already on
record. -/
def Repeats (call : Call) : Prop :=
  ∃ desired, call = .requestNetState h desired ∧ s.TakesRequests h ∧
    desired.contains NetState.fullscreen = true ∧
      (s.window h).netState.contains NetState.fullscreen = true

theorem forgets_awaitWithdrawal_iff (k : Handle) (withdrawn : Bool) :
    s.Forgets h (.awaitWithdrawal k withdrawn) ↔ k = h ∧ s.isSettled k withdrawn = false ∧
      ∃ host, s.env.host? k = some host ∧ ∃ event ∈ s.env.queue, TellsOfEnd host event := by
  constructor
  · rintro (same | ⟨_, handled, _⟩ | ⟨_, same, unsettled, ends⟩)
    · cases same
    · cases handled
    · cases same
      exact ⟨rfl, unsettled, ends⟩
  · rintro ⟨rfl, unsettled, ends⟩
    exact Or.inr (Or.inr ⟨withdrawn, rfl, unsettled, ends⟩)

theorem revokes_or_repeats_iff (k : Handle) (desired : NetState) :
    s.Revokes h (.requestNetState k desired) ∨ s.Repeats h (.requestNetState k desired) ↔
      k = h ∧ s.TakesRequests h ∧ (desired.contains NetState.fullscreen = false ∨
        (s.window h).netState.contains NetState.fullscreen = true) := by
  constructor
  · rintro (⟨_, same, takes, without⟩ | ⟨_, same, takes, -, recorded⟩)
    · cases same
      exact ⟨rfl, takes, Or.inl without⟩
    · cases same
      exact ⟨rfl, takes, Or.inr recorded⟩
  · rintro ⟨rfl, takes, ends⟩
    cases asked : desired.contains NetState.fullscreen with
    | false => exact Or.inl ⟨desired, rfl, takes, asked⟩
    | true => exact Or.inr ⟨desired, rfl, takes, asked, by simpa [asked] using ends⟩

variable {s h}

/-- A call that leaves what is known of the windows alone does not end the wait. -/
theorem awaits_unrelated (awaiting : s.AwaitsFullscreen h) {call : Call} {t : Scene}
    (same : t.seat.windows = s.seat.windows) (idle : s.callTrail call = [])
    (other : (∀ k, call ≠ .forgetWindow k) ∧ (∀ k withdrawn, call ≠ .awaitWithdrawal k withdrawn) ∧
      ∀ k desired, call ≠ .requestNetState k desired) :
    t.AwaitsFullscreen h ↔ ¬ (s.EndsInOrder h call ∨ s.Repeats h call) := by
  rw [awaits_congr h same]
  apply iff_of_true awaiting
  obtain ⟨forget, withdraw, request⟩ := other
  simp [EndsInOrder, Confirms, Forgets, Revokes, Repeats, idle, forget, withdraw, request]

/-- A call that does nothing but handle events ends the wait just when it ends in order. -/
theorem awaits_handling (awaiting : s.AwaitsFullscreen h) {call : Call} (only : call.OnlyHandles)
    {t : Scene} (taken : s.call? call = some t) : t.AwaitsFullscreen h ↔
      ¬ (s.EndsInOrder h call ∨ s.Repeats h call) := by
  have handled := s.call_iff (Q := fun known => (known.state h).pendingFullscreen = true)
    (fun u event => u.awaits_dispatch h event) only taken
  have others : call ≠ .forgetWindow h ∧ (∀ withdrawn, call ≠ .awaitWithdrawal h withdrawn) ∧
      ∀ desired, call ≠ .requestNetState h desired := by
    cases call <;> first | exact only.elim | simp
  obtain ⟨forget, withdraw, request⟩ := others
  have lasting : t.AwaitsFullscreen h ↔ ∀ handled ∈ s.callTrail call,
      ¬ (Acknowledges h handled.1 handled.2 ∨ Ends h handled.1 handled.2) :=
    handled.trans (and_iff_right awaiting)
  rw [lasting]
  have ways : s.EndsInOrder h call ∨ s.Repeats h call ↔
      (∃ handled ∈ s.callTrail call, Acknowledges h handled.1 handled.2) ∨
        ∃ handled ∈ s.callTrail call, Ends h handled.1 handled.2 := by
    simp [EndsInOrder, Confirms, Forgets, Revokes, Repeats, forget, withdraw, request]
  rw [ways]
  constructor
  · rintro goesOn (⟨handled, there, answered⟩ | ⟨handled, there, ending⟩)
    · exact goesOn handled there (Or.inl answered)
    · exact goesOn handled there (Or.inr ending)
  · rintro goesOn handled there (answered | ending)
    · exact goesOn (Or.inl ⟨handled, there, answered⟩)
    · exact goesOn (Or.inr ⟨handled, there, ending⟩)

/-- All that ends the wait for fullscreen. -/
theorem awaits_call (awaiting : s.AwaitsFullscreen h) {call : Call} {t : Scene}
    (taken : s.call? call = some t) : t.AwaitsFullscreen h ↔
      ¬ (s.EndsInOrder h call ∨ s.Repeats h call) := by
  cases call with
  | dispatch _ | drain _ | waitFor _ _ _ =>
      refine awaits_handling awaiting ?_ taken
      trivial
  | requestNetState k desired =>
      cases taken
      rw [awaits_requestNetState s h awaiting, ← s.revokes_or_repeats_iff h k desired]
      have idle : ¬ s.Confirms h (.requestNetState k desired) := by simp [Confirms, callTrail]
      have known : ¬ s.Forgets h (.requestNetState k desired) := by simp [Forgets, callTrail]
      simp [EndsInOrder, idle, known]
  | forgetWindow k =>
      cases taken
      rw [awaits_forgetWindow, and_iff_right awaiting]
      simp [EndsInOrder, Confirms, Forgets, Revokes, Repeats, callTrail]
  | awaitWithdrawal k withdrawn =>
      obtain ⟨⟨u, reached⟩, ended, rfl⟩ := Option.map_eq_some_iff.mp taken
      rw [s.awaits_awaitWithdrawal h ended, and_iff_right awaiting,
        ← s.forgets_awaitWithdrawal_iff h k withdrawn]
      have idle : ¬ s.Confirms h (.awaitWithdrawal k withdrawn) := by simp [Confirms, callTrail]
      simp [EndsInOrder, idle, Revokes, Repeats]
  | noteConfigureRequest k =>
      cases taken
      rw [awaits_noteConfigureRequest]
      exact awaits_unrelated awaiting rfl rfl (by simp)
  | clipCursor rect =>
      cases taken
      exact awaits_unrelated awaiting (s.windows_clipCursor rect) rfl (by simp)
  | clipFullscreen k reset =>
      cases taken
      exact awaits_unrelated awaiting (s.windows_clipFullscreen k reset) rfl (by simp)
  | resetClipping =>
      cases taken
      exact awaits_unrelated awaiting s.windows_resetClipping rfl (by simp)
  | setCursor cursor =>
      cases taken
      exact awaits_unrelated awaiting (s.windows_setCursor cursor) rfl (by simp)
  | message k message =>
      cases taken
      exact awaits_unrelated awaiting (s.windows_driverMessage k message) rfl (by simp)
  | destroyCursor _ | setCursorPos _ | setRawOnly _ =>
      cases taken
      exact awaits_unrelated awaiting rfl rfl (by simp)

/-- A repetition is none of the ways to end the wait in order. -/
theorem not_ends_of_repeats {call : Call} (repeated : s.Repeats h call) :
    ¬ s.EndsInOrder h call := by
  obtain ⟨desired, rfl, -, asked, -⟩ := repeated
  simp [EndsInOrder, Confirms, Forgets, Revokes, callTrail, asked]

/-- The same request made twice in a row is a repetition: the first puts fullscreen on record. -/
theorem repeats_requestNetState (takes : s.TakesRequests h) {desired : NetState}
    (asked : desired.contains NetState.fullscreen = true) :
    (s.requestNetState h desired).Repeats h (.requestNetState h desired) := by
  obtain ⟨info, known, managed, mapped, host⟩ := takes
  obtain ⟨w, shown⟩ := Option.isSome_iff_exists.mp host
  have own : (info.host.filter fun _ => info.managed) = some w := by
    rw [shown, managed]
    rfl
  have sent : s.requestNetState h desired =
      (s.editWindow h fun state => state.desire info.mapped desired).request (.netState w desired) := by
    unfold requestNetState
    rw [known]
    dsimp only
    rw [own]
  refine ⟨desired, rfl, ⟨info, ?_, managed, mapped, host⟩, asked, ?_⟩
  · rw [sent]
    exact known
  · rw [sent]
    change (((s.editWindow h _).window h).netState).contains NetState.fullscreen = true
    rw [window_editWindow, if_pos rfl]
    exact asked

/-- A turn that puts no end to the wait in order and does not repeat a request for fullscreen. -/
def WaitsOn (h : Handle) (s : Scene) : Turn → Prop
  | .call call => ¬ s.EndsInOrder h call ∧ ¬ s.Repeats h call
  | .change _ => True

theorem awaits_take {turn : Turn} {t : Scene} (awaiting : s.AwaitsFullscreen h)
    (waits : WaitsOn h s turn) (taken : s.take? turn = some t) : t.AwaitsFullscreen h := by
  cases turn with
  | call call =>
      apply (awaits_call awaiting taken).mpr
      rintro (inOrder | repeated)
      · exact waits.1 inOrder
      · exact waits.2 repeated
  | change env =>
      cases taken
      exact awaiting

/-- From a scene in which fullscreen is awaited, a run without repetitions waits until the wait is ended
in order. As long as the wait goes on, new geometry neither changes the window nor makes a message for
it; the next call ends the wait if and only if it does so in order or repeats the request for
fullscreen. -/
theorem awaits_until_ended {start s : Scene} {h : Handle} (awaiting : start.AwaitsFullscreen h)
    (run : Run (WaitsOn h) start s) :
    s.AwaitsFullscreen h ∧
      (∀ {event : EventRecord} {e : ConfigureEvent}, event.kind = .configure e →
        s.env.SameFor (s.dispatch event).1.env h) ∧
      ∀ {call : Call} {t : Scene}, s.call? call = some t →
        (s.Repeats h call → ¬ t.AwaitsFullscreen h ∧ ¬ s.EndsInOrder h call) ∧
        (¬ s.Repeats h call → (¬ t.AwaitsFullscreen h ↔ s.EndsInOrder h call)) := by
  have still : s.AwaitsFullscreen h := run.preserves awaiting awaits_take
  refine ⟨still, s.sameFor_dispatch h still, fun taken => ?_⟩
  have ends := awaits_call still taken
  constructor
  · intro repeated
    exact ⟨fun goesOn => ends.mp goesOn (Or.inr repeated), not_ends_of_repeats repeated⟩
  · intro fresh
    rw [ends, not_not, or_iff_left fresh]

def askedOnce : Scene :=
  let s := alone ⟨0, 0, 1920, 1080⟩
  let env := (s.env.createWindow WindowStyle.visible ⟨0, 0, 800, 600⟩).1
  { s with env }.requestNetState ⟨0x20000⟩ NetState.fullscreen

/-- Asked for once more, fullscreen is not waited for any longer. -/
theorem askedOnce_repeated :
    askedOnce.AwaitsFullscreen ⟨0x20000⟩ ∧
      ¬ (askedOnce.requestNetState ⟨0x20000⟩ NetState.fullscreen).AwaitsFullscreen ⟨0x20000⟩ := by
  have awaiting : askedOnce.AwaitsFullscreen ⟨0x20000⟩ := rfl
  refine ⟨awaiting, ?_⟩
  have repeated : askedOnce.Repeats ⟨0x20000⟩ (.requestNetState ⟨0x20000⟩ NetState.fullscreen) :=
    repeats_requestNetState ⟨_, rfl, rfl, rfl, rfl⟩ rfl
  exact (((awaits_until_ended awaiting .start).2.2 rfl).1 repeated).1

end Scene

end GuestSeat
