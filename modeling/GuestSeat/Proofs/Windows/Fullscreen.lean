import GuestSeat.Proofs.Drain.Trail
import GuestSeat.Proofs.Windows.Waiting

/-!
Awaiting fullscreen. A seat that asked the window manager for fullscreen does not follow the geometry of
the window until the window manager shows it fullscreen. What puts an end to that is listed here in
full; one of the ways is a request that is made again before it was granted.
-/

namespace GuestSeat.Scene

variable (s : Scene) (h : Handle)

/-- Whether fullscreen was asked for on behalf of a window and is not confirmed. -/
def AwaitsFullscreen (s : Scene) (h : Handle) : Prop := (s.window h).pendingFullscreen = true

def ShownFullscreen (s : Scene) (h : Handle) : Prop :=
  ∃ w, s.env.host? h = some w ∧ (s.env.netState w).contains NetState.fullscreen = true

def TakesRequests (s : Scene) (h : Handle) : Prop :=
  ∃ info, s.env.info? h = some info ∧ info.managed ∧ info.mapped ∧ info.host.isSome

def Concerns (s : Scene) (h : Handle) (event : EventRecord) : Prop :=
  target s.env event = h ∧ h.isNull = false

def Acknowledges (h : Handle) (s : Scene) (event : EventRecord) : Prop :=
  s.Concerns h event ∧ s.ShownFullscreen h ∧
    ∃ e : PropertyEvent, event.kind = .property e ∧ e.atom = .netWmState

def Ends (h : Handle) (s : Scene) (event : EventRecord) : Prop :=
  s.Concerns h event ∧ event.kind = .destroy

theorem awaits_congr {s t : Scene} (same : t.seat.windows = s.seat.windows) :
    t.AwaitsFullscreen h ↔ s.AwaitsFullscreen h := by
  unfold AwaitsFullscreen
  rw [window_congr same]

/-- A change that leaves the wait for fullscreen alone. -/
theorem awaits_editWindow (k : Handle) {f : ManagedState → ManagedState}
    (keeps : (f (s.window k)).pendingFullscreen = (s.window k).pendingFullscreen) :
    (s.editWindow k f).AwaitsFullscreen h ↔ s.AwaitsFullscreen h := by
  unfold AwaitsFullscreen
  rw [s.view_editWindow ManagedState.pendingFullscreen h k keeps]

theorem awaits_wmStateChanged (k : Handle) (change : PropertyChange) (correcting : Bool) :
    (s.wmStateChanged k change correcting).AwaitsFullscreen h ↔ s.AwaitsFullscreen h := by
  unfold AwaitsFullscreen
  rw [s.view_wmStateChanged ManagedState.pendingFullscreen h k (fun _ _ => rfl) fun _ _ _ => rfl]

/-- When the extended state of a window is told, the wait goes on unless the window is fullscreen. -/
theorem awaits_netStateChanged (k : Handle) :
    (s.netStateChanged k).AwaitsFullscreen h ↔
      s.AwaitsFullscreen h ∧ ¬ (k = h ∧ s.ShownFullscreen h) := by
  unfold netStateChanged
  cases known : s.env.host? k with
  | none =>
      have unshown : ¬ (k = h ∧ s.ShownFullscreen h) := by
        rintro ⟨rfl, w, shown, -⟩
        rw [known] at shown
        cases shown
      simp [unshown]
  | some w =>
      unfold AwaitsFullscreen
      rw [window_editWindow]
      by_cases same : h = k
      · subst same
        rw [if_pos rfl]
        have shown : s.ShownFullscreen h ↔ (s.env.netState w).contains NetState.fullscreen = true := by
          simp [ShownFullscreen, known]
        unfold ManagedState.acknowledge
        rw [shown]
        split
        · next awaited => simp [awaited]
        · next idle => simp [idle]
      · have other : k ≠ h := fun eq => same eq.symm
        simp [same, other]

theorem awaits_configure (k : Handle) (event : EventRecord) (e : ConfigureEvent) :
    (s.configure k event e).1.AwaitsFullscreen h ↔ s.AwaitsFullscreen h := by
  unfold AwaitsFullscreen
  rw [s.view_configure ManagedState.pendingFullscreen h k fun _ _ => rfl]

theorem awaits_destroyed (k : Handle) : (s.destroyed k).1.AwaitsFullscreen h ↔
    s.AwaitsFullscreen h ∧ ¬ (k = h ∧ h.isNull = false) := by
  unfold destroyed
  split
  · next null =>
      have other : ¬ (k = h ∧ h.isNull = false) := by
        rintro ⟨rfl, there⟩
        rw [null] at there
        cases there
      simp [other]
  · next there =>
      unfold AwaitsFullscreen
      rw [window_forgetWindow]
      by_cases same : h = k
      · subst same
        simp [there]
      · have other : k ≠ h := fun eq => same eq.symm
        simp [same, other]

/-- A change of a property does nothing to the wait but confirm it. -/
theorem awaits_property (k : Handle) (e : PropertyEvent) : (s.property k e).1.AwaitsFullscreen h ↔
    s.AwaitsFullscreen h ∧ ¬ (k = h ∧ s.ShownFullscreen h ∧ e.atom = .netWmState) := by
  unfold property
  cases e.atom with
  | wmState => simpa using s.awaits_wmStateChanged h k e.change true
  | netWmState => simpa using s.awaits_netStateChanged h k
  | other atom => simp

/-- An event that tells of no window puts no end to a wait. -/
theorem not_ends_of_not_tells {event : EventRecord} (other : ¬ TellsOfWindow event) :
    ¬ (Acknowledges h s event ∨ Ends h s event) := by
  rintro (⟨-, -, e, told, -⟩ | ⟨-, told⟩)
  · exact other (Or.inl (congrArg EventKind.tag told))
  · exact other (Or.inr (Or.inr (congrArg EventKind.tag told)))

/-- A handler ends the wait for fullscreen just if the host reports it or the window is gone. -/
theorem awaits_handle (event : EventRecord) :
    (s.handle (target s.env event) event).1.AwaitsFullscreen h ↔
      s.AwaitsFullscreen h ∧ ¬ (Acknowledges h s event ∨ Ends h s event) := by
  by_cases tells : TellsOfWindow event
  · unfold handle
    generalize hk : target s.env event = k
    cases hkind : event.kind with
    | property e =>
        have noEnd : ¬ Ends h s event := by simp [Ends, hkind]
        have confirms : Acknowledges h s event ↔
            (k = h ∧ h.isNull = false) ∧ s.ShownFullscreen h ∧ e.atom = .netWmState := by
          simp [Acknowledges, Concerns, hkind, hk]
        dsimp only
        rw [confirms]
        by_cases null : k.isNull
        · have absent : ¬ (k = h ∧ h.isNull = false) := by
            rintro ⟨rfl, there⟩
            simp [null] at there
          simp [null, absent, noEnd]
        · rw [if_neg null, s.awaits_property h k e]
          have there : k = h → h.isNull = false := by
            rintro rfl
            simpa using null
          grind
    | configure e =>
        have goesOn : ¬ (Acknowledges h s event ∨ Ends h s event) := by
          simp [Acknowledges, Ends, hkind]
        dsimp only
        split
        · simp [goesOn]
        · simpa [goesOn] using s.awaits_configure h k event e
    | destroy =>
        have noAnswer : ¬ Acknowledges h s event := by simp [Acknowledges, hkind]
        have ends : Ends h s event ↔ k = h ∧ h.isNull = false := by
          simp [Ends, Concerns, hkind, hk]
        simpa [noAnswer, ends] using s.awaits_destroyed h k
    | generic extension =>
        cases extension <;> simp [TellsOfWindow, EventRecord.tag, hkind, EventKind.tag] at tells
    | _ => simp [TellsOfWindow, EventRecord.tag, hkind, EventKind.tag] at tells
  · have same := s.windows_handle (target s.env event) tells
    rw [awaits_congr h same]
    have goesOn := s.not_ends_of_not_tells h tells
    simp [goesOn]

/-- What one event does to the wait for fullscreen. -/
theorem awaits_dispatch (event : EventRecord) : (s.dispatch event).1.AwaitsFullscreen h ↔
    s.AwaitsFullscreen h ∧ ¬ (Acknowledges h s event ∨ Ends h s event) :=
  -- while its handler runs, the event is on record, which does not show in windows and surroundings
  awaits_handle (s.edit fun i => { i with inFlight := some ⟨event.tag, event.serial⟩ }) h event

theorem awaits_forgetWindow (k : Handle) :
    (s.forgetWindow k).AwaitsFullscreen h ↔ s.AwaitsFullscreen h ∧ k ≠ h := by
  unfold AwaitsFullscreen
  rw [window_forgetWindow]
  by_cases same : h = k
  · subst same
    simp
  · have other : k ≠ h := fun eq => same eq.symm
    simp [same, other]

/-- A request for states ends the wait if it is sent and does not ask for fullscreen, and also if it
does and fullscreen is among the states that the last request left on record. -/
theorem awaits_requestNetState {k : Handle} {desired : NetState} (awaiting : s.AwaitsFullscreen h) :
    (s.requestNetState k desired).AwaitsFullscreen h ↔
      ¬ (k = h ∧ s.TakesRequests h ∧ (desired.contains NetState.fullscreen = false ∨
        (s.window h).netState.contains NetState.fullscreen = true)) := by
  have ignored : (k = h → ¬ s.TakesRequests h) → ((s.AwaitsFullscreen h) ↔
      ¬ (k = h ∧ s.TakesRequests h ∧ (desired.contains NetState.fullscreen = false ∨
        (s.window h).netState.contains NetState.fullscreen = true))) := by
    intro closed
    exact iff_of_true awaiting fun ⟨same, takes, _⟩ => closed same takes
  unfold requestNetState
  cases known : s.env.info? k with
  | none =>
      apply ignored
      rintro rfl ⟨info, found, -⟩
      rw [known] at found
      cases found
  | some info =>
      dsimp only
      cases hosted : info.host.filter fun _ => info.managed with
      | none =>
          apply ignored
          rintro rfl ⟨own, found, managed, -, host⟩
          obtain rfl : info = own := Option.some.inj (known.symm.trans found)
          obtain ⟨w, shown⟩ := Option.isSome_iff_exists.mp host
          simp [shown, managed] at hosted
      | some w =>
          have sent := Option.filter_eq_some_iff.mp hosted
          dsimp only
          change (s.editWindow k fun state => state.desire info.mapped desired).AwaitsFullscreen h ↔ _
          by_cases same : k = h
          · subst same
            have takes : s.TakesRequests k ↔ info.mapped = true := by
              simp [TakesRequests, known, sent.1, sent.2]
            unfold AwaitsFullscreen at awaiting ⊢
            rw [window_editWindow, if_pos rfl, takes]
            unfold ManagedState.desire
            cases info.mapped with
            | false => simp [awaiting]
            | true => simp
          · have other : h ≠ k := fun eq => same eq.symm
            unfold AwaitsFullscreen at awaiting ⊢
            rw [window_editWindow, if_neg other]
            simp [same, awaiting]

theorem awaits_noteConfigureRequest (k : Handle) :
    (s.noteConfigureRequest k).AwaitsFullscreen h ↔ s.AwaitsFullscreen h :=
  s.awaits_editWindow h k rfl

/-- A wait for a withdrawal ends the wait for fullscreen if it reads of the end of the window. -/
theorem awaits_awaitWithdrawal {k : Handle} {withdrawn reached : Bool} {t : Scene}
    (ended : s.awaitWithdrawal k withdrawn = some (t, reached)) :
    t.AwaitsFullscreen h ↔ s.AwaitsFullscreen h ∧ ¬ (k = h ∧ s.isSettled k withdrawn = false ∧
      ∃ host, s.env.host? k = some host ∧ ∃ event ∈ s.env.queue, TellsOfEnd host event) := by
  rw [← losesWindow_iff ended]
  by_cases lost : k = h ∧ s.LosesWindow k t
  · obtain ⟨rfl, lost⟩ := lost
    have forgotten : ¬ t.AwaitsFullscreen k := by
      unfold AwaitsFullscreen window ManagedCache.state OrderedMap.getD
      rw [lost.1]
      exact Bool.false_ne_true
    exact iff_of_false forgotten fun goesOn => goesOn.2 ⟨rfl, lost⟩
  · have kept := view_withdrawalRounds ManagedState.pendingFullscreen (fun _ _ => rfl) h
      (Nat.min_le_right _ _) ended lost
    rw [and_iff_left lost]
    unfold AwaitsFullscreen
    rw [kept]

end GuestSeat.Scene
