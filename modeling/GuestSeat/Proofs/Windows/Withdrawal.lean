import GuestSeat.Proofs.Clip.Course

/-!
What a wait for a withdrawal reads. It takes the events out of the queue that tell of the state property
or of the end of one host window, up to its end, and changes nothing in the surroundings by noting them.
-/

namespace GuestSeat.Scene

variable (s : Scene) (h : Handle) (host : HostWindow)

def TellsOfEnd (host : HostWindow) (event : EventRecord) : Prop :=
  event.window = host ∧ event.kind = .destroy

def IsAbout (host : HostWindow) (event : EventRecord) : Prop :=
  event.window = host ∧
    (event.kind = .destroy ∨ ∃ e : PropertyEvent, event.kind = .property e ∧ e.atom = .wmState)

variable {host} in
theorem TellsOfEnd.isAbout {event : EventRecord} (ending : TellsOfEnd host event) : IsAbout host event :=
  ⟨ending.1, Or.inl ending.2⟩

theorem tellsOfState_iff (event : EventRecord) :
    tellsOfState host event = true ↔ IsAbout host event := by
  unfold tellsOfState IsAbout
  rw [Bool.and_eq_true, beq_iff_eq]
  apply and_congr_right
  intro _
  cases event.kind <;> simp

/-- To note a state without correcting the window is to change what is known of it, and no more. -/
theorem env_wmStateChanged_false (change : PropertyChange) :
    (s.wmStateChanged h change false).env = s.env := by
  unfold wmStateChanged
  split
  · rfl
  split
  · rfl
  next w _ =>
  have kept : (s.observeWmState h w change).1.env = s.env := rfl
  split
  · next t observed => rw [observed] at kept; exact kept
  · next t observed => rw [observed] at kept; exact kept

/-- What becomes of the first event of a queue: it is the last one taken, or the state is noted and the
others are looked at, or it stays. -/
theorem takeStates_cons (event : EventRecord) (rest : List EventRecord) :
    TellsOfEnd host event ∧
        s.takeStates h host (event :: rest) = (s.forgetWindow h, rest, true) ∨
      (∃ e : PropertyEvent, event.kind = .property e ∧ IsAbout host event ∧
        s.takeStates h host (event :: rest) =
          (s.wmStateChanged h e.change false).takeStates h host rest) ∨
      ¬ IsAbout host event ∧ s.takeStates h host (event :: rest) =
        ((s.takeStates h host rest).1, event :: (s.takeStates h host rest).2.1,
          (s.takeStates h host rest).2.2) := by
  by_cases about : IsAbout host event
  · have telling := (tellsOfState_iff host event).mpr about
    obtain ⟨window, ending | ⟨e, property, atom⟩⟩ := about
    · refine Or.inl ⟨⟨window, ending⟩, ?_⟩
      simp only [takeStates, telling, ending, if_true]
    · refine Or.inr (Or.inl ⟨e, property, ⟨window, Or.inr ⟨e, property, atom⟩⟩, ?_⟩)
      simp only [takeStates, telling, property, if_true]
  · refine Or.inr (Or.inr ⟨about, ?_⟩)
    have silent := mt (tellsOfState_iff host event).mp about
    rw [takeStates, if_neg silent]

theorem env_takeStates (events : List EventRecord) :
    (s.takeStates h host events).1.env = s.env := by
  induction events generalizing s with
  | nil => rfl
  | cons event rest ih =>
      obtain ⟨-, taken⟩ | ⟨e, -, -, taken⟩ | ⟨-, left⟩ := s.takeStates_cons h host event rest
      · rw [taken]
        rfl
      · rw [taken, ih, env_wmStateChanged_false]
      · rw [left, ih]

/-- The flag of a look at the queue tells whether the window is gone. -/
theorem gone_takeStates_iff (events : List EventRecord) :
    (s.takeStates h host events).2.2 = true ↔ ∃ event ∈ events, TellsOfEnd host event := by
  induction events generalizing s with
  | nil => simp [takeStates]
  | cons event rest ih =>
      rw [List.exists_mem_cons_iff]
      obtain ⟨ending, taken⟩ | ⟨e, property, -, taken⟩ | ⟨other, left⟩ :=
        s.takeStates_cons h host event rest
      · rw [taken]
        exact iff_of_true rfl (Or.inl ending)
      · have unended : ¬ TellsOfEnd host event := by simp [TellsOfEnd, property]
        rw [taken, ih, or_iff_right unended]
      · rw [left, or_iff_right (mt TellsOfEnd.isAbout other)]
        exact ih s

/-- As long as the window is there, all events that tell of its state are taken and no others. -/
theorem left_takeStates {events : List EventRecord}
    (there : (s.takeStates h host events).2.2 = false) :
    (s.takeStates h host events).2.1 = events.filter fun event => !tellsOfState host event := by
  induction events generalizing s with
  | nil => rfl
  | cons event rest ih =>
      obtain ⟨-, taken⟩ | ⟨e, -, about, taken⟩ | ⟨other, left⟩ := s.takeStates_cons h host event rest
      · rw [taken] at there
        cases there
      · rw [taken] at there ⊢
        rw [List.filter_cons_of_neg (by simp [(tellsOfState_iff host event).mpr about])]
        exact ih _ there
      · rw [left] at there ⊢
        rw [List.filter_cons_of_pos (by simpa using mt (tellsOfState_iff host event).mp other)]
        exact congrArg (event :: ·) (ih s there)

theorem takeStates_silent {events : List EventRecord} (silent : ∀ event ∈ events, ¬ IsAbout host event) :
    s.takeStates h host events = (s, events, false) := by
  induction events with
  | nil => rfl
  | cons event rest ih =>
      obtain ⟨first, later⟩ := List.forall_mem_cons.mp silent
      obtain ⟨ending, -⟩ | ⟨e, -, about, -⟩ | ⟨-, left⟩ := s.takeStates_cons h host event rest
      · exact absurd ending.isAbout first
      · exact absurd about first
      · rw [left, ih later]

def noting : Scene :=
  (s.takeStates h host s.env.queue).1.act fun env =>
    { env with queue := (s.takeStates h host s.env.queue).2.1 }

theorem env_noting : (s.noting h host).env =
    { s.env with queue := (s.takeStates h host s.env.queue).2.1 } := by
  have same := s.env_takeStates h host s.env.queue
  unfold noting act
  rw [same]

variable {s h host}

theorem there_of_unended (unended : ∀ event ∈ s.env.queue, ¬ TellsOfEnd host event) :
    (s.takeStates h host s.env.queue).2.2 = false := by
  apply eq_false_of_ne_true
  intro gone
  obtain ⟨event, present, ending⟩ := (s.gone_takeStates_iff h host s.env.queue).mp gone
  exact unended event present ending

/-- After a look at the queue the events are there that are not about the window. -/
theorem mem_queue_noting (unended : ∀ event ∈ s.env.queue, ¬ TellsOfEnd host event)
    (event : EventRecord) :
    event ∈ (s.noting h host).env.queue ↔ event ∈ s.env.queue ∧ ¬ IsAbout host event := by
  rw [env_noting]
  change event ∈ (s.takeStates h host s.env.queue).2.1 ↔ _
  rw [s.left_takeStates h host (there_of_unended unended), List.mem_filter, ← tellsOfState_iff]
  simp

theorem noting_silent (silent : ∀ event ∈ s.env.queue, ¬ IsAbout host event) :
    s.noting h host = s := by
  unfold noting
  rw [s.takeStates_silent h host silent]
  rfl

inductive Look (s : Scene) (h : Handle) (host : HostWindow) (deadline : Nat) : Round → Prop
  | gone (ending : ∃ event ∈ s.env.queue, TellsOfEnd host event) :
      Look s h host deadline (.finished (s.noting h host) true)
  | noted (unended : ∀ event ∈ s.env.queue, ¬ TellsOfEnd host event)
      (telling : ∃ event ∈ s.env.queue, IsAbout host event) :
      Look s h host deadline (.again (s.noting h host))
  | late (silent : ∀ event ∈ s.env.queue, ¬ IsAbout host event) (expired : deadline ≤ s.env.tick) :
      Look s h host deadline (.finished s false)
  /-- The rest of the time passes in a single wait. -/
  | idle (silent : ∀ event ∈ s.env.queue, ¬ IsAbout host event) (early : s.env.tick < deadline)
      (empty : s.env.queue = []) :
      Look s h host deadline (.finished { s with env :=
        ({ s.env with signaled := none } : Environment).elapse (deadline - s.env.tick) } false)
  | stuck (silent : ∀ event ∈ s.env.queue, ¬ IsAbout host event) (early : s.env.tick < deadline)
      (crowded : s.env.queue ≠ []) : Look s h host deadline .stuck

/-- A wait for no handle ends at once while events are queued, and else with the time. -/
theorem wait_nobody (env : Environment) (timeout : Nat) :
    env.wait [] (some timeout) =
      if env.queue.isEmpty then (({ env with signaled := none } : Environment).elapse timeout, .timeout)
      else ({ env with signaled := none }, .inputReady) := by
  have nobody : env.signaled.filter (fun index => decide (index < ([] : List WaitHandle).length)) =
      none := by simp
  unfold Environment.wait
  rw [nobody]
  rfl

/-- A look at the queue comes to one of the listed cases. -/
theorem look_withdrawalRound (s : Scene) (h : Handle) (host : HostWindow) (deadline : Nat) :
    Look s h host deadline (s.withdrawalRound h host deadline) := by
  by_cases telling : s.env.queue.any (tellsOfState host) = true
  · obtain ⟨event, present, tells⟩ := List.any_eq_true.mp telling
    have ends := s.gone_takeStates_iff h host s.env.queue
    have round : s.withdrawalRound h host deadline =
        if (s.takeStates h host s.env.queue).2.2 then .finished (s.noting h host) true
        else .again (s.noting h host) := if_pos telling
    rw [round]
    split
    · next gone => exact .gone (ends.mp gone)
    · next there =>
      have unended := mt ends.mpr there
      push Not at unended
      exact .noted unended ⟨event, present, (tellsOfState_iff host event).mp tells⟩
  · have silent : ∀ event ∈ s.env.queue, ¬ IsAbout host event := by
      intro event present about
      exact telling (List.any_eq_true.mpr ⟨event, present, (tellsOfState_iff host event).mpr about⟩)
    unfold withdrawalRound
    rw [if_neg telling]
    dsimp only
    rw [wait_nobody]
    by_cases expired : deadline ≤ s.env.tick
    · rw [if_pos (Nat.sub_eq_zero_of_le expired)]
      exact .late silent expired
    · have early : s.env.tick < deadline := Nat.lt_of_not_le expired
      rw [if_neg (Nat.sub_ne_zero_of_lt early)]
      by_cases empty : s.env.queue.isEmpty = true
      · rw [if_pos empty]
        exact .idle silent early (List.isEmpty_iff.mp empty)
      · rw [if_neg empty]
        exact .stuck silent early (mt List.isEmpty_iff.mpr empty)

end GuestSeat.Scene
