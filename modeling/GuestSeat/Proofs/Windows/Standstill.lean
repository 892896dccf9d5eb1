import GuestSeat.Proofs.Windows.Waiting

/-!
When a wait for a withdrawal ends. Passes are made until the window is where it should be or the time is
over. The time only passes while the queue is empty, and an event about something else stays in the
queue, so a wait that finds such an event and nothing to its purpose makes the same pass for ever. Every
other wait is over after two passes, and in time.
-/

namespace GuestSeat.Scene

variable {s t : Scene} {h : Handle} {host : HostWindow} {withdrawn : Bool} {deadline : Nat}

inductive Pass
  | over (s : Scene) (reached : Bool)
  | on (s : Scene)

/-- One pass of a wait. A pass that finds other events in the queue goes on after a wait that was over
at once. -/
def pass (s : Scene) (h : Handle) (withdrawn : Bool) (deadline : Nat) : Pass :=
  if s.isSettled h withdrawn then .over s true
  else
    match s.env.host? h with
    | none => .over s true
    | some host =>
      match s.withdrawalRound h host deadline with
      | .finished t reached => .over t reached
      | .again t => .on t
      | .stuck => .on { s with env := (s.env.wait [] (some (deadline - s.env.tick))).1 }

/-- What so many passes come to, if the wait is over after them. -/
def passes (h : Handle) (withdrawn : Bool) (deadline : Nat) : Nat → Scene → Option (Scene × Bool)
  | 0, _ => none
  | n + 1, s =>
    match s.pass h withdrawn deadline with
    | .over t reached => some (t, reached)
    | .on t => passes h withdrawn deadline n t

/-- A wait that is over stays so. -/
theorem passes_mono {m n : Nat} (le : m ≤ n) {outcome : Scene × Bool}
    (ended : passes h withdrawn deadline m s = some outcome) :
    passes h withdrawn deadline n s = some outcome := by
  induction m generalizing n s with
  | zero => cases ended
  | succ m ih =>
      obtain ⟨n, rfl⟩ : ∃ k, n = k + 1 := ⟨n - 1, by omega⟩
      unfold passes at ended ⊢
      split at ended
      · exact ended
      · exact ih (by omega) ended

/-- Whether a wait stands still. The window is not where it should be, nothing in the queue is about it,
and what is there stays and keeps the time from passing. -/
structure StandsStill (h : Handle) (withdrawn : Bool) (deadline : Nat) (host : HostWindow)
    (s : Scene) : Prop where
  known : s.env.host? h = some host
  astray : ¬ s.Arrived h withdrawn
  silent : ∀ event ∈ s.env.queue, ¬ IsAbout host event
  early : s.env.tick < deadline
  crowded : s.env.queue ≠ []

/-- Whether a wait is held up. The events about the window neither tell of its end nor take it to where
it should be, there are others beside them, and there is time left. -/
structure HeldUp (h : Handle) (withdrawn : Bool) (deadline : Nat) (host : HostWindow)
    (s : Scene) : Prop where
  known : s.env.host? h = some host
  astray : ¬ s.Arrived h withdrawn
  unended : ∀ event ∈ s.env.queue, ¬ TellsOfEnd host event
  unmoved : ¬ (s.noting h host).Arrived h withdrawn
  early : s.env.tick < deadline
  crowded : ∃ event ∈ s.env.queue, ¬ IsAbout host event

theorem StandsStill.stuck (still : StandsStill h withdrawn deadline host s) :
    s.withdrawalRound h host deadline = .stuck := by
  have look := s.look_withdrawalRound h host deadline
  generalize s.withdrawalRound h host deadline = round at look
  cases look with
  | gone ending =>
      obtain ⟨event, present, ends⟩ := ending
      exact absurd ends.isAbout (still.silent event present)
  | noted _ telling =>
      obtain ⟨event, present, about⟩ := telling
      exact absurd about (still.silent event present)
  | late _ expired => exact absurd still.early (Nat.not_lt.mpr expired)
  | idle _ _ empty => exact absurd empty still.crowded
  | stuck _ _ _ => rfl

theorem pass_astray (astray : ¬ s.Arrived h withdrawn) (known : s.env.host? h = some host) :
    s.pass h withdrawn deadline =
      match s.withdrawalRound h host deadline with
      | .finished t reached => .over t reached
      | .again t => .on t
      | .stuck => .on { s with env := (s.env.wait [] (some (deadline - s.env.tick))).1 } := by
  unfold pass
  rw [if_neg (mt (s.isSettled_iff h withdrawn).mp astray), known]

/-- A pass of a wait that stands still changes nothing of it. -/
theorem StandsStill.pass (still : StandsStill h withdrawn deadline host s) :
    ∃ t, s.pass h withdrawn deadline = .on t ∧ StandsStill h withdrawn deadline host t := by
  refine ⟨{ s with env := (s.env.wait [] (some (deadline - s.env.tick))).1 }, ?_, ?_⟩
  · rw [pass_astray still.astray still.known, still.stuck]
  · have crowded : ¬ s.env.queue.isEmpty = true := mt List.isEmpty_iff.mp still.crowded
    rw [wait_nobody, if_neg crowded]
    refine ⟨still.known, fun arrived => still.astray ?_, still.silent, still.early, still.crowded⟩
    refine arrived.congr ?_ ?_ <;> rfl

theorem StandsStill.passes (still : StandsStill h withdrawn deadline host s) (n : Nat) :
    passes h withdrawn deadline n s = none := by
  induction n generalizing s with
  | zero => rfl
  | succ n ih =>
      obtain ⟨t, on, still⟩ := still.pass
      unfold Scene.passes
      rw [on]
      exact ih still

/-- A wait that is held up stands still after it noted what the queue tells. -/
theorem HeldUp.standsStill (held : HeldUp h withdrawn deadline host s) :
    StandsStill h withdrawn deadline host (s.noting h host) := by
  obtain ⟨event, present, other⟩ := held.crowded
  have left := (mem_queue_noting (h := h) held.unended event).mpr ⟨present, other⟩
  refine ⟨?_, held.unmoved, ?_, ?_, List.ne_nil_of_mem left⟩
  · rw [env_noting]
    exact held.known
  · exact fun event present => ((mem_queue_noting held.unended event).mp present).2
  · rw [env_noting]
    exact held.early

theorem HeldUp.again (held : HeldUp h withdrawn deadline host s)
    (telling : ∃ event ∈ s.env.queue, IsAbout host event) :
    s.withdrawalRound h host deadline = .again (s.noting h host) := by
  have look := s.look_withdrawalRound h host deadline
  generalize s.withdrawalRound h host deadline = round at look
  obtain ⟨event, present, about⟩ := telling
  cases look with
  | gone ending =>
      obtain ⟨event, present, ends⟩ := ending
      exact absurd ends (held.unended event present)
  | noted _ _ => rfl
  | late silent _ | idle silent _ _ | stuck silent _ _ => exact absurd about (silent event present)

/-- There is no number of passes after which a wait is over that is held up. -/
theorem HeldUp.passes (held : HeldUp h withdrawn deadline host s) (n : Nat) :
    passes h withdrawn deadline n s = none := by
  have still := held.standsStill
  by_cases telling : ∃ event ∈ s.env.queue, IsAbout host event
  · cases n with
    | zero => rfl
    | succ n =>
        unfold Scene.passes
        rw [pass_astray held.astray held.known, held.again telling]
        exact still.passes n
  · push Not at telling
    rw [noting_silent telling] at still
    exact still.passes n

/-- A pass that is not the last one noted what the queue tells, or stands still. -/
theorem pass_on (on : s.pass h withdrawn deadline = .on t) : ¬ s.Arrived h withdrawn ∧
    ∃ host, s.env.host? h = some host ∧
      ((∀ event ∈ s.env.queue, ¬ TellsOfEnd host event) ∧
          (∃ event ∈ s.env.queue, IsAbout host event) ∧ t = s.noting h host ∨
        StandsStill h withdrawn deadline host s) := by
  have astray : ¬ s.Arrived h withdrawn := by
    intro arrived
    unfold pass at on
    rw [if_pos ((s.isSettled_iff h withdrawn).mpr arrived)] at on
    cases on
  obtain ⟨host, known⟩ : ∃ host, s.env.host? h = some host :=
    Option.ne_none_iff_exists'.mp fun bare => astray (arrived_of_host? withdrawn bare)
  rw [pass_astray astray known] at on
  refine ⟨astray, host, known, ?_⟩
  have look := s.look_withdrawalRound h host deadline
  generalize s.withdrawalRound h host deadline = round at look on
  cases look with
  | gone _ | late _ _ | idle _ _ _ => cases on
  | noted unended telling =>
      cases on
      exact Or.inl ⟨unended, telling, rfl⟩
  | stuck silent early crowded => exact Or.inr ⟨known, astray, silent, early, crowded⟩

/-- A wait that is not over after two passes is held up. -/
theorem heldUp_of_passes (unfinished : passes h withdrawn deadline 2 s = none) :
    ∃ host, HeldUp h withdrawn deadline host s := by
  unfold passes passes at unfinished
  split at unfinished
  · cases unfinished
  next t first =>
  split at unfinished
  · cases unfinished
  next u second =>
  obtain ⟨astray, host, known, ⟨unended, -, rfl⟩ | still⟩ := pass_on first
  · obtain ⟨away, own, same, look⟩ := pass_on second
    rw [env_noting] at same
    cases known.symm.trans same
    obtain ⟨-, ⟨event, present, about⟩, -⟩ | still := look
    · exact absurd about ((mem_queue_noting unended event).mp present).2
    · obtain ⟨event, left⟩ := List.exists_mem_of_ne_nil _ still.crowded
      obtain ⟨present, other⟩ := (mem_queue_noting unended event).mp left
      have early := still.early
      rw [env_noting] at early
      exact ⟨host, known, astray, unended, away, early, event, present, other⟩
  · obtain ⟨event, present⟩ := List.exists_mem_of_ne_nil _ still.crowded
    refine ⟨host, known, astray, ?_, ?_, still.early, event, present, still.silent event present⟩
    · exact fun event present ending => still.silent event present ending.isAbout
    · rwa [noting_silent still.silent]

/-- Looks at the queue come to what as many passes do. -/
theorem withdrawalRounds_eq_passes (fuel : Nat) (s : Scene) :
    withdrawalRounds h withdrawn deadline fuel s = passes h withdrawn deadline fuel s := by
  induction fuel generalizing s with
  | zero => rfl
  | succ fuel ih =>
      unfold withdrawalRounds passes pass
      split
      · rfl
      next unsettled =>
      cases known : s.env.host? h with
      | none => rfl
      | some host =>
          dsimp only
          have look := s.look_withdrawalRound h host deadline
          generalize round : s.withdrawalRound h host deadline = outcome at look
          cases look with
          | gone _ | late _ _ | idle _ _ _ => rfl
          | noted _ _ => exact ih _
          | stuck silent early crowded =>
              have still : StandsStill h withdrawn deadline host s :=
                ⟨known, not_arrived_of_unsettled unsettled, silent, early, crowded⟩
              have unfinished := still.passes (fuel + 1)
              unfold passes at unfinished
              rw [pass_astray still.astray known, round] at unfinished
              exact unfinished.symm

/-- A wait for a withdrawal comes to what its passes come to, and is over in time if they ever are. They
never are if and only if the wait is held up. -/
theorem awaitWithdrawal_ends_unless_heldUp (s : Scene) (h : Handle) (withdrawn : Bool) :
    (∀ outcome, s.awaitWithdrawal h withdrawn = some outcome ↔
        ∃ n, passes h withdrawn s.withdrawalDeadline n s = some outcome) ∧
      (∀ t reached, s.awaitWithdrawal h withdrawn = some (t, reached) →
        t.env.tick ≤ max s.env.tick s.withdrawalDeadline) ∧
      (s.awaitWithdrawal h withdrawn = none ↔
        ∃ host, HeldUp h withdrawn s.withdrawalDeadline host s) := by
  have looks : s.awaitWithdrawal h withdrawn =
      passes h withdrawn s.withdrawalDeadline (s.env.queue.length + 2) s :=
    withdrawalRounds_eq_passes _ s
  have enough : 2 ≤ s.env.queue.length + 2 := Nat.le_add_left 2 _
  have stuck : s.awaitWithdrawal h withdrawn = none ↔
      ∃ host, HeldUp h withdrawn s.withdrawalDeadline host s := by
    rw [looks]
    constructor
    · intro unfinished
      apply heldUp_of_passes
      apply Option.eq_none_iff_forall_ne_some.mpr
      intro outcome ended
      rw [passes_mono enough ended] at unfinished
      cases unfinished
    · rintro ⟨host, held⟩
      exact held.passes _
  refine ⟨fun outcome => ?_, fun t reached ended => ?_, stuck⟩
  · constructor
    · intro ended
      exact ⟨_, looks.symm.trans ended⟩
    · rintro ⟨n, ended⟩
      cases came : s.awaitWithdrawal h withdrawn with
      | none =>
          obtain ⟨host, held⟩ := stuck.mp came
          rw [held.passes n] at ended
          cases ended
      | some other =>
          have later := passes_mono (Nat.le_max_left n (s.env.queue.length + 2)) ended
          rw [passes_mono (Nat.le_max_right n _) (looks.symm.trans came)] at later
          exact later
  · exact (waited_withdrawalRounds (Nat.min_le_right _ _) ended).2.1

/-- A window that is to be withdrawn while an event about another window is queued. -/
def distracted : Scene :=
  let s := alone ⟨0, 0, 1920, 1080⟩
  let (env, h, _) := s.env.createWindow WindowStyle.visible ⟨0, 0, 800, 600⟩
  let env := { env with windows := env.windows.modify h fun hosted =>
    { hosted with info := { hosted.info with mapped := false } } }
  let foreign : EventRecord :=
    { serial := ⟨1⟩, window := ⟨0xdead⟩, kind := .motion { position := ⟨5, 5⟩ } }
  { s with env := { env with queue := [foreign] } }.editWindow h fun state =>
    { state with wmState := .normal }

/-- The wait for it is never over. -/
theorem distracted_stands_still : ¬ ∃ n outcome,
    passes ⟨0x20000⟩ true distracted.withdrawalDeadline n distracted = some outcome := by
  obtain ⟨ends, -, -⟩ := awaitWithdrawal_ends_unless_heldUp distracted ⟨0x20000⟩ true
  have unfinished : distracted.awaitWithdrawal ⟨0x20000⟩ true = none := rfl
  rintro ⟨n, outcome, ended⟩
  rw [(ends outcome).mpr ⟨n, ended⟩] at unfinished
  cases unfinished

end GuestSeat.Scene
