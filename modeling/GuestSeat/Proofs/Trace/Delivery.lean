import GuestSeat.Proofs.Clip.Answer
import GuestSeat.Trace.Replay

/-!
How a replay delivers the messages for its own thread. A round hands over those that are there when it
begins, and handling them may post others. The first round can make one more window the replay's own,
the capture window of a new clip; what was posted to it before can end the clip in the second round, and
nothing is left for a third.
-/

namespace GuestSeat.Replay

open Environment (desktop)

/-- The messages for the replay's own thread, in the order in which they were posted. -/
def own (s : Scene) : List Delivered := s.env.journal.messages.filter (isOwn s.env)

def kept (s : Scene) : List Delivered := s.env.journal.messages.filter fun d => !isOwn s.env d

/-- The scene in which a round hands over its messages. -/
def emptied (s : Scene) : Scene :=
  s.act fun env => env.note fun j => { j with messages := kept s }

/-- Messages are handed to the seat one by one. -/
def handOver (s : Scene) (messages : List Delivered) : Scene :=
  messages.foldl (fun s d => (s.driverMessage d.window d.message).1) s

/-- Rounds until nothing is left for the replay's own thread, with the messages that each round hands over
and those that are posted meanwhile. A round takes the thread's messages off the others, and hands each of
them to the seat in the order of posting. -/
inductive Loop : Scene → List (List Delivered) → List Delivered → Scene → Prop
  | done {s : Scene} (none : own s = []) : Loop s [] [] s
  | round {s t : Scene} {rounds : List (List Delivered)} {posted more : List Delivered}
      (some : own s ≠ [])
      (sent : (handOver (emptied s) (own s)).env.journal.messages = kept s ++ posted)
      (rest : Loop (handOver (emptied s) (own s)) rounds more t) :
      Loop s (own s :: rounds) (posted ++ more) t

namespace Loop

variable {s t : Scene} {rounds : List (List Delivered)} {posted : List Delivered}

/-- Every message that was there or was posted is handed over or left, and each of them once. -/
theorem perm (h : Loop s rounds posted t) :
    (s.env.journal.messages ++ posted).Perm (rounds.flatten ++ t.env.journal.messages) := by
  induction h with
  | done none => simp
  | @round s t rounds posted more some sent rest ih =>
      have split : (own s ++ kept s).Perm s.env.journal.messages :=
        List.filter_append_perm (isOwn s.env) s.env.journal.messages
      rw [sent] at ih
      calc s.env.journal.messages ++ (posted ++ more)
        _ |>.Perm (own s ++ kept s ++ (posted ++ more)) := split.symm.append_right _
        _ |>.Perm (own s ++ (kept s ++ posted ++ more)) := by simp
        _ |>.Perm (own s ++ (rounds.flatten ++ t.env.journal.messages)) := ih.append_left _
        _ |>.Perm ((own s :: rounds).flatten ++ t.env.journal.messages) := by simp

/-- What is left is in the order in which it was posted. -/
theorem sublist (h : Loop s rounds posted t) :
    t.env.journal.messages.Sublist (s.env.journal.messages ++ posted) := by
  induction h with
  | done none => simp
  | @round s t rounds posted more some sent rest ih =>
      rw [sent, List.append_assoc] at ih
      exact ih.trans (List.filter_sublist.append_right _)

theorem own_eq_nil (h : Loop s rounds posted t) : own t = [] := by
  induction h with
  | done none => exact none
  | round _ _ _ ih => exact ih

end Loop

theorem deliverRound_eq (s : Scene) : deliverRound s = handOver (emptied s) (own s) := rfl

/-- A loop that has messages for two rounds consists of these. -/
theorem Loop.rounds_eq_pair {s t : Scene} {rounds : List (List Delivered)} {posted : List Delivered}
    (h : Loop s rounds posted t) (first : own s ≠ []) (second : own (deliverRound s) ≠ [])
    (last : own (deliverRound (deliverRound s)) = []) : rounds = [own s, own (deliverRound s)] := by
  cases h with
  | done none => exact absurd none first
  | round _ _ rest =>
      cases rest with
      | done none => exact absurd none second
      | round _ _ rest =>
          cases rest with
          | done => rfl
          | round some => exact absurd last some

def Owns (s : Scene) (h : Handle) : Prop := s.env.threadOf? h = some s.env.thread

theorem isOwn_iff {s : Scene} {d : Delivered} :
    isOwn s.env d = true ↔ d.message.isDriverMessage = true ∧ Owns s d.window := by
  simp [isOwn, Owns]

/-- A round without messages changes nothing. -/
theorem deliverRound_of_own_eq_nil {s : Scene} (none : own s = []) : deliverRound s = s := by
  have all : kept s = s.env.journal.messages := by
    refine List.filter_eq_self.mpr fun d member => ?_
    have foreign := List.filter_eq_nil_iff.mp none d member
    simpa using foreign
  rw [deliverRound_eq, none, handOver, List.foldl_nil, emptied, all]
  rfl

variable {s t u v : Scene}

/-- How far a round got: the seat has no registry, its thread and the window in front are the same, and
all that was posted is for the registry. -/
structure Handled (s u : Scene) : Prop where
  framed : (emptied s).Framed u
  sent : (emptied s).Reports u

theorem Handled.start (plain : s.seat.registry = none) : Handled s (emptied s) :=
  ⟨⟨plain, rfl, rfl⟩, .refl _⟩

theorem Handled.message (h : Handled s u) (d : Delivered) :
    Handled s (u.driverMessage d.window d.message).1 := by
  obtain ⟨⟨plain, thread, front⟩, sent⟩ := h
  have framed := u.driverMessage_framed plain d.window d.message
  exact ⟨⟨framed.registry, framed.thread.trans thread, framed.foreground.trans front⟩,
    sent.trans (u.driverMessage_answers plain d.window d.message).reports⟩

/-- What every message that a round hands over preserves while the round lasts holds after it. -/
theorem round_preserves {P : Scene → Prop} (plain : s.seat.registry = none)
    (step : ∀ u, Handled s u → P u → ∀ d ∈ own s, P (u.driverMessage d.window d.message).1)
    (hs : P (emptied s)) : Handled s (deliverRound s) ∧ P (deliverRound s) := by
  rw [deliverRound_eq]
  have fold : ∀ (l : List Delivered) (u : Scene), (∀ d ∈ l, d ∈ own s) → Handled s u → P u →
      Handled s (handOver u l) ∧ P (handOver u l) := by
    intro l
    induction l with
    | nil => exact fun u _ handled hu => ⟨handled, hu⟩
    | cons d rest ih =>
        intro u among handled hu
        exact ih _ (fun e member => among e (List.mem_cons_of_mem _ member)) (handled.message d)
          (step u handled hu d (among d List.mem_cons_self))
  exact fold _ _ (fun _ member => member) (.start plain) hs

theorem handled_deliverRound (plain : s.seat.registry = none) : Handled s (deliverRound s) :=
  (round_preserves (P := fun _ => True) plain (fun _ _ _ _ _ => trivial) trivial).1

/-- A window that a round made the replay's own: it stands for the clip, which the window in front asked
for, and is the desktop if that is the replay's own. -/
structure Newcomer (s u : Scene) (h : Handle) : Prop where
  capture : u.capture? = some h
  front : Owns s s.env.foreground
  desk : Owns u desktop → h = desktop

def Settled (s u : Scene) : Prop := ∀ h, Owns u h → Owns s h ∨ Newcomer s u h

theorem Settled.answer (hu : Settled s u) {asked : Prop} (front : asked → Owns s s.env.foreground)
    (answer : u.Answer asked v) : Settled s v := by
  obtain ⟨thread, -, fate⟩ := answer
  -- where there is no clip all windows are old ones
  have old : ∀ h, u.capture? = none → Owns u h → Owns s h := fun h free owned =>
    (hu h owned).resolve_right fun newcomer => by simpa [free] using newcomer.capture
  intro h
  cases fate with
  | still capture threads =>
      have same : ∀ k, Owns v k ↔ Owns u k := by
        intro k
        unfold Owns
        rw [threads, thread]
      rw [same]
      refine fun owned => (hu h owned).imp_right fun newcomer => ⟨capture.trans newcomer.capture,
        newcomer.front, fun desk => newcomer.desk ((same desktop).mp desk)⟩
  | ended c held capture threads =>
      unfold Owns
      rw [threads, thread, Function.update_apply]
      split
      · nofun
      · next other =>
          intro owned
          refine Or.inl ((hu h owned).resolve_right fun newcomer => other ?_)
          exact Option.some.inj (newcomer.capture.symm.trans held)
  | spent hasked free capture threads =>
      unfold Owns
      rw [threads, thread, Function.update_apply]
      split
      · nofun
      · exact fun owned => Or.inl (old h free owned)
  | opened hasked apart free capture threads =>
      have lies : ∀ k, Owns v k ↔ k = u.standing.fresh ∨ Owns u k := by
        intro k
        unfold Owns
        rw [threads, thread, Function.update_apply]
        split <;> simp [*]
      rw [lies]
      rintro (rfl | owned)
      · refine Or.inr ⟨capture, front hasked, fun desk => ?_⟩
        exact (((lies desktop).mp desk).resolve_right apart).symm
      · exact Or.inl (old h free owned)

theorem settled_deliverRound (plain : s.seat.registry = none) : Settled s (deliverRound s) := by
  refine (round_preserves plain (P := Settled s) ?_ fun h owned => Or.inl owned).2
  intro u handled hu d member
  have owned : Owns s d.window := (isOwn_iff.mp (List.mem_filter.mp member).2).2
  have front : d.window = u.env.foreground → Owns s s.env.foreground := by
    rintro same
    have unmoved : u.env.foreground = s.env.foreground := handled.framed.foreground
    rwa [← unmoved, ← same]
  have answers := u.driverMessage_answers handled.framed.registry d.window d.message
  generalize (u.driverMessage d.window d.message).1 = w at answers ⊢
  induction answers with
  | refl => exact hu
  | tail _ answer ih => exact ih.answer front answer

/-- How far the second round got, which began at `t`: nothing happened, or the clip ended whose window was
a newcomer. -/
inductive Waning (s t u : Scene) : Prop
  | still (capture : u.capture? = t.capture?) (threads : u.env.threadOf? = t.env.threadOf?)
      (sent : u.env.journal.messages = kept t)
  | ended (c : Handle) (newcomer : Newcomer s t c) (capture : u.capture? = none)
      (threads : u.env.threadOf? = Function.update t.env.threadOf? c none)

theorem Waning.answer (hu : Waning s t u) {c : Handle} (newcomer : Newcomer s t c) {asked : Prop}
    (unasked : ¬ asked) (answer : u.Answer asked v) : Waning s t v := by
  cases answer.fate with
  | still capture threads silent =>
      have messages := silent.resolve_left unasked
      cases hu with
      | still capture' threads' sent =>
          exact .still (capture.trans capture') (threads.trans threads') (messages.trans sent)
      | ended c newcomer capture' threads' =>
          exact .ended c newcomer (capture.trans capture') (threads.trans threads')
  | ended k held capture threads =>
      cases hu with
      | still capture' threads' sent =>
          rw [threads'] at threads
          obtain rfl : c = k :=
            Option.some.inj (newcomer.capture.symm.trans (capture'.symm.trans held))
          exact .ended c newcomer capture threads
      | ended _ _ capture' _ => cases capture'.symm.trans held
  | spent hasked | opened hasked => exact absurd hasked unasked

/-- A message that a second round hands over is for the registry, or it was posted to a newcomer before
that was the replay's own. -/
theorem own_deliverRound (plain : s.seat.registry = none) {d : Delivered}
    (member : d ∈ own (deliverRound s)) :
    d.message.IsForRegistry ∨ ¬ Owns s d.window ∧ Newcomer s (deliverRound s) d.window := by
  obtain ⟨there, mine⟩ := List.mem_filter.mp member
  obtain ⟨driver, owned⟩ := isOwn_iff.mp mine
  obtain ⟨posted, sent, foreign⟩ := (handled_deliverRound plain).sent
  rw [sent] at there
  rcases List.mem_append.mp there with before | added
  · right
    have other : isOwn s.env d = false := by simpa using (List.mem_filter.mp before).2
    have strange : ¬ Owns s d.window := fun old => by
      rw [isOwn_iff.mpr ⟨driver, old⟩] at other
      cases other
    exact ⟨strange, ((settled_deliverRound plain) _ owned).resolve_left strange⟩
  · exact Or.inl (foreign d added).2

/-- In the second round nothing happens, or the clip ends. -/
theorem waning_deliverRound (plain : s.seat.registry = none) :
    Waning s (deliverRound s) (deliverRound (deliverRound s)) := by
  have first := handled_deliverRound plain
  refine (round_preserves (P := Waning s (deliverRound s)) first.framed.registry ?_
    (.still rfl rfl rfl)).2
  intro u handled hu d member
  rcases own_deliverRound plain member with foreign | ⟨strange, newcomer⟩
  · rwa [u.driverMessage_of_isForRegistry handled.framed.registry d.window foreign]
  · have unasked : d.window ≠ u.env.foreground := by
      intro same
      have unmoved : u.env.foreground = s.env.foreground :=
        handled.framed.foreground.trans first.framed.foreground
      exact strange (by rw [same, unmoved]; exact newcomer.front)
    have answers := u.driverMessage_answers handled.framed.registry d.window d.message
    generalize (u.driverMessage d.window d.message).1 = w at answers ⊢
    induction answers with
    | refl => exact hu
    | tail _ answer ih => exact ih.answer newcomer unasked answer

/-- After two rounds nothing is left for the replay's own thread. -/
theorem own_after_two_rounds (plain : s.seat.registry = none) :
    own (deliverRound (deliverRound s)) = [] := by
  have first := handled_deliverRound plain
  have second := handled_deliverRound first.framed.registry
  have thread : (deliverRound (deliverRound s)).env.thread = (deliverRound s).env.thread :=
    second.framed.thread
  obtain ⟨posted, sent, foreign⟩ := second.sent
  have wane := waning_deliverRound plain
  generalize deliverRound (deliverRound s) = u at *
  refine List.filter_eq_nil_iff.mpr fun d there mine => ?_
  obtain ⟨driver, owned⟩ := isOwn_iff.mp mine
  -- what the second round left behind is nothing that was the replay's own
  have left : d ∈ kept (deliverRound s) → ¬ Owns (deliverRound s) d.window := fun before old => by
    have other := (List.mem_filter.mp before).2
    simp [isOwn_iff.mpr ⟨driver, old⟩] at other
  cases wane with
  | still capture threads quiet =>
      rw [quiet] at there
      refine left there ?_
      unfold Owns at owned ⊢
      rwa [threads, thread] at owned
  | ended c newcomer capture threads =>
      unfold Owns at owned
      rw [threads, thread, Function.update_apply] at owned
      split at owned
      · cases owned
      next other =>
      rw [sent] at there
      rcases List.mem_append.mp there with before | added
      · exact left before owned
      · have desk : d.window = desktop := (foreign d added).1
        rw [desk] at owned other
        exact other (newcomer.desk owned).symm

/-- The rounds of a replay come to an end after two at most. -/
theorem loop_deliverOwn (plain : s.seat.registry = none) : ∃ rounds posted,
    Loop s rounds posted (deliverOwn s) ∧ rounds.length ≤ 2 := by
  have all : deliverOwn s = deliverRound (deliverRound (deliverRound s)) := rfl
  have first := handled_deliverRound plain
  obtain ⟨posted, sent, -⟩ := first.sent
  obtain ⟨more, sent', -⟩ := (handled_deliverRound first.framed.registry).sent
  have last := own_after_two_rounds plain
  rw [all, deliverRound_of_own_eq_nil last]
  by_cases none : own s = []
  · have idle := deliverRound_of_own_eq_nil none
    rw [idle, idle]
    exact ⟨[], [], .done none, by decide⟩
  by_cases once : own (deliverRound s) = []
  · rw [deliverRound_of_own_eq_nil once]
    exact ⟨_, _, .round none sent (.done once), by simp⟩
  · exact ⟨_, _, .round none sent (.round once sent' (.done last)), by simp⟩

/-- A step is a call of the seat, or it changes the surroundings. -/
theorem perform_cases (s : Scene) (step : TraceStep) :
    (∃ call, s.call? call = some (perform s step)) ∨ (perform s step).seat = s.seat := by
  cases step with
  | event | window | wmState | foreground | advance => exact Or.inr rfl
  | process mask => exact Or.inl ⟨.drain (mask.getD QueueMask.allInput), rfl⟩
  | clipCursor rect => exact Or.inl ⟨.clipCursor rect, rfl⟩
  | setCursorPos p => exact Or.inl ⟨.setCursorPos p, rfl⟩
  | setCursor cursor => exact Or.inl ⟨.setCursor cursor, rfl⟩
  | driverMessage h message => exact Or.inl ⟨.message h message, rfl⟩

theorem registry_perform (plain : s.seat.registry = none) (step : TraceStep) :
    (perform s step).seat.registry = none := by
  rcases perform_cases s step with ⟨call, taken⟩ | same
  · exact s.registry_call taken plain
  · rwa [same]

theorem registry_deliverOwn (plain : s.seat.registry = none) : (deliverOwn s).seat.registry = none :=
  have first := (handled_deliverRound plain).framed.registry
  have second := (handled_deliverRound first).framed.registry
  (handled_deliverRound second).framed.registry

/-- Between steps the seat has no registry, and all that it did has been counted. -/
structure Counted (r : Replay) : Prop where
  plain : r.scene.seat.registry = none
  messages : r.scene.env.journal.messages = []
  inputs : r.scene.env.journal.inputs = []
  requests : r.scene.env.journal.requests = []

theorem counted_count {r : Replay} (plain : r.scene.seat.registry = none) : r.count.Counted :=
  ⟨plain, rfl, rfl, rfl⟩

/-- To count adds the lengths of what the journal holds. -/
theorem summary_count (r : Replay) :
    r.count.summary.guestMessages = r.summary.guestMessages + r.scene.env.journal.messages.length ∧
      r.count.summary.guestInputs = r.summary.guestInputs + r.scene.env.journal.inputs.length ∧
      r.count.summary.hostRequests = r.summary.hostRequests + r.scene.env.journal.requests.length :=
  ⟨rfl, rfl, rfl⟩

/-- The replay after a step whose own messages were delivered, before it is counted. -/
def uncounted (r : Replay) (step : TraceStep) : Replay where
  scene := deliverOwn (perform r.scene step)
  summary := { r.summary with steps := r.summary.steps + 1 }

theorem apply_eq (r : Replay) (step : TraceStep) : r.apply step = (r.uncounted step).count := rfl

def after (config : Config) (screen : Rect) (steps : List TraceStep) : Replay :=
  steps.foldl apply (start config screen)

theorem counted_after (config : Config) (screen : Rect) (steps : List TraceStep) :
    (after config screen steps).Counted := by
  have fold : ∀ (steps : List TraceStep) (r : Replay), r.Counted → (steps.foldl apply r).Counted := by
    intro steps
    induction steps with
    | nil => exact fun r hr => hr
    | cons step rest ih =>
        intro r hr
        refine ih _ ?_
        rw [apply_eq]
        exact counted_count (registry_deliverOwn (registry_perform hr.plain step))
  exact fold steps _ ⟨rfl, rfl, rfl, rfl⟩

/-- A replay delivers its own messages and stops. Whatever steps it went through, after one more it takes
two rounds at most until no message for its own thread is left; each round hands those that are there when
it begins to the seat, once each and in the order of posting. Every message that the step or the handling
of a message posted is handed over in a round or left over, and just once; what is left over is in the
order of posting. Then each message that is left, each input for the guest and each request to the host is
counted once. -/
theorem own_messages_delivered (config : Config) (screen : Rect) (steps : List TraceStep)
    (step : TraceStep) :
    let r := after config screen steps
    let s := perform r.scene step
    let journal := (deliverOwn s).env.journal
    (∃ rounds posted, Loop s rounds posted (deliverOwn s) ∧ rounds.length ≤ 2 ∧
      (s.env.journal.messages ++ posted).Perm (rounds.flatten ++ journal.messages) ∧
      journal.messages.Sublist (s.env.journal.messages ++ posted)) ∧
    (∀ d ∈ journal.messages, isOwn (deliverOwn s).env d = false) ∧
    (r.scene.env.journal.messages = [] ∧ r.scene.env.journal.inputs = [] ∧
      r.scene.env.journal.requests = []) ∧
    ((r.apply step).summary.guestMessages = r.summary.guestMessages + journal.messages.length ∧
      (r.apply step).summary.guestInputs = r.summary.guestInputs + journal.inputs.length ∧
      (r.apply step).summary.hostRequests = r.summary.hostRequests + journal.requests.length) := by
  intro r s journal
  have counted := counted_after config screen steps
  obtain ⟨rounds, posted, loop, few⟩ := loop_deliverOwn (registry_perform counted.plain step)
  refine ⟨⟨rounds, posted, loop, few, loop.perm, loop.sublist⟩, ?_,
    ⟨counted.messages, counted.inputs, counted.requests⟩, ?_⟩
  · intro d member
    exact eq_false_of_ne_true (List.filter_eq_nil_iff.mp loop.own_eq_nil d member)
  · rw [apply_eq]
    exact summary_count (r.uncounted step)

/-- On a thread that owns the desktop too, a window in front has to be drawn again, and the host's focus
comes to it by a grab. -/
def grabbedFocus : List TraceStep :=
  let screen : Rect := ⟨0, 0, 1920, 1080⟩
  let front := WindowInfo.plain ⟨0x20000⟩ WindowStyle.visible screen
  [.window { WindowInfo.plain desktop WindowStyle.visible screen with thread := ⟨1⟩ } none,
    .window { front with thread := ⟨1⟩, host := some ⟨7⟩, managed := true, mapped := true } none,
    .foreground ⟨0x20000⟩,
    .event ⟨7⟩ none false (.expose { position := ⟨0, 0⟩, width := 40, height := 30 }),
    .event ⟨7⟩ none false (.focusIn { detail := .nonlinear, mode := .grab })]

/-- The first round hands the window in front the request for its clip. That posts a question to the desktop,
which the second round hands over; the message that the window has to be drawn is left, and counted. -/
theorem question_in_second_round :
    let r := after {} ⟨0, 0, 1920, 1080⟩ grabbedFocus
    let s := perform r.scene (.process none)
    (∃ posted, Loop s [[⟨⟨0x20000⟩, .clipRequest, true⟩], [⟨desktop, .queryClipOwner, true⟩]] posted
      (deliverOwn s)) ∧ (r.apply (.process none)).summary.guestMessages = 1 := by
  obtain ⟨⟨rounds, posted, loop, -⟩, -, -, counts, -⟩ :=
    own_messages_delivered {} ⟨0, 0, 1920, 1080⟩ grabbedFocus (.process none)
  generalize scene : perform (after {} ⟨0, 0, 1920, 1080⟩ grabbedFocus).scene (.process none) = s at loop
  have first : own s = [⟨⟨0x20000⟩, .clipRequest, true⟩] := by rw [← scene]; decide
  have second : own (deliverRound s) = [⟨desktop, .queryClipOwner, true⟩] := by rw [← scene]; decide
  have last : own (deliverRound (deliverRound s)) = [] := by rw [← scene]; decide
  have pair := loop.rounds_eq_pair (by simp [first]) (by simp [second]) last
  rw [first, second] at pair
  refine ⟨⟨posted, ?_⟩, counts.trans (by decide)⟩
  rw [scene, ← pair]
  exact loop

end GuestSeat.Replay
