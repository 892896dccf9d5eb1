import GuestSeat.Proofs.Clip.Course
import GuestSeat.Proofs.Clip.Ledger
import GuestSeat.Session

/-!
The seats of a process. Each runs on a thread of its own, one of them is the desktop's, and messages from
one to another are delivered at any time after they were posted. What a process does to the ownership
of the clip is read off as a ledger.
-/

namespace GuestSeat

open Environment (desktop)

def Delivered.isInFlight (d : Delivered) : Bool := !d.sync && d.message.isDriverMessage

def Delivered.notice? : Delivered → Option Notice
  | ⟨_, .clipOwnerChanged source target, false⟩ => some (.report source target)
  | ⟨h, .clipReset, false⟩ => some (.reset h)
  | _ => none

/-- Which thread each seat of a process runs on, and which seat is the desktop's. -/
structure Staff where
  thread : Nat → ThreadId
  desk : Nat

def Scene.onThread (s : Scene) (thread : ThreadId) : Scene := s.act fun env => { env with thread }

namespace Session

/-- A call of a seat, the delivery of a message in flight, or a change of the surroundings. -/
inductive Turn
  | call (seat : Nat) (call : Scene.Call)
  | deliver (position : Nat)
  | change (env : Environment)

variable (s : Session) (staff : Staff)

/-- Let a seat act on a thread. There is no session afterwards if there is no such seat or the act never
ends. -/
def actOn? (thread : ThreadId) (seat : Nat) (f : Scene → Option Scene) : Option Session :=
  ((s.scene? seat).bind fun scene => f (scene.onThread thread)).map (s.put seat)

def withoutMessage (position : Nat) : Session :=
  { s with env := s.env.note fun j => { j with messages := j.messages.eraseIdx position } }

/-- The seat on whose thread a window lies, if the window is there. -/
def receiver? (h : Handle) : Option Nat :=
  (List.range s.members.length).find? fun seat => s.env.threadOf? h == some (staff.thread seat)

/-- The session after a turn. A message whose window is gone by then is dropped. -/
def take? : Turn → Option Session
  | .call seat call => s.actOn? (staff.thread seat) seat fun scene => scene.call? call
  | .deliver position =>
    match s.env.journal.messages[position]?.filter Delivered.isInFlight with
    | none => none
    | some d =>
      match s.receiver? staff d.window with
      | none => some (s.withoutMessage position)
      | some seat =>
        (s.withoutMessage position).actOn? (staff.thread seat) seat fun scene =>
          some (scene.driverMessage d.window d.message).1
  | .change env => some { s with env }

def clip? (seat : Nat) : Option ClipRegion :=
  (s.members[seat]?).bind fun member => member.seat.input.clip

/-- Turns that a process may take: seats are called with anything but messages, which come by delivery
only, the counter of handles does not run over, and changes of the surroundings leave alone the messages
in flight, the handles given out, and the threads of the desktop and of the capture windows. -/
def Permitted : Turn → Prop
  | .call _ call => (∀ h message, call ≠ .message h message) ∧
      s.env.nextHandle.toNat + 2 * (s.env.queue.length + 1) < UInt64.size
  | .deliver _ => s.env.nextHandle.toNat + 2 < UInt64.size
  | .change env => env.journal.messages = s.env.journal.messages ∧
      s.env.nextHandle.toNat ≤ env.nextHandle.toNat ∧
      env.threadOf? desktop = s.env.threadOf? desktop ∧
      ∀ seat region, s.clip? seat = some region →
        env.threadOf? region.captureWindow = s.env.threadOf? region.captureWindow

/-- The owner of the clip according to the desktop's seat. -/
def owner : Handle :=
  ((s.members[staff.desk]?).map fun member => member.seat.registryOwner).getD .null

def ledger : Ledger where
  captures seat := (s.clip? seat).map ClipRegion.captureWindow
  owner := s.owner staff
  notices := s.env.journal.messages.filterMap Delivered.notice?
  horizon := s.env.nextHandle.toNat

/-- Every seat runs on a thread of its own, to which the capture window of its clip belongs; the
desktop's seat has the registry and no clip, and is who the reports are for. -/
structure Housed : Prop where
  desk : ∃ member registry, s.members[staff.desk]? = some member ∧
    member.seat.registry = some registry ∧ member.seat.input.clip = none
  plain : ∀ seat member, seat ≠ staff.desk → s.members[seat]? = some member →
    member.seat.registry = none
  apart : ∀ i j, i < s.members.length → j < s.members.length → staff.thread i = staff.thread j → i = j
  desktop : s.env.threadOf? desktop = some (staff.thread staff.desk)
  past : Environment.desktop.id.toNat < s.env.nextHandle.toNat
  housed : ∀ seat region, s.clip? seat = some region →
    s.env.threadOf? region.captureWindow = some (staff.thread seat)
  addressed : ∀ d ∈ s.env.journal.messages, ∀ source target,
    d.message = .clipOwnerChanged source target → d.window = Environment.desktop

variable {s staff} {seat : Nat} {member : Member}

theorem put_eq (present : s.members[seat]? = some member) (u : Scene) : s.put seat u =
    { members := s.members.set seat { member with seat := u.seat }
      tracker := if member.sharesTracker then u.seat.tracker else s.tracker
      env := u.env } := by
  unfold put
  rw [present]

theorem members_put (present : s.members[seat]? = some member) (u : Scene) (i : Nat) :
    (s.put seat u).members[i]? =
      if i = seat then some { member with seat := u.seat } else s.members[i]? := by
  have bound : seat < s.members.length := (List.getElem?_eq_some_iff.mp present).1
  rw [put_eq present, List.getElem?_set]
  by_cases same : i = seat
  · subst same
    simp [bound]
  · simp [same, Ne.symm same]

theorem clip?_put (present : s.members[seat]? = some member) (u : Scene) (i : Nat) :
    (s.put seat u).clip? i = if i = seat then u.seat.input.clip else s.clip? i := by
  unfold clip?
  rw [members_put present]
  split <;> rfl

theorem owner_put (present : s.members[seat]? = some member) (u : Scene) :
    (s.put seat u).owner staff =
      if staff.desk = seat then u.seat.registryOwner else s.owner staff := by
  unfold owner
  rw [members_put present]
  split <;> rfl

end Session

theorem Delivered.notice?_eq_none {d : Delivered} (h : d.message.isOwnership = false) :
    d.notice? = none := by
  obtain ⟨window, message, sync⟩ := d
  cases message <;> first | rfl | cases h

theorem Delivered.isInFlight_of_notice {d : Delivered} {n : Notice} (h : d.notice? = some n) :
    d.isInFlight = true := by
  obtain ⟨window, message, sync⟩ := d
  cases sync <;> cases message <;> first | rfl | cases h

theorem Delivered.message_of_report {d : Delivered} {source target : Handle}
    (h : d.notice? = some (.report source target)) : d.message = .clipOwnerChanged source target := by
  obtain ⟨window, message, sync⟩ := d
  cases sync <;> cases message <;> simp [Delivered.notice?] at h
  rw [h.1, h.2]

theorem Delivered.eq_of_reset {d : Delivered} {c : Handle} (h : d.notice? = some (.reset c)) :
    d = ⟨c, .clipReset, false⟩ := by
  obtain ⟨window, message, sync⟩ := d
  cases sync <;> cases message <;> simp [Delivered.notice?] at h
  rw [h]

theorem filterMap_of_appends {l l' : List Delivered}
    (h : Appends (fun d => d.message.isOwnership = false) l l') :
    l'.filterMap Delivered.notice? = l.filterMap Delivered.notice? := by
  obtain ⟨added, rfl, hadded⟩ := h
  have silent : added.filterMap Delivered.notice? = [] :=
    List.filterMap_eq_nil_iff.mpr fun d member => Delivered.notice?_eq_none (hadded d member)
  rw [List.filterMap_append, silent, List.append_nil]

namespace Standing

def entry (st : Standing) (l : Ledger) (seat : Nat) : Ledger where
  captures := Function.update l.captures seat (st.clip.map ClipRegion.captureWindow)
  owner := l.owner
  notices := st.messages.filterMap Delivered.notice?
  horizon := st.nextHandle.toNat

/-- A seat without a registry posts its reports, as long as the desktop is there. -/
theorem notices_reporting (st : Standing) (plain : st.registry = none)
    (present : (st.threads desktop).isSome = true) (source target : Handle) :
    (st.reporting source target).messages.filterMap Delivered.notice? =
      st.messages.filterMap Delivered.notice? ++ [.report source target] := by
  have named : desktop.isNull = false := by decide
  simp [reporting, report, posted, named, plain, present, Delivered.notice?]

end Standing

/-- What is quiet does not show in the ledger. -/
theorem Scene.Quiet.entry {s t : Scene} (h : s.Quiet t) (l : Ledger) (seat : Nat) :
    t.standing.entry l seat = s.standing.entry l seat := by
  have clip : t.standing.clip = s.standing.clip := h.clip
  have notices : t.standing.messages.filterMap Delivered.notice? =
      s.standing.messages.filterMap Delivered.notice? := filterMap_of_appends h.env.messages
  have nextHandle : t.standing.nextHandle = s.standing.nextHandle := h.env.nextHandle
  simp only [Standing.entry, clip, notices, nextHandle]

namespace Scene.Outcome

variable {R : Permit} {m n : Nat} {s t : Scene}

/-- An outcome is one entry in the ledger, as long as no clip ends without a report. -/
theorem act (h : Outcome R m s t) (told : ¬ R.silence) (l : Ledger) (seat : Nat)
    (plain : s.standing.registry = none) (present : (s.standing.threads desktop).isSome = true)
    (apart : ∀ region, s.standing.clip = some region → region.captureWindow ≠ desktop)
    (room : s.standing.nextHandle.toNat + 2 * m < UInt64.size) :
    Ledger.Act (s.standing.entry l seat) (t.standing.entry l seat) := by
  have lapse : t.standing.clip = s.standing.clip →
      t.standing.messages.filterMap Delivered.notice? =
        s.standing.messages.filterMap Delivered.notice? →
      Ledger.Act (s.standing.entry l seat) (t.standing.entry l seat) := by
    intro clip notices
    have grown := (h.nextHandle (n := 0) room).1
    have entry : t.standing.entry l seat =
        { s.standing.entry l seat with horizon := t.standing.nextHandle.toNat } := by
      simp only [Standing.entry, clip, notices]
    rw [entry]
    exact .lapse grown
  cases h with
  | quiet h => exact lapse h.clip (filterMap_of_appends h.env.messages)
  | surfaced _ _ _ standing => exact lapse (congrArg Standing.clip standing :) (by rw [standing])
  | declined _ _ _ standing =>
      exact lapse (congrArg Standing.clip standing :) (by rw [standing]; rfl)
  | refused w area _ free _ _ standing =>
      refine lapse ((congrArg Standing.clip standing).trans free.symm) ?_
      rw [standing]
      rfl
  | opened w rect kind native _ _ free _ _ standing =>
      -- the new capture window does not stand in for the desktop, which gets the report
      have still : ((s.standing.prepared s.env.thread).threads desktop).isSome = true := by
        change (Function.update s.standing.threads s.standing.fresh (some s.env.thread)
          desktop).isSome = _
        rw [Function.update_apply]
        split
        · rfl
        · exact present
      have notices := Standing.notices_reporting
        (Standing.doing { s.standing.prepared s.env.thread with
          clip := some ⟨rect, s.standing.fresh, kind⟩ }
          (.unmap w :: grabWork w (s.area rect) ++ [.defineCursor w native])) plain still
        .null s.standing.fresh
      have entry : t.standing.entry l seat = { s.standing.entry l seat with
          captures := Function.update (s.standing.entry l seat).captures seat (some s.standing.fresh)
          notices := (s.standing.entry l seat).notices ++ [.report .null s.standing.fresh]
          horizon := t.standing.nextHandle.toNat } := by
        rw [standing]
        simp only [Standing.entry, Ledger.mk.injEq, Function.update_idem, and_true, true_and]
        exact ⟨rfl, notices⟩
      have spent : t.standing.nextHandle.toNat = s.standing.nextHandle.toNat + 2 := by
        rw [standing]
        exact s.standing.nextHandle_withWindow (by omega) s.env.thread
      rw [entry]
      refine .claim ?_ (Nat.le_refl _) ?_
      · simp [Standing.entry, free]
      · change s.standing.nextHandle.toNat < _
        omega
  | moved w rect kind old _ _ held _ standing =>
      have notices := Standing.notices_reporting
        (Standing.doing { s.standing with clip := some ⟨rect, old.captureWindow, kind⟩ }
          (grabWork w (s.area rect))) plain present old.captureWindow old.captureWindow
      have entry : t.standing.entry l seat = { s.standing.entry l seat with
          notices := (s.standing.entry l seat).notices ++
            [.report old.captureWindow old.captureWindow] } := by
        rw [standing]
        simp only [Standing.entry, Ledger.mk.injEq, held, true_and]
        exact ⟨rfl, notices, rfl⟩
      have holder : (s.standing.entry l seat).captures seat = some old.captureWindow := by
        simp [Standing.entry, held]
      rw [entry]
      exact .keep holder
  | ended tries old report htold _ held _ standing =>
      obtain rfl : report = true := htold.resolve_right told
      have still : ((s.standing.closed tries old.captureWindow).threads desktop).isSome = true := by
        change (Function.update s.standing.threads old.captureWindow none desktop).isSome = _
        rw [Function.update_of_ne (apart old held).symm]
        exact present
      have notices := Standing.notices_reporting (s.standing.closed tries old.captureWindow) plain still
        old.captureWindow .null
      have entry : t.standing.entry l seat = { s.standing.entry l seat with
          captures := Function.update (s.standing.entry l seat).captures seat none
          notices := (s.standing.entry l seat).notices ++ [.report old.captureWindow .null] } := by
        rw [standing]
        simp only [Standing.entry, Ledger.mk.injEq, Function.update_idem, true_and]
        exact ⟨rfl, notices, rfl⟩
      rw [entry]
      exact .release (by simp [Standing.entry, held])

/-- The capture window of a clip belongs to the thread of the seat. -/
theorem housed (h : Outcome R m s t)
    (hs : ∀ region, s.standing.clip = some region →
      s.standing.threads region.captureWindow = some s.env.thread)
    {region : ClipRegion} (held : t.standing.clip = some region) :
    t.standing.threads region.captureWindow = some s.env.thread := by
  cases h with
  | quiet h =>
      refine (congrFun h.env.threads region.captureWindow).trans (hs region ?_)
      exact h.clip.symm.trans held
  | surfaced _ _ _ standing =>
      rw [standing] at held ⊢
      exact hs region held
  | declined _ free _ standing =>
      rw [standing] at held
      exact absurd (free.symm.trans held) (by simp)
  | refused _ _ _ _ _ _ standing =>
      rw [standing] at held
      cases held
  | opened _ _ _ _ _ _ _ _ _ standing =>
      rw [standing] at held ⊢
      cases held
      exact Function.update_self ..
  | moved _ _ _ old _ _ before _ standing =>
      rw [standing] at held ⊢
      cases held
      exact hs old before
  | ended _ _ report _ _ _ _ standing =>
      rw [standing] at held
      cases report <;> cases held

/-- Reports are for the desktop. -/
theorem addressed (h : Outcome R m s t) {d : Delivered} (member : d ∈ t.standing.messages) :
    d ∈ s.standing.messages ∨ d.message.isOwnership = false ∨ d.window = desktop := by
  have reported : ∀ (st : Standing) (source target : Handle),
      d ∈ s.standing.messages ++ st.report source target →
      d ∈ s.standing.messages ∨ d.message.isOwnership = false ∨ d.window = desktop := by
    intro st source target member
    rcases List.mem_append.mp member with member | member
    · exact Or.inl member
    · unfold Standing.report Standing.posted at member
      split at member
      · split at member
        · exact Or.inr (Or.inr (by rw [List.mem_singleton.mp member]))
        · simp at member
      · simp at member
  cases h with
  | quiet h =>
      obtain ⟨added, eq, silent⟩ := h.env.messages
      replace member : d ∈ t.env.journal.messages := member
      rw [eq] at member
      rcases List.mem_append.mp member with member | member
      · exact Or.inl member
      · exact Or.inr (Or.inl (silent d member))
  | surfaced _ _ _ standing | declined _ _ _ standing | refused _ _ _ _ _ _ standing =>
      rw [standing] at member
      exact Or.inl member
  | opened _ _ _ _ _ _ _ _ _ standing | moved _ _ _ _ _ _ _ _ standing =>
      rw [standing] at member
      exact reported _ _ _ member
  | ended _ _ report _ _ _ _ standing =>
      rw [standing] at member
      cases report with
      | false => exact Or.inl member
      | true => exact reported _ _ _ member

/-- The desktop's seat never gets a clip, and keeps its registry. -/
theorem of_registry (h : Outcome R m s t) (desk : s.standing.registry ≠ none)
    (free : s.standing.clip = none) :
    t.standing.clip = none ∧ t.standing.registry = s.standing.registry ∧
      t.standing.threads = s.standing.threads ∧ t.standing.nextHandle = s.standing.nextHandle ∧
      Appends (fun d => d.message.isOwnership = false) s.standing.messages t.standing.messages := by
  cases h with
  | quiet h =>
      exact ⟨h.clip.trans free, h.registry, h.env.threads, h.env.nextHandle, h.env.messages⟩
  | surfaced _ _ _ standing =>
      rw [standing]
      exact ⟨free, rfl, rfl, rfl, .refl _ _⟩
  | declined _ _ plain _ | refused _ _ _ _ plain _ _ | opened _ _ _ _ _ _ _ plain _ _ =>
      exact absurd plain desk
  | moved _ _ _ _ _ _ held _ _ | ended _ _ _ _ _ held _ _ =>
      exact absurd (free.symm.trans held) (by simp)

end Scene.Outcome

end GuestSeat
