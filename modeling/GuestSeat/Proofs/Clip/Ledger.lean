import GuestSeat.ClipRegistry
import Mathlib.Logic.Function.Basic
import Mathlib.Logic.Relation

/-!
The ownership of the clip as a protocol. Seats claim, keep and give up clips of their own accord and
post a report each time; the registry learns of it when a report is delivered, and evicts the owner
before by a reset, which takes effect when it is delivered in turn. A ledger holds who clips, whom the
registry takes for the owner, and the notices in flight.
-/

namespace GuestSeat

inductive Notice
  /-- The clip passed from one capture window to another; a null `target` means that it ended. -/
  | report (source target : Handle)
  /-- The capture window was evicted. -/
  | reset (capture : Handle)
deriving DecidableEq

def Notice.isReport : Notice → Bool
  | .report _ _ => true
  | .reset _ => false

structure Ledger where
  /-- The capture window of each seat that clips. -/
  captures : Nat → Option Handle
  /-- The owner according to the registry. -/
  owner : Handle
  notices : List Notice
  /-- Handles from here on were never given out. -/
  horizon : Nat

namespace Ledger

inductive Act : Ledger → Ledger → Prop
  | lapse {l : Ledger} {horizon : Nat} (grown : l.horizon ≤ horizon) : Act l { l with horizon }
  | claim {l : Ledger} {seat horizon : Nat} {c : Handle} (free : l.captures seat = none)
      (fresh : l.horizon ≤ c.id.toNat) (used : c.id.toNat < horizon) :
      Act l { l with
        captures := Function.update l.captures seat (some c)
        notices := l.notices ++ [.report .null c]
        horizon }
  | keep {l : Ledger} {seat : Nat} {c : Handle} (held : l.captures seat = some c) :
      Act l { l with notices := l.notices ++ [.report c c] }
  | release {l : Ledger} {seat : Nat} {c : Handle} (held : l.captures seat = some c) :
      Act l { l with
        captures := Function.update l.captures seat none
        notices := l.notices ++ [.report c .null] }

/-- The notices that the registry may post when a report is delivered: a reset to the window that it
evicts, which gets lost if the window is gone. -/
def Answers (l : Ledger) (source target : Handle) (told : List Notice) : Prop :=
  match ((⟨l.owner⟩ : ClipRegistry).update source target).2 with
  | .accepted (some evicted) =>
    told = [.reset evicted] ∨ told = [] ∧ ∀ seat, l.captures seat ≠ some evicted
  | .accepted none | .rejected => told = []

def ruled (l : Ledger) (source target : Handle) (rest told : List Notice) : Ledger :=
  { l with
    owner := ((⟨l.owner⟩ : ClipRegistry).update source target).1.owner
    notices := rest ++ told }

def evicted (l : Ledger) (seat : Nat) (rest : List Notice) : Ledger :=
  { l with captures := Function.update l.captures seat none, notices := rest }

/-- The registry knows of a clip, or will learn of it, or the clip is about to end. -/
def Accounted (owner : Handle) (notices : List Notice) (c : Handle) : Prop :=
  owner = c ∨ (∃ source, .report source c ∈ notices) ∨ .reset c ∈ notices

theorem Accounted.append {owner c : Handle} {notices : List Notice} (h : Accounted owner notices c)
    (more : List Notice) : Accounted owner (notices ++ more) c := by
  rcases h with owner | ⟨source, reported⟩ | reset
  · exact Or.inl owner
  · exact Or.inr (Or.inl ⟨source, List.mem_append_left more reported⟩)
  · exact Or.inr (Or.inr (List.mem_append_left more reset))

structure Orderly (l : Ledger) : Prop where
  positive : 0 < l.horizon
  known : ∀ seat c, l.captures seat = some c → c ≠ .null ∧ c.id.toNat < l.horizon
  apart : ∀ i j c, l.captures i = some c → l.captures j = some c → i = j
  ownerKnown : l.owner.id.toNat < l.horizon
  /-- A report is of a window that gave its clip up for good, or of one that took or kept it. -/
  reports : ∀ source target, .report source target ∈ l.notices →
    source.id.toNat < l.horizon ∧ target.id.toNat < l.horizon ∧
      (target = .null ∧ (∀ seat, l.captures seat ≠ some source) ∨
        target ≠ .null ∧ (source = .null ∨ source = target))
  accounted : ∀ seat c, l.captures seat = some c → Accounted l.owner l.notices c

variable {l l' : Ledger}

/-- At rest the registry knows every clip, so that there is one at most. -/
theorem Orderly.owner_eq (h : l.Orderly) (quiet : l.notices = []) {seat : Nat} {c : Handle}
    (held : l.captures seat = some c) : c = l.owner := by
  rcases h.accounted seat c held with owner | ⟨source, reported⟩ | reset
  · exact owner.symm
  · simp [quiet] at reported
  · simp [quiet] at reset

theorem Act.horizon_le (act : Act l l') : l.horizon ≤ l'.horizon := by
  cases act with
  | lapse grown => exact grown
  | claim _ fresh used => exact Nat.le_of_lt (Nat.lt_of_le_of_lt fresh used)
  | keep | release => exact Nat.le_refl _

/-- Capture windows are never used again: who does not clip with an old window will not do so later. -/
theorem Act.buried (act : Act l l') {c : Handle} (old : c.id.toNat < l.horizon)
    (dead : ∀ seat, l.captures seat ≠ some c) : ∀ seat, l'.captures seat ≠ some c := by
  intro seat
  cases act with
  | lapse | keep => exact dead seat
  | claim _ fresh _ =>
      simp only [Function.update_apply]
      split
      · rintro ⟨rfl⟩
        exact Nat.not_lt_of_le fresh old
      · exact dead seat
  | release =>
      simp only [Function.update_apply]
      split
      · simp
      · exact dead seat

/-- An old window is neither null nor a new one. -/
theorem Orderly.ne_of_fresh (h : l.Orderly) {c : Handle} (fresh : l.horizon ≤ c.id.toNat) :
    c ≠ .null ∧ ∀ old : Handle, old.id.toNat < l.horizon → old ≠ c := by
  constructor
  · rintro rfl
    exact absurd h.positive (Nat.not_lt_of_le fresh)
  · rintro old known rfl
    exact Nat.not_lt_of_le fresh known

/-- Acts of the seats keep the ledger in order, whatever is still in flight. -/
theorem Act.orderly (act : Act l l') (h : l.Orderly) : l'.Orderly := by
  have grown := act.horizon_le
  have below : ∀ c : Handle, c.id.toNat < l.horizon → c.id.toNat < l'.horizon :=
    fun c lt => Nat.lt_of_lt_of_le lt grown
  have null : Handle.null.id.toNat < l'.horizon := Nat.lt_of_lt_of_le h.positive grown
  have buried := @Act.buried l l' act
  -- the reports from before stay true, because what is dead stays dead
  have reports : ∀ source target, .report source target ∈ l.notices →
      source.id.toNat < l'.horizon ∧ target.id.toNat < l'.horizon ∧
        (target = .null ∧ (∀ seat, l'.captures seat ≠ some source) ∨
          target ≠ .null ∧ (source = .null ∨ source = target)) := by
    intro source target member
    obtain ⟨hsource, htarget, kind⟩ := h.reports source target member
    exact ⟨below source hsource, below target htarget,
      kind.imp_left fun ended => ⟨ended.1, buried hsource ended.2⟩⟩
  cases act with
  | lapse =>
      exact ⟨null, fun seat c held => ⟨(h.known seat c held).1, below c (h.known seat c held).2⟩,
        h.apart, below _ h.ownerKnown, reports, h.accounted⟩
  | @claim seat horizon c free fresh used =>
      obtain ⟨named, new⟩ := h.ne_of_fresh fresh
      have others : ∀ i d, Function.update l.captures seat (some c) i = some d →
          i = seat ∧ d = c ∨ i ≠ seat ∧ l.captures i = some d := by
        intro i d held
        by_cases same : i = seat
        · subst same
          exact Or.inl ⟨rfl, by simpa using held.symm⟩
        · exact Or.inr ⟨same, by simpa [same] using held⟩
      refine ⟨null, ?_, ?_, below _ h.ownerKnown, ?_, ?_⟩
      · intro i d held
        rcases others i d held with ⟨-, rfl⟩ | ⟨-, held⟩
        · exact ⟨named, used⟩
        · exact ⟨(h.known i d held).1, below d (h.known i d held).2⟩
      · intro i j d hi hj
        rcases others i d hi with ⟨hi, eq⟩ | ⟨-, before⟩ <;>
          rcases others j d hj with ⟨hj, eq'⟩ | ⟨-, before'⟩
        · exact hi.trans hj.symm
        · exact absurd eq (new d (h.known j d before').2)
        · exact absurd eq' (new d (h.known i d before).2)
        · exact h.apart i j d before before'
      · intro source target member
        rcases List.mem_append.mp member with member | member
        · exact reports source target member
        · obtain ⟨rfl, rfl⟩ : source = .null ∧ target = c := by simpa using member
          exact ⟨null, used, Or.inr ⟨named, Or.inl rfl⟩⟩
      · intro i d held
        rcases others i d held with ⟨-, rfl⟩ | ⟨-, held⟩
        · exact Or.inr (Or.inl ⟨.null, by simp⟩)
        · exact (h.accounted i d held).append _
  | @keep seat c held =>
      refine ⟨null, h.known, h.apart, h.ownerKnown, ?_, ?_⟩
      · intro source target member
        rcases List.mem_append.mp member with member | member
        · exact reports source target member
        · obtain ⟨hsource, htarget⟩ : source = c ∧ target = c := by simpa using member
          obtain ⟨named, known⟩ := h.known seat c held
          rw [hsource, htarget]
          exact ⟨known, known, Or.inr ⟨named, Or.inr rfl⟩⟩
      · exact fun i d held => (h.accounted i d held).append _
  | @release seat c held =>
      have kept : ∀ i d, Function.update l.captures seat none i = some d →
          i ≠ seat ∧ l.captures i = some d := by
        intro i d held
        by_cases same : i = seat
        · simp [same] at held
        · exact ⟨same, by simpa [same] using held⟩
      refine ⟨null, fun i d hi => h.known i d (kept i d hi).2,
        fun i j d hi hj => h.apart i j d (kept i d hi).2 (kept j d hj).2, h.ownerKnown, ?_, ?_⟩
      · intro source target member
        rcases List.mem_append.mp member with member | member
        · exact reports source target member
        · obtain ⟨rfl, rfl⟩ : source = c ∧ target = .null := by simpa using member
          refine ⟨(h.known seat source held).2, null, Or.inl ⟨rfl, fun i hi => ?_⟩⟩
          obtain ⟨other, hi⟩ := kept i source hi
          exact other (h.apart i seat source hi held)
      · exact fun i d hi => (h.accounted i d (kept i d hi).2).append _

def Acts : Ledger → Ledger → Prop := Relation.ReflTransGen Act

theorem Acts.orderly (acts : Acts l l') (h : l.Orderly) : l'.Orderly := by
  induction acts with
  | refl => exact h
  | tail _ act ih => exact act.orderly ih

section Delivery

variable {before after told : List Notice} {source target c : Handle} {seat : Nat}

theorem mem_of_taken {n m : Notice} (taken : l.notices = before ++ n :: after)
    (member : m ∈ before ++ after) : m ∈ l.notices := by
  rw [taken]
  rcases List.mem_append.mp member with member | member
  · exact List.mem_append_left _ member
  · exact List.mem_append_right _ (List.mem_cons_of_mem n member)

theorem eq_or_mem_of_taken {n m : Notice} (taken : l.notices = before ++ n :: after)
    (member : m ∈ l.notices) : m = n ∨ m ∈ before ++ after := by
  rw [taken] at member
  rcases List.mem_append.mp member with member | member
  · exact Or.inr (List.mem_append_left _ member)
  · rcases List.mem_cons.mp member with same | member
    · exact Or.inl same
    · exact Or.inr (List.mem_append_right _ member)

/-- A notice that no clip depends on may be taken out. -/
theorem Orderly.without (h : l.Orderly) {n : Notice} (taken : l.notices = before ++ n :: after)
    (accounted : ∀ seat c, l.captures seat = some c → Accounted l.owner (before ++ after) c) :
    Orderly { l with notices := before ++ after } :=
  ⟨h.positive, h.known, h.apart, h.ownerKnown,
    fun source target member => h.reports source target (mem_of_taken taken member), accounted⟩

/-- A reset of a window that no seat clips with is void. -/
theorem Orderly.ignored (h : l.Orderly) (taken : l.notices = before ++ .reset c :: after)
    (nobody : ∀ seat, l.captures seat ≠ some c) :
    Orderly { l with notices := before ++ after } := by
  refine h.without taken fun seat d held => ?_
  rcases h.accounted seat d held with owner | ⟨source, reported⟩ | reset
  · exact Or.inl owner
  · have still := (eq_or_mem_of_taken taken reported).resolve_left (by simp)
    exact Or.inr (Or.inl ⟨source, still⟩)
  · rcases eq_or_mem_of_taken taken reset with same | still
    · obtain rfl : d = c := by simpa using same
      exact absurd held (nobody seat)
    · exact Or.inr (Or.inr still)

theorem Orderly.evicted (h : l.Orderly) (taken : l.notices = before ++ .reset c :: after)
    (held : l.captures seat = some c) : (l.evicted seat (before ++ after)).Orderly := by
  -- without its clip the seat could as well ignore the reset
  let dropped : Ledger := { l with captures := Function.update l.captures seat none }
  have kept : ∀ i d, dropped.captures i = some d → i ≠ seat ∧ l.captures i = some d := by
    intro i d hi
    by_cases same : i = seat
    · simp [dropped, same] at hi
    · exact ⟨same, by simpa [dropped, same] using hi⟩
  have orderly : dropped.Orderly := by
    refine ⟨h.positive, fun i d hi => h.known i d (kept i d hi).2,
      fun i j d hi hj => h.apart i j d (kept i d hi).2 (kept j d hj).2, h.ownerKnown, ?_,
      fun i d hi => h.accounted i d (kept i d hi).2⟩
    intro source target member
    obtain ⟨hsource, htarget, kind⟩ := h.reports source target member
    exact ⟨hsource, htarget, kind.imp_left fun ended =>
      ⟨ended.1, fun i hi => ended.2 i (kept i source hi).2⟩⟩
  exact orderly.ignored taken fun i hi =>
    (kept i c hi).1 (h.apart i seat c (kept i c hi).2 held)

/-- The registry answers by resets only. -/
theorem Answers.eq_reset (answers : l.Answers source target told) {n : Notice} (member : n ∈ told) :
    ∃ c, n = .reset c := by
  unfold Answers at answers
  split at answers
  · rcases answers with rfl | ⟨rfl, -⟩
    · exact ⟨_, by simpa using member⟩
    · simp at member
  · simp [answers] at member
  · simp [answers] at member

/-- The registry evicts a seat that clips with another window than the one that it hears of. -/
theorem Answers.evicts (answers : l.Answers source target told) (named : target ≠ .null)
    (new : source = .null ∨ source = target) (held : l.captures seat = some c) (hc : c ≠ .null)
    (owner : l.owner = c) (other : c ≠ target) : .reset c ∈ told := by
  have apart : c ≠ source := by
    rcases new with rfl | rfl
    · exact hc
    · exact other
  have evicted : ((⟨l.owner⟩ : ClipRegistry).update source target).2 = .accepted (some c) := by
    simp [ClipRegistry.update, Handle.isNull, named, owner, Handle.nonNull?, hc, other, apart]
  unfold Answers at answers
  rw [evicted] at answers
  rcases answers with rfl | ⟨-, nobody⟩
  · simp
  · exact absurd held (nobody seat)

theorem ruled_owner (l : Ledger) (source target : Handle) (rest told : List Notice) :
    (l.ruled source target rest told).owner =
      if target = .null then if source = l.owner then .null else l.owner else target := by
  simp only [ruled, ClipRegistry.update, Handle.isNull, beq_iff_eq]
  split
  · split <;> rfl
  · rfl

/-- Whatever order the reports come in, the registry keeps track of every clip. -/
theorem Orderly.ruled (h : l.Orderly) (taken : l.notices = before ++ .report source target :: after)
    (answers : l.Answers source target told) :
    (l.ruled source target (before ++ after) told).Orderly := by
  obtain ⟨-, htarget, kind⟩ := h.reports source target (by simp [taken])
  have owner := l.ruled_owner source target (before ++ after) told
  refine ⟨h.positive, h.known, h.apart, ?ownerKnown, ?reports, ?accounted⟩
  case ownerKnown =>
    change (l.ruled source target (before ++ after) told).owner.id.toNat < l.horizon
    rw [owner]
    split
    · split
      · exact h.positive
      · exact h.ownerKnown
    · exact htarget
  case reports =>
    intro source' target' member
    rcases List.mem_append.mp member with member | member
    · exact h.reports source' target' (mem_of_taken taken member)
    · obtain ⟨c, eq⟩ := answers.eq_reset member
      cases eq
  case accounted =>
    intro seat c held
    have hc := (h.known seat c held).1
    rcases h.accounted seat c held with before_owner | ⟨source', reported⟩ | reset
    · rcases kind with ⟨rfl, ended⟩ | ⟨named, new⟩
      · have other : source ≠ l.owner := by
          rintro rfl
          exact absurd (before_owner ▸ held) (ended seat)
        refine Or.inl ?_
        rw [owner, if_pos rfl, if_neg other]
        exact before_owner
      · rw [if_neg named] at owner
        by_cases same : c = target
        · exact Or.inl (owner.trans same.symm)
        · exact Or.inr (Or.inr (List.mem_append_right _
            (answers.evicts named new held hc before_owner same)))
    · rcases eq_or_mem_of_taken taken reported with same | still
      · obtain ⟨rfl, rfl⟩ : source' = source ∧ c = target := by simpa using same
        refine Or.inl ?_
        rw [owner, if_neg hc]
      · exact Or.inr (Or.inl ⟨source', List.mem_append_left _ still⟩)
    · have still := (eq_or_mem_of_taken taken reset).resolve_left (by simp)
      exact Or.inr (Or.inr (List.mem_append_left _ still))

inductive Delivery (l : Ledger) (rest : List Notice) : Notice → Ledger → Prop
  | ruled {source target : Handle} {told : List Notice} (answers : l.Answers source target told) :
      Delivery l rest (.report source target) (l.ruled source target rest told)
  | evicted {seat : Nat} {c : Handle} (held : l.captures seat = some c) :
      Delivery l rest (.reset c) (l.evicted seat rest)
  | ignored {c : Handle} (nobody : ∀ seat, l.captures seat ≠ some c) :
      Delivery l rest (.reset c) { l with notices := rest }

theorem Delivery.orderly {n : Notice} (delivery : Delivery l (before ++ after) n l')
    (taken : l.notices = before ++ n :: after) (h : l.Orderly) : l'.Orderly := by
  cases delivery with
  | ruled answers => exact h.ruled taken answers
  | evicted held => exact h.evicted taken held
  | ignored nobody => exact h.ignored taken nobody

end Delivery

end Ledger

end GuestSeat
