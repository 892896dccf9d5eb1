import GuestSeat.Proofs.Drain.Trail
import Mathlib.Data.Set.Insert

/-!
The capture windows of one seat. A grab gives a new window the next handle, and what gives up a clip
destroys its window; nothing else that a seat does makes windows or takes them away. So the windows of
the clips can be told from the handles that were given out, as long as the counter does not run over.
-/

namespace GuestSeat

/-- What a seat has to do with capture windows: the one of its clip, the windows that are there, and the
counter of handles. -/
structure Custody where
  capture : Option Handle
  present : Handle → Bool
  next : UInt64

def Standing.custody (st : Standing) : Custody where
  capture := st.clip.map ClipRegion.captureWindow
  present := Option.isSome ∘ st.threads
  next := st.nextHandle

def handleLimit : Nat := UInt64.size - 3

/-- Below the limit the counter does not run over. -/
theorem toNat_add_of_lt_handleLimit {a k : UInt64} (room : a.toNat < handleLimit) (small : k.toNat ≤ 2) :
    (a + k).toNat = a.toNat + k.toNat := by
  rw [UInt64.toNat_add]
  exact Nat.mod_eq_of_lt (by simp only [handleLimit, UInt64.size] at room; omega)

namespace Custody

variable (c : Custody)

def fresh : Handle := ⟨c.next⟩

/-- The next handle is given to a window, which is there afterwards or gone again. -/
def spending (kept : Bool) : Custody where
  capture := if kept then some c.fresh else none
  present := Function.update c.present c.fresh kept
  next := max (c.next + 2) (c.next + 1)

def without (h : Handle) : Custody :=
  { c with capture := none, present := Function.update c.present h false }

inductive Step : Nat → Custody → Custody → Prop
  | still {n : Nat} {c : Custody} : Step n c c
  | spent {n : Nat} {c : Custody} (kept : Bool) (free : c.capture = none) :
      Step (n + 1) c (c.spending kept)
  | lost {n : Nat} {c : Custody} {h : Handle} (held : c.capture = some h) : Step n c (c.without h)

/-- A counter that moves does not come back by it, even if it runs over. -/
theorem next_spending (kept : Bool) : (c.spending kept).next ≠ c.next := by
  have bound := c.next.toNat_lt
  change (if c.next + 2 ≤ c.next + 1 then c.next + 1 else c.next + 2) ≠ c.next
  split <;>
  · rw [ne_eq, ← UInt64.toNat_inj, UInt64.toNat_add]
    simp only [UInt64.reduceToNat]
    omega

theorem toNat_next_spending (room : c.next.toNat < handleLimit) (kept : Bool) :
    (c.spending kept).next.toNat = c.next.toNat + 2 :=
  toNat_counterAfter (by simp only [handleLimit, UInt64.size] at room ⊢; omega)

end Custody

theorem Scene.Outcome.custody {R : Permit} {n : Nat} {s t : Scene} (h : Outcome R n s t) :
    Custody.Step n s.standing.custody t.standing.custody := by
  have still : t.standing.custody = s.standing.custody →
      Custody.Step n s.standing.custody t.standing.custody := fun same => same ▸ .still
  have free : s.standing.clip = none → s.standing.custody.capture = none := by
    intro none
    simp [Standing.custody, none]
  cases h with
  | quiet h =>
      refine still ?_
      simp only [Standing.custody, Scene.standing, h.clip, h.env.threads, h.env.nextHandle]
  | surfaced _ _ _ standing => exact still (by rw [standing]; rfl)
  | moved _ _ _ old _ _ held _ standing =>
      refine still ?_
      rw [standing]
      simp [Standing.custody, Standing.moved, Standing.reporting, Standing.doing, held]
  | declined _ unclipped _ standing =>
      have gone : t.standing.custody = s.standing.custody.spending false := by
        rw [standing]
        simp only [Standing.custody, Standing.declined, Standing.withoutWindow, Standing.withWindow,
          Standing.asked, Standing.doing, Custody.spending, Function.comp_update, unclipped]
        simp [Standing.fresh, Custody.fresh]
      exact gone ▸ .spent false (free unclipped)
  | refused w area _ unclipped _ _ standing =>
      have gone : t.standing.custody = s.standing.custody.spending false := by
        rw [standing]
        simp only [Standing.custody, Standing.refused, Standing.closed, Standing.prepared,
          Standing.withoutWindow, Standing.withoutRaw, Standing.withWindow, Standing.asked,
          Standing.doing, Custody.spending, Function.comp_update]
        simp [Standing.fresh, Custody.fresh]
      exact gone ▸ .spent false (free unclipped)
  | opened w rect kind native _ _ unclipped _ _ standing =>
      have kept : t.standing.custody = s.standing.custody.spending true := by
        rw [standing]
        simp only [Standing.custody, Standing.opened, Standing.reporting, Standing.prepared,
          Standing.withWindow, Standing.asked, Standing.doing, Custody.spending, Function.comp_update]
        simp [Standing.fresh, Custody.fresh]
      exact kept ▸ .spent true (free unclipped)
  | ended tries old report _ _ held _ standing =>
      have gone : t.standing.custody = s.standing.custody.without old.captureWindow := by
        rw [standing]
        cases report <;>
          simp [Standing.custody, Standing.ended, Standing.reporting, Standing.closed,
            Standing.withoutWindow, Standing.withoutRaw, Standing.doing, Custody.without,
            Function.comp_update]
      exact gone ▸ .lost (by simp [Standing.custody, held])

/-- The books on capture windows balance, from the view of one seat: of the handles that were ever used,
and those of capture windows among them, the ones that are there belong to the clip of this seat or to
those of the others. -/
structure Balanced (known captures others : Set Handle) (c : Custody) : Prop where
  below : ∀ h ∈ known, h.id.toNat < c.next.toNat
  table : ∀ h, c.present h = true → h ∈ known
  recorded : captures ⊆ known
  standing : ∀ h ∈ captures, c.present h = true ↔ c.capture = some h ∨ h ∈ others
  own : ∀ h, c.capture = some h → h ∈ captures ∧ h ∉ others
  theirs : others ⊆ captures

namespace Balanced

variable {known captures others : Set Handle} {c : Custody}

theorem fresh (h : Balanced known captures others c) : c.fresh ∉ known :=
  fun member => Nat.lt_irrefl _ (h.below _ member)

theorem without (h : Balanced known captures others c) {k : Handle} (held : c.capture = some k) :
    Balanced known captures others (c.without k) := by
  obtain ⟨recorded, own⟩ := h.own k held
  refine ⟨h.below, ?_, h.recorded, ?_, nofun, h.theirs⟩
  · intro j
    simp only [Custody.without, Function.update_apply]
    split
    · nofun
    · exact h.table j
  · intro j member
    simp only [Custody.without, Function.update_apply]
    split
    · next same => simp [same, own]
    · next other =>
        rw [h.standing j member, held]
        simp [Ne.symm other]

theorem spending (h : Balanced known captures others c) (room : c.next.toNat < handleLimit)
    (kept : Bool) (free : c.capture = none) :
    Balanced (insert c.fresh known) (insert c.fresh captures) others (c.spending kept) := by
  have new := h.fresh
  refine ⟨?_, ?_, Set.insert_subset_insert h.recorded, ?_, ?_, fun j member => Or.inr (h.theirs member)⟩
  · rw [c.toNat_next_spending room]
    rintro j (rfl | member)
    · exact Nat.lt_add_of_pos_right (by decide)
    · exact Nat.lt_add_right 2 (h.below j member)
  · intro j
    simp only [Custody.spending, Function.update_apply]
    split
    · next same => exact fun _ => Or.inl same
    · exact fun there => Or.inr (h.table j there)
  · rintro j (rfl | member)
    · have foreign : c.fresh ∉ others := fun member => new (h.recorded (h.theirs member))
      cases kept <;> simp [Custody.spending, foreign]
    · have other : j ≠ c.fresh := fun same => new (same ▸ h.recorded member)
      simp only [Custody.spending, Function.update_of_ne other, h.standing j member, free]
      cases kept <;> simp [Ne.symm other]
  · intro j held
    cases kept with
    | false => cases held
    | true =>
        cases held
        exact ⟨Set.mem_insert _ _, fun member => new (h.recorded (h.theirs member))⟩

end Balanced

namespace Scene

/-- The handles that were given to capture windows while at most one was: the counter tells if there was
one. -/
def issued (s t : Scene) : List Handle :=
  if t.env.nextHandle = s.env.nextHandle then [] else [⟨s.env.nextHandle⟩]

variable {R : Permit} {known captures others : Set Handle} {s t : Scene}

/-- The books balance again when the handle that was given out is entered. -/
theorem Course.balanced (course : Course R 1 s t) (hs : Balanced known captures others s.standing.custody)
    (room : ∀ h ∈ s.issued t, h.id.toNat < handleLimit) :
    Balanced (known ∪ {h | h ∈ s.issued t}) (captures ∪ {h | h ∈ s.issued t}) others
      t.standing.custody ∧ ∀ h ∈ s.issued t, h ∉ known := by
  let c := s.standing.custody
  -- either no handle was given out so far and one is left, or the one there is was given out
  have moved := course.preserves (P := fun n u => n ≤ 1 ∧
    (u.standing.custody.next = c.next ∧ Balanced known captures others u.standing.custody ∨
      n = 0 ∧ u.standing.custody.next ≠ c.next ∧ (c.next.toNat < handleLimit →
        Balanced (insert c.fresh known) (insert c.fresh captures) others u.standing.custody)))
    ?_ ?_ ?_ 0 ⟨Nat.le_refl 1, Or.inl ⟨rfl, hs⟩⟩
  · have same : t.standing.custody.next = t.env.nextHandle := rfl
    have was : c.next = s.env.nextHandle := rfl
    have fresh : c.fresh = ⟨s.env.nextHandle⟩ := rfl
    rw [same, was] at moved
    rcases moved with ⟨-, ⟨still, balanced⟩ | ⟨-, changed, balanced⟩⟩
    · simpa [issued, still] using balanced
    · have entered := balanced (by simpa [issued, changed, was] using room)
      refine ⟨?_, ?_⟩
      · simpa [issued, changed, Set.union_singleton, fresh] using entered
      · simpa [issued, changed, ← fresh] using hs.fresh
  · rintro m n u v outcome ⟨few, sofar⟩
    refine ⟨by omega, ?_⟩
    have step := outcome.custody
    generalize v.standing.custody = d at step ⊢
    generalize u.standing.custody = b at step sofar
    cases step with
    | still =>
        exact sofar.imp_right fun ⟨spent, rest⟩ => ⟨by omega, rest⟩
    | lost held =>
        rcases sofar with ⟨same, balanced⟩ | ⟨spent, changed, balanced⟩
        · exact Or.inl ⟨same, balanced.without held⟩
        · exact Or.inr ⟨by omega, changed, fun room => (balanced room).without held⟩
    | spent kept free =>
        rcases sofar with ⟨same, balanced⟩ | ⟨spent, -⟩
        · refine Or.inr ⟨by omega, ?_, fun room => ?_⟩
          · rw [← same]
            exact b.next_spending kept
          · have fresh : c.fresh = b.fresh := congrArg Handle.mk same.symm
            rw [fresh]
            exact balanced.spending (by rwa [same]) kept free
        · omega
  · rintro m n u ⟨few, sofar⟩
    exact ⟨by omega, sofar.imp_right fun ⟨spent, rest⟩ => ⟨by omega, rest⟩⟩
  · intro n u v standing _ hu
    rwa [standing]

end Scene

end GuestSeat
