import GuestSeat.Environment.Windows
import Mathlib.Data.List.Nodup
import Mathlib.Data.List.Perm.Subperm
import Mathlib.Logic.Function.Iterate
import Mathlib.Logic.Relation

/-!
Parents and ancestors in the window table. Nothing in the table keeps a window from being its own
ancestor, and a walk along parents that comes to such a window never ends. Where there is none, every walk
ends within as many steps as there are windows, so the bounds that walks are given make no difference.
A table whose links are those of another, less some, has no new ancestors; one that differs in a single
link has a new circle exactly if that link leads into the subtree of its own window.
-/

namespace GuestSeat

namespace Environment

variable (env : Environment)

def IsParent (p h : Handle) : Prop := p.isNull = false ∧ env.parent h = p

/-- Whether `a` is reached from `h` along one parent or more. -/
def IsAncestor : Handle → Handle → Prop := Relation.TransGen env.IsParent

def IsWithin : Handle → Handle → Prop := Relation.ReflTransGen env.IsParent

def Acyclic : Prop := ∀ h, ¬ env.IsAncestor h h

/-- Every walk along parents comes to an end, after no more steps than there are windows. -/
def WalksEnd : Prop := ∀ h, ∃ n ≤ env.windows.size, (env.parent^[n + 1] h).isNull = true

/-- The window at the top level that a walk from a window ends at, null if the walk leaves the table; there
is none if the walk never ends. -/
inductive RootedAt (env : Environment) : Handle → Handle → Prop
  | lost {h : Handle} (unknown : env.info? h = none) : RootedAt env h Handle.null
  | here {h : Handle} {info : WindowInfo} (known : env.info? h = some info)
      (top : (info.parent.isNull || info.parent == desktop) = true) : RootedAt env h h
  | above {h top : Handle} {info : WindowInfo} (known : env.info? h = some info)
      (inner : (info.parent.isNull || info.parent == desktop) = false)
      (rest : RootedAt env info.parent top) : RootedAt env h top

variable {env} {a h k : Handle}

theorem isWithin_iff : env.IsWithin a h ↔ h = a ∨ env.IsAncestor a h :=
  Relation.reflTransGen_iff_eq_or_transGen

/-- An ancestor is the parent, or an ancestor of it. -/
theorem isAncestor_iff :
    env.IsAncestor a h ↔ (env.parent h).isNull = false ∧ env.IsWithin a (env.parent h) := by
  constructor
  · intro ancestor
    obtain ⟨p, within, named, rfl⟩ := Relation.TransGen.tail'_iff.mp ancestor
    exact ⟨named, within⟩
  · rintro ⟨named, within⟩
    exact Relation.TransGen.tail' within ⟨named, rfl⟩

/-- Along the parents of a window that is its own ancestor there are only such windows. -/
theorem isAncestor_self_parent (circle : env.IsAncestor h h) :
    (env.parent h).isNull = false ∧ env.IsAncestor (env.parent h) (env.parent h) := by
  obtain ⟨named, within⟩ := isAncestor_iff.mp circle
  exact ⟨named, Relation.TransGen.head' ⟨named, rfl⟩ within⟩

theorem named_iterate_of_circle (circle : env.IsAncestor h h) (n : Nat) :
    (env.parent^[n + 1] h).isNull = false := by
  induction n generalizing h with
  | zero => exact (isAncestor_self_parent circle).1
  | succ n ih =>
      rw [Function.iterate_succ_apply]
      exact ih (isAncestor_self_parent circle).2

/-- A window further along a walk that has not ended is an ancestor of one before it. -/
theorem isAncestor_iterate {i j : Nat} (before : i < j)
    (named : ∀ n < j, (env.parent^[n + 1] h).isNull = false) :
    env.IsAncestor (env.parent^[j] h) (env.parent^[i] h) := by
  have next : ∀ n < j, env.IsParent (env.parent^[n + 1] h) (env.parent^[n] h) := fun n inside =>
    ⟨named n inside, (Function.iterate_succ_apply' env.parent n h).symm⟩
  induction j with
  | zero => cases before
  | succ j ih =>
      have last := next j (Nat.lt_succ_self j)
      rcases Nat.lt_succ_iff_lt_or_eq.mp before with earlier | rfl
      · have further := ih earlier (fun n inside => named n (Nat.lt_succ_of_lt inside))
          fun n inside => next n (Nat.lt_succ_of_lt inside)
        exact .head last further
      · exact .single last

/-- A window with a parent is in the table. -/
theorem mem_keys_of_parent (named : (env.parent h).isNull = false) : h ∈ env.windows.keys := by
  cases known : env.windows.get? h with
  | none => simp [parent, info?, known, Handle.isNull] at named
  | some hosted => exact List.mem_map_of_mem (env.windows.mem_of_get? known)

/-- Without circles the windows of a walk that has not ended are all different. -/
theorem Acyclic.nodup_walk (acyclic : env.Acyclic) {steps : Nat}
    (named : ∀ n < steps, (env.parent^[n + 1] h).isNull = false) :
    ((List.range steps).map fun n => env.parent^[n] h).Nodup := by
  have apart : ∀ m n, m < n → n < steps → env.parent^[m] h ≠ env.parent^[n] h := by
    intro m n before inside same
    have circle := isAncestor_iterate before fun l lower => named l (Nat.lt_trans lower inside)
    rw [same] at circle
    exact acyclic _ circle
  refine (List.nodup_map_iff_inj_on List.nodup_range).mpr fun i hi j hj same => ?_
  rw [List.mem_range] at hi hj
  rcases Nat.lt_trichotomy i j with before | rfl | after
  · exact absurd same (apart i j before hj)
  · rfl
  · exact absurd same.symm (apart j i after hi)

/-- The windows of a walk that has not ended are in the table, so that it is no longer than the table. -/
theorem Acyclic.walksEnd (acyclic : env.Acyclic) : env.WalksEnd := by
  intro h
  by_contra endless
  have named : ∀ n < env.windows.size + 1, (env.parent^[n + 1] h).isNull = false := by
    intro n inside
    by_contra ended
    exact endless ⟨n, Nat.le_of_lt_succ inside, by simpa using ended⟩
  have listed : ((List.range (env.windows.size + 1)).map fun n => env.parent^[n] h) ⊆
      env.windows.keys := by
    intro k member
    obtain ⟨n, inside, rfl⟩ := List.mem_map.mp member
    refine mem_keys_of_parent ?_
    rw [← Function.iterate_succ_apply' env.parent n h]
    exact named n (List.mem_range.mp inside)
  have fits := ((acyclic.nodup_walk named).subperm listed).length_le
  simp only [OrderedMap.keys, OrderedMap.size, List.length_map, List.length_range] at fits
  omega

theorem acyclic_iff_walksEnd : env.Acyclic ↔ env.WalksEnd := by
  refine ⟨Acyclic.walksEnd, fun ends h circle => ?_⟩
  obtain ⟨n, -, ended⟩ := ends h
  rw [named_iterate_of_circle circle n] at ended
  cases ended

/-- A walk from outside the table ends at once. -/
theorem walksEnd_iff_keys : env.WalksEnd ↔ ∀ h ∈ env.windows.keys,
    ∃ n ∈ List.range (env.windows.size + 1), (env.parent^[n + 1] h).isNull = true := by
  constructor
  · intro ends h _
    obtain ⟨n, le, ended⟩ := ends h
    exact ⟨n, List.mem_range.mpr (Nat.lt_succ_of_le le), ended⟩
  · intro ends h
    cases named : (env.parent h).isNull with
    | true => exact ⟨0, Nat.zero_le _, named⟩
    | false =>
        obtain ⟨n, inside, ended⟩ := ends h (mem_keys_of_parent named)
        exact ⟨n, Nat.le_of_lt_succ (List.mem_range.mp inside), ended⟩

instance : Decidable env.Acyclic :=
  decidable_of_iff _ (walksEnd_iff_keys.symm.trans acyclic_iff_walksEnd.symm)

/-- A walk has one end at most. -/
theorem RootedAt.unique {top other : Handle} (rooted : env.RootedAt h top)
    (again : env.RootedAt h other) : top = other := by
  induction rooted with
  | lost unknown =>
      cases again with
      | lost => rfl
      | here known | above known => exact absurd (unknown.symm.trans known) nofun
  | here known top =>
      cases again with
      | lost unknown => exact absurd (unknown.symm.trans known) nofun
      | here => rfl
      | above again inner =>
          obtain rfl := Option.some.inj (known.symm.trans again)
          exact absurd (top.symm.trans inner) nofun
  | above known inner _ ih =>
      cases again with
      | lost unknown => exact absurd (unknown.symm.trans known) nofun
      | here again top =>
          obtain rfl := Option.some.inj (known.symm.trans again)
          exact absurd (top.symm.trans inner) nofun
      | above again _ rest =>
          obtain rfl := Option.some.inj (known.symm.trans again)
          exact ih rest

theorem parent_of_info? {info : WindowInfo} (known : env.info? h = some info) :
    env.parent h = info.parent := by
  unfold parent
  rw [known]
  rfl

/-- A walk that ends in time comes to the top. -/
theorem rootedAt_rootWithin {n steps : Nat} (enough : n < steps)
    (ended : (env.parent^[n + 1] h).isNull = true) : env.RootedAt h (env.rootWithin steps h) := by
  induction n generalizing h steps with
  | zero =>
      obtain ⟨steps, rfl⟩ := Nat.exists_eq_add_of_lt enough
      unfold rootWithin
      split
      · next unknown => exact .lost unknown
      · next info known =>
          have top : (info.parent.isNull || info.parent == desktop) = true := by
            rw [← parent_of_info? known, show (env.parent h).isNull = true from ended]
            rfl
          rw [if_pos top]
          exact .here known top
  | succ n ih =>
      obtain ⟨steps, rfl⟩ := Nat.exists_eq_add_of_lt (Nat.zero_lt_of_lt enough)
      unfold rootWithin
      split
      · next unknown => exact .lost unknown
      · next info known =>
          split
          · next top => exact .here known top
          · next inner =>
              refine .above known (eq_false_of_ne_true inner) (ih (by omega) ?_)
              rwa [← parent_of_info? known, ← Function.iterate_succ_apply]

/-- Without circles the ancestor at the top level is found. -/
theorem Acyclic.rootedAt (acyclic : env.Acyclic) (h : Handle) :
    env.RootedAt h (env.ancestorRoot h) := by
  obtain ⟨n, le, ended⟩ := acyclic.walksEnd h
  exact rootedAt_rootWithin (Nat.lt_succ_of_le le) ended

/-- What is found on a walk lies on it. -/
theorem isWithin_of_isAmong {steps : Nat} (found : env.isAmong a steps h = true) :
    h.isNull = false ∧ env.IsWithin a h := by
  induction steps generalizing h with
  | zero => cases found
  | succ steps ih =>
      simp only [isAmong, Bool.and_eq_true, Bool.not_eq_true', Bool.or_eq_true, beq_iff_eq] at found
      obtain ⟨named, rfl | further⟩ := found
      · exact ⟨named, .refl⟩
      · obtain ⟨above, within⟩ := ih further
        exact ⟨named, within.tail ⟨above, rfl⟩⟩

/-- A walk that ends in time finds what lies on it. -/
theorem isAmong_of_isWithin {n steps : Nat} (enough : n ≤ steps)
    (ended : (env.parent^[n] h).isNull = true) (named : h.isNull = false) (within : env.IsWithin a h) :
    env.isAmong a steps h = true := by
  induction n generalizing h steps with
  | zero =>
      rw [show h.isNull = true from ended] at named
      cases named
  | succ n ih =>
      obtain ⟨steps, rfl⟩ := Nat.exists_eq_add_of_lt (Nat.zero_lt_of_lt enough)
      simp only [isAmong, named, Bool.not_false, Bool.true_and, Bool.or_eq_true, beq_iff_eq]
      refine (isWithin_iff.mp within).imp id fun ancestor => ?_
      obtain ⟨above, within⟩ := isAncestor_iff.mp ancestor
      exact ih (by omega) ended above within

/-- Without circles the bounded search for an ancestor finds every one. -/
theorem Acyclic.isChild_iff (acyclic : env.Acyclic) (a h : Handle) :
    env.isChild a h = true ↔ env.IsAncestor a h := by
  rw [isAncestor_iff]
  refine ⟨isWithin_of_isAmong, fun ⟨named, within⟩ => ?_⟩
  obtain ⟨n, le, ended⟩ := acyclic.walksEnd h
  exact isAmong_of_isWithin (Nat.le_succ_of_le le) ended named within

def Prunes (a b : Environment) : Prop := ∀ h, b.parent h = a.parent h ∨ (b.parent h).isNull = true

section

variable {a b c : Environment}

theorem Prunes.refl (a : Environment) : a.Prunes a := fun _ => .inl rfl

theorem Prunes.trans (first : a.Prunes b) (second : b.Prunes c) : a.Prunes c := by
  intro h
  rcases second h with same | none
  · rw [same]
    exact first h
  · exact .inr none

/-- Only the window table has to do with parents. -/
theorem parent_congr (same : b.windows = a.windows) : b.parent = a.parent := by
  funext h
  unfold parent info?
  rw [same]

theorem Prunes.of_windows (same : b.windows = a.windows) : a.Prunes b := fun h =>
  .inl (congrFun (parent_congr same) h)

theorem Acyclic.prune (acyclic : a.Acyclic) (prunes : a.Prunes b) : b.Acyclic := by
  have fewer : b.IsParent ≤ a.IsParent := by
    rintro p h ⟨named, rfl⟩
    rcases prunes h with same | none
    · exact ⟨named, same.symm⟩
    · rw [none] at named
      cases named
  exact fun h circle => acyclic h (Relation.TransGen.mono fewer h h circle)

end

section

variable {a b : Environment} {h x y : Handle}

def SameBut (h : Handle) (a b : Environment) : Prop := ∀ k, k ≠ h → b.parent k = a.parent k

theorem SameBut.symm (same : SameBut h a b) : SameBut h b a := fun k other => (same k other).symm

theorem SameBut.isParent (same : SameBut h a b) (other : y ≠ h) (link : b.IsParent x y) :
    a.IsParent x y :=
  ⟨link.1, (same y other).symm.trans link.2⟩

/-- What is below a window does not depend on its own parent. -/
theorem SameBut.isWithin (same : SameBut h a b) (within : b.IsWithin h x) : a.IsWithin h x := by
  induction within with
  | refl => exact .refl
  | @tail y z _ link ih =>
      by_cases back : z = h
      · rw [back]
        exact .refl
      · exact ih.tail (same.isParent back link)

/-- A way up that does not pass the window with another parent is there in both. -/
theorem SameBut.isAncestor (same : SameBut h a b) (ancestor : b.IsAncestor x y) :
    a.IsAncestor x y ∨ b.IsAncestor x h ∧ b.IsWithin h y := by
  induction ancestor with
  | single link =>
      rename_i y
      by_cases back : y = h
      · rw [back] at link ⊢
        exact .inr ⟨.single link, .refl⟩
      · exact .inl (.single (same.isParent back link))
  | @tail y z earlier link ih =>
      by_cases back : z = h
      · rw [back] at link ⊢
        exact .inr ⟨earlier.tail link, .refl⟩
      · rcases ih with unchanged | ⟨above, below⟩
        · exact .inl (unchanged.tail (same.isParent back link))
        · exact .inr ⟨above, below.tail link⟩

/-- Outside the subtree of the window with another parent nothing changes. -/
theorem SameBut.isAncestor_iff (same : SameBut h a b) (outside : ¬ a.IsWithin h y) :
    b.IsAncestor x y ↔ a.IsAncestor x y := by
  constructor
  · intro ancestor
    refine (same.isAncestor ancestor).resolve_right fun ⟨_, below⟩ => ?_
    exact outside (same.isWithin below)
  · intro ancestor
    exact (same.symm.isAncestor ancestor).resolve_right fun ⟨_, below⟩ => outside below

/-- A new parent closes a circle exactly if it is in the subtree of the window. -/
theorem SameBut.acyclic_iff (same : SameBut h a b) (acyclic : a.Acyclic) :
    b.Acyclic ↔ ¬ ((b.parent h).isNull = false ∧ a.IsWithin h (b.parent h)) := by
  constructor
  · rintro still ⟨named, within⟩
    exact still h (Environment.isAncestor_iff.mpr ⟨named, same.symm.isWithin within⟩)
  · intro apart k circle
    have own : ¬ b.IsAncestor h h := by
      intro circle
      obtain ⟨named, within⟩ := Environment.isAncestor_iff.mp circle
      exact apart ⟨named, same.isWithin within⟩
    -- a circle was there before, or it leads through the changed link, and then `h` is on it
    rcases same.isAncestor circle with before | ⟨above, below⟩
    · exact acyclic k before
    · exact own (Relation.TransGen.trans_right below above)

end

variable (env)

theorem parent_editInfo (h k : Handle) (f : WindowInfo → WindowInfo) :
    (env.editInfo h f).parent k = if k = h then
      ((env.info? h).map fun info => (f info).parent).getD Handle.null else env.parent k := by
  unfold parent info? editInfo editWindow
  rw [OrderedMap.get?_modify]
  split
  · next same =>
      rw [same]
      cases env.windows.get? h <;> rfl
  · rfl

theorem contains_editInfo (h k : Handle) (f : WindowInfo → WindowInfo) :
    (env.editInfo h f).windows.contains k = env.windows.contains k := by
  unfold editInfo editWindow OrderedMap.contains
  rw [OrderedMap.get?_modify]
  split
  · exact Option.isSome_map
  · rfl

theorem prunes_editInfo (h : Handle) {f : WindowInfo → WindowInfo}
    (keeps : ∀ info, (f info).parent = info.parent) : env.Prunes (env.editInfo h f) := by
  intro k
  refine .inl ?_
  rw [parent_editInfo]
  split
  · next same =>
      rw [same]
      unfold parent
      simp [keeps]
  · rfl

theorem prunes_placeWindow (h : Handle) (rect : Rect) (flags : PlacementFlags) :
    env.Prunes (env.placeWindow h rect flags) :=
  prunes_editInfo (env.note fun j => { j with placements := j.placements ++ [(h, rect, flags)] }) h
    fun _ => rfl

theorem prunes_destroyWindow (h : Handle) : env.Prunes (env.destroyWindow h) := by
  unfold destroyWindow
  split
  · intro k
    unfold parent info?
    dsimp only
    rw [OrderedMap.get?_erase]
    split
    · exact .inr rfl
    · exact .inl rfl
  · exact .refl env

theorem prunes_createCaptureWindow : env.Prunes env.createCaptureWindow.1 := by
  intro k
  unfold parent info? createCaptureWindow takeHandle addWindow
  dsimp only
  rw [OrderedMap.get?_insert]
  split
  · exact .inr rfl
  · exact .inl rfl

/-- A window that is moved has the window behind the host window as its parent, and the others keep
theirs. -/
theorem reparent_eq {h target : Handle} {w : HostWindow} {info : WindowInfo}
    (known : env.info? h = some info) (found : env.lookup? w = some target)
    (below : (w == root) = false) : env.reparent h w =
      (env.editInfo h fun info => { info with parent := target },
        some (if info.parent.isNull then desktop else info.parent)) := by
  unfold reparent
  rw [below, known, if_neg Bool.false_ne_true, found]

/-- Nothing moves to a host window without a guest window. -/
theorem reparent_eq_self {h : Handle} {w : HostWindow} (unknown : env.lookup? w = none)
    (below : (w == root) = false) : env.reparent h w = (env, none) := by
  unfold reparent
  rw [below, if_neg Bool.false_ne_true, unknown]

end Environment

end GuestSeat
