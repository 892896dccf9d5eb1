/-!
Finite maps that remember the order in which their keys were first inserted. Writing to a key that is
present keeps its place; the map is seen through `get?`, and each operation is pinned down by what it
does to that view.
-/

namespace GuestSeat

structure OrderedMap (κ α : Type) where
  entries : List (κ × α) := []
  distinct : (entries.map Prod.fst).Nodup := by simp
deriving DecidableEq

namespace OrderedMap

variable {κ α : Type} [DecidableEq κ]

instance : Inhabited (OrderedMap κ α) := ⟨{}⟩

def get? (m : OrderedMap κ α) (k : κ) : Option α := m.entries.lookup k

def contains (m : OrderedMap κ α) (k : κ) : Bool := (m.get? k).isSome

def keys (m : OrderedMap κ α) : List κ := m.entries.map Prod.fst

def values (m : OrderedMap κ α) : List α := m.entries.map Prod.snd

def size (m : OrderedMap κ α) : Nat := m.entries.length

/-- One entry after `f` was applied to the value at `k`. -/
def touch (k : κ) (f : α → α) (entry : κ × α) : κ × α :=
  if entry.1 = k then (entry.1, f entry.2) else entry

private theorem fst_touch (k : κ) (f : α → α) (entries : List (κ × α)) :
    (entries.map (touch k f)).map Prod.fst = entries.map Prod.fst := by
  rw [List.map_map]
  refine List.map_congr_left fun entry _ => ?_
  simp only [Function.comp_apply, touch]
  split <;> rfl

/-- The map with `f` applied to the value at `k`, if there is one. -/
def modify (m : OrderedMap κ α) (k : κ) (f : α → α) : OrderedMap κ α where
  entries := m.entries.map (touch k f)
  distinct := by rw [fst_touch]; exact m.distinct

private theorem lookup_eq_none_iff (k : κ) (entries : List (κ × α)) :
    entries.lookup k = none ↔ k ∉ entries.map Prod.fst := by
  induction entries with
  | nil => simp
  | cons entry rest ih =>
    obtain ⟨j, a⟩ := entry
    by_cases h : k = j
    · simp [h]
    · simp [List.lookup_cons, beq_false_of_ne h, h, ih]

/-- The map with `a` at `k`; a new key goes to the end. -/
def insert (m : OrderedMap κ α) (k : κ) (a : α) : OrderedMap κ α :=
  if h : m.get? k = none then
    { entries := m.entries ++ [(k, a)]
      distinct := by
        have fresh := (lookup_eq_none_iff k m.entries).1 h
        rw [List.map_append, List.map_cons, List.map_nil, List.nodup_append]
        refine ⟨m.distinct, by simp, fun x hx y hy => ?_⟩
        rw [List.mem_singleton] at hy
        subst hy
        exact fun e => fresh (e ▸ hx) }
  else m.modify k fun _ => a

def erase (m : OrderedMap κ α) (k : κ) : OrderedMap κ α where
  entries := m.entries.filter fun entry => entry.1 ≠ k
  distinct := m.distinct.sublist (List.filter_sublist.map _)

def getD (m : OrderedMap κ α) (k : κ) (default : α) : α := (m.get? k).getD default

/-- The map with `f` applied at `k`, where an absent value counts as `default`. -/
def alter (m : OrderedMap κ α) (k : κ) (default : α) (f : α → α) : OrderedMap κ α :=
  m.insert k (f (m.getD k default))

/-- A map from pairs, of which a later one wins over an earlier one. -/
def ofList (pairs : List (κ × α)) : OrderedMap κ α :=
  pairs.foldl (fun m pair => m.insert pair.1 pair.2) {}

@[simp] theorem get?_modify (m : OrderedMap κ α) (k j : κ) (f : α → α) :
    (m.modify k f).get? j = if j = k then (m.get? j).map f else m.get? j := by
  simp only [get?, modify]
  induction m.entries with
  | nil => simp
  | cons entry rest ih =>
    obtain ⟨i, a⟩ := entry
    by_cases hi : i = k
    · subst hi
      by_cases hj : j = i
      · subst hj; simp [touch]
      · simp only [List.map_cons, touch, if_pos, List.lookup_cons, beq_false_of_ne hj, if_neg hj] at ih ⊢
        exact ih
    · by_cases hj : j = i
      · subst hj; simp [touch, hi]
      · simp only [List.map_cons, touch, if_neg hi, List.lookup_cons, beq_false_of_ne hj] at ih ⊢
        exact ih

@[simp] theorem get?_insert (m : OrderedMap κ α) (k j : κ) (a : α) :
    (m.insert k a).get? j = if j = k then some a else m.get? j := by
  unfold insert
  split
  · rename_i h
    simp only [get?] at h ⊢
    by_cases hj : j = k
    · subst hj; simp [List.lookup_append, h]
    · simp [List.lookup_append, List.lookup_cons, beq_false_of_ne hj, hj]
  · rename_i h
    rw [get?_modify]
    by_cases hj : j = k
    · subst hj
      obtain ⟨b, hb⟩ := Option.ne_none_iff_exists'.1 h
      simp [hb]
    · simp [hj]

@[simp] theorem get?_erase (m : OrderedMap κ α) (k j : κ) :
    (m.erase k).get? j = if j = k then none else m.get? j := by
  simp only [get?, erase]
  induction m.entries with
  | nil => simp
  | cons entry rest ih =>
    obtain ⟨i, a⟩ := entry
    by_cases hi : i = k
    · subst hi
      by_cases hj : j = i
      · subst hj; simpa using ih
      · simpa [List.lookup_cons, beq_false_of_ne hj, hj] using ih
    · by_cases hj : j = i
      · subst hj; simp [hi]
      · simpa [List.lookup_cons, hi, beq_false_of_ne hj] using ih

theorem get?_of_mem (m : OrderedMap κ α) {entry : κ × α} (member : entry ∈ m.entries) :
    m.get? entry.1 = some entry.2 := by
  obtain ⟨before, after, eq⟩ := List.append_of_mem member
  refine List.lookup_eq_some_iff.mpr ⟨before, after, eq, fun other earlier => ?_⟩
  have distinct := m.distinct
  rw [eq, List.map_append, List.nodup_append] at distinct
  exact bne_iff_ne.mpr (distinct.2.2 other.1 (List.mem_map_of_mem earlier) entry.1 (by simp)).symm

theorem mem_of_get? (m : OrderedMap κ α) {k : κ} {a : α} (found : m.get? k = some a) :
    (k, a) ∈ m.entries := by
  obtain ⟨before, after, eq, -⟩ := List.lookup_eq_some_iff.mp found
  rw [eq]
  exact List.mem_append_right before List.mem_cons_self

/-- To write what is there already changes nothing. -/
theorem insert_of_get? {m : OrderedMap κ α} {k : κ} {a : α} (found : m.get? k = some a) :
    m.insert k a = m := by
  have unchanged : ∀ entry ∈ m.entries, touch k (fun _ => a) entry = entry := by
    intro entry member
    unfold touch
    split
    · next at_k =>
      have there := m.get?_of_mem member
      rw [at_k] at there
      rw [← Option.some.inj (there.symm.trans found)]
    · rfl
  have same : m.entries.map (touch k fun _ => a) = m.entries :=
    (List.map_congr_left unchanged).trans (List.map_id' _)
  have present : ¬ m.get? k = none := by simp [found]
  unfold insert modify
  rw [dif_neg present]
  simp only [same]

end OrderedMap

end GuestSeat
