import GuestSeat.Document.Shape
import GuestSeat.Proofs.Json.RoundTrip
import Mathlib.Data.List.Nodup

/-!
Values that documents carry. A codec carries a value if what it writes for the value is legible and is
read back as that value, in place or put off: a part inside a record whose kind is one of its entries
is always put off. The small codecs carry every value of their type; for the shapes of records and
choices it is said here what a reader finds in them, so that each record needs to name its fields only.
-/

namespace GuestSeat

open Json (Legible)

/-- What the codec writes for a value is nested at most `d` deep, can be read, and is read as that value. -/
structure Codec.Carries {α : Type} (c : Codec α) (d : Nat) (a : α) : Prop where
  legible : Legible d (c.encode a)
  reads : ∀ reading, c.decode ⟨c.encode a, reading⟩ = some a

namespace Codec

variable {α β : Type} {c : Codec α} {d : Nat}

theorem Carries.along {wrap : α → β} {unwrap : β → α} {b : β} (h : c.Carries d (unwrap b))
    (same : wrap (unwrap b) = b) : (c.along wrap unwrap).Carries d b where
  legible := h.legible
  reads reading := by
    change (c.decode ⟨c.encode (unwrap b), reading⟩).map wrap = some b
    rw [h.reads, Option.map_some, same]

theorem natural_carries {bits n : Nat} (small : n < 2 ^ bits) (short : bits ≤ 64) :
    (natural bits).Carries d n where
  legible := by
    have word : 2 ^ bits ≤ 2 ^ 64 := Nat.pow_le_pow_right (by decide) short
    exact .whole ⟨by omega, by omega⟩
  reads reading := by
    have within : (0 : Int) ≤ n ∧ (n : Int) ≤ (1 <<< bits - 1 : Nat) := by
      rw [Nat.one_shiftLeft]
      omega
    have read : wholeWithin? 0 (1 <<< bits - 1 : Nat) ⟨.num (.whole n), reading⟩ = some (n : Int) :=
      if_pos within
    change (wholeWithin? 0 (1 <<< bits - 1 : Nat) ⟨.num (.whole n), reading⟩).map Int.toNat = some n
    rw [read, Option.map_some, Int.toNat_natCast]

theorem u8_carries (x : UInt8) : u8.Carries d x :=
  (natural_carries x.toNat_lt (by decide)).along UInt8.ofNat_toNat

theorem u16_carries (x : UInt16) : u16.Carries d x :=
  (natural_carries x.toNat_lt (by decide)).along UInt16.ofNat_toNat

theorem u32_carries (x : UInt32) : u32.Carries d x :=
  (natural_carries x.toNat_lt (by decide)).along UInt32.ofNat_toNat

theorem u64_carries (x : UInt64) : u64.Carries d x :=
  (natural_carries x.toNat_lt (by decide)).along UInt64.ofNat_toNat

def IsCoordinate (n : Int) : Prop := -0x80000000 ≤ n ∧ n ≤ 0x7fffffff

theorem IsCoordinate.carried {n : Int} (range : IsCoordinate n) : i32.Carries d n where
  legible := by
    obtain ⟨low, high⟩ := range
    exact .whole ⟨by omega, by omega⟩
  reads _ := if_pos range

theorem bool_carries (b : Bool) : bool.Carries d b := ⟨.bool b, fun _ => rfl⟩

/-- A name is read as the first alternative of that name. -/
theorem named_carries {all : List α} {spelling : α → String} {a : α}
    (found : all.find? (fun b => spelling b == spelling a) = some a) :
    (named all spelling).Carries d a := ⟨.str _, fun _ => found⟩

theorem option_decode {p : Part} (shown : p.tree ≠ .null) : c.option.decode p = (c.decode p).map some := by
  obtain ⟨tree, reading⟩ := p
  cases tree with
  | null => exact absurd rfl shown
  | _ => rfl

/-- An optional value is carried if the value is, and is not written as `null` itself. -/
theorem option_carries {a : Option α} (each : ∀ x ∈ a, c.Carries d x) (shown : ∀ x, c.encode x ≠ .null) :
    c.option.Carries d a := by
  cases a with
  | none => exact ⟨.null, fun _ => rfl⟩
  | some x =>
      refine ⟨(each x rfl).legible, fun reading => ?_⟩
      change c.option.decode ⟨c.encode x, reading⟩ = some (some x)
      rw [option_decode (shown x), (each x rfl).reads, Option.map_some]

theorem list_carries {items : List α} (each : ∀ a ∈ items, c.Carries d a) :
    c.list.Carries (d + 1) items where
  legible := by
    apply Legible.list
    intro t member
    obtain ⟨a, inside, rfl⟩ := List.mem_map.mp member
    exact (each a inside).legible
  reads reading := by
    change (items.map c.encode).mapM (fun t => c.decode ⟨t, reading⟩) = some items
    induction items with
    | nil => rfl
    | cons a items ih =>
        obtain ⟨first, others⟩ := List.forall_mem_cons.mp each
        rw [List.map_cons, List.mapM_cons, first.reads, ih others]
        rfl

theorem vector_carries {n : Nat} {items : Vector α n} (each : ∀ a ∈ items.toList, c.Carries d a) :
    (c.vector n).Carries (d + 1) items where
  legible := (list_carries each).legible
  reads reading := by
    have read : c.list.decode ⟨c.list.encode items.toList, reading⟩ = some items.toList :=
      (list_carries each).reads reading
    have size : items.toList.length = n := items.length_toList
    change (c.list.decode ⟨c.list.encode items.toList, reading⟩).bind
      (fun as => if h : as.length = n then some (⟨as.toArray, by simp [h]⟩ : Vector α n) else none) = some items
    rw [read, Option.bind_some, dif_pos size]
    simp only [Vector.toList, Array.toArray_toList]

end Codec

namespace Row

variable {reading : Reading} {field : String} {entries : List (String × Tree)}

def written (entries : List (String × Tree)) (reading : Reading) : Row :=
  { entries := entries.map fun e => (e.1, ⟨e.2, reading⟩), named := true }

/-- A record without a repeated name is read, whatever its fields are called. -/
theorem read?_written (fields : List String) (distinct : (entries.map Prod.fst).Nodup) :
    Row.read? fields ⟨.record entries, reading⟩ = some (written entries reading) := by
  have once : ¬ (fields.any fun f =>
      1 < ((entries.map fun e => (e.1, (⟨e.2, reading⟩ : Part))).filter (·.1 == f)).length) = true := by
    rw [List.any_eq_true]
    rintro ⟨field, -, many⟩
    have few : (entries.map Prod.fst).count field ≤ 1 := List.nodup_iff_count_le_one.mp distinct field
    rw [List.count, List.countP_map, List.countP_eq_length_filter] at few
    rw [decide_eq_true_eq, List.filter_map, List.length_map] at many
    exact absurd few (not_le_of_gt many)
  exact if_neg once

theorem readNamed?_written (fields : List String) (distinct : (entries.map Prod.fst).Nodup) :
    Row.readNamed? fields ⟨.record entries, reading⟩ = some (written entries reading) :=
  read?_written fields distinct

theorem lookup_written :
    (written entries reading).entries.lookup field = (entries.lookup field).map (⟨·, reading⟩) := by
  induction entries with
  | nil => rfl
  | cons e entries ih =>
      rw [written, List.map_cons, List.lookup_cons, List.lookup_cons]
      split
      · rfl
      · exact ih

end Row

namespace Part

variable {d : Nat} {reading : Reading} {kind : String} {t : Tree} {entries : List (String × Tree)}

theorem putOff?_of_legible (legible : Legible d t) : putOff? ⟨t, reading⟩ = some ⟨t, .putOff⟩ :=
  if_pos legible.isReadable

/-- A record whose first entry is its tag is taken apart into the tag and the rest. -/
theorem tagged?_written {tag : String} (names : List String) (single : tag ∉ entries.map Prod.fst)
    (legible : Legible d (.record ((tag, .str kind) :: entries))) :
    tagged? tag names ⟨.record ((tag, .str kind) :: entries), reading⟩ =
      some (kind, ⟨.record entries, .putOff⟩) := by
  have other : ∀ e ∈ entries, e.1 ≠ tag := by
    rintro e member rfl
    exact single (List.mem_map_of_mem member)
  have tags : (entries.filter fun e => e.1 == tag) = [] :=
    List.filter_eq_nil_iff.mpr fun e member => by simpa using other e member
  have rest : (entries.filter fun e => e.1 != tag) = entries :=
    List.filter_eq_self.mpr fun e member => by simpa using other e member
  rw [tagged?, putOff?_of_legible legible]
  simp [tags, rest, inner, identifier?]

end Part

section Fields

variable {α β : Type} {c : Codec α} {d : Nat} {a : α} {reading : Reading} {field : String}
  {entries : List (String × Tree)}

/-- A field that was written is read as it was, where it has to be there, has a default or may be left
out. -/
theorem Codec.Carries.required (h : c.Carries d a) (found : entries.lookup field = some (c.encode a)) :
    (Row.written entries reading).required field c = some a := by
  rw [Row.required, Row.lookup_written, found]
  exact h.reads reading

theorem Codec.Carries.defaulted {default : α} (h : c.Carries d a)
    (found : entries.lookup field = some (c.encode a)) :
    (Row.written entries reading).defaulted field c default = some a := by
  rw [Row.defaulted, Row.lookup_written, found]
  exact h.reads reading

theorem Codec.Carries.optional {a : Option α} (h : c.option.Carries d a)
    (found : entries.lookup field = some (c.option.encode a)) :
    (Row.written entries reading).optional field c = some a := by
  rw [Row.optional, Row.lookup_written, found]
  exact h.reads reading

/-- A step of reading that finds what it looks for. -/
theorem finds {x : Option α} {f : α → Option β} {b : Option β} (h : x = some a) (rest : f a = b) :
    (x >>= f) = b := by
  subst h
  exact rest

/-- A record is carried if its entries are its fields, each of them is legible, and what is read from
them is the value. -/
theorem Codec.carries_record {fields : List String} {read : Row → Option α}
    (decode : c.decode = fun p => Row.read? fields p >>= read) (encode : c.encode a = .record entries)
    (own : entries.map Prod.fst = fields) (distinct : fields.Nodup) (legible : ∀ e ∈ entries, Legible d e.2)
    (reads : ∀ reading, read (Row.written entries reading) = some a) : c.Carries (d + 1) a where
  legible := encode ▸ .record legible
  reads reading := by
    rw [decode, encode]
    exact finds (Row.read?_written fields (own ▸ distinct)) (reads reading)

/-- A record behind a tag is carried if what is read from the entries beside the tag, which were put off,
is the value. -/
theorem Codec.carries_tagged {tag kind : String} {names : List String} {read : String × Part → Option α}
    (decode : c.decode = fun p => p.tagged? tag names >>= read)
    (encode : c.encode a = .record ((tag, .str kind) :: entries)) (single : tag ∉ entries.map Prod.fst)
    (legible : ∀ e ∈ entries, Legible d e.2) (reads : read (kind, ⟨.record entries, .putOff⟩) = some a) :
    c.Carries (d + 1) a := by
  have whole : Legible (d + 1) (.record ((tag, .str kind) :: entries)) :=
    .record (List.forall_mem_cons.mpr ⟨.str kind, legible⟩)
  refine ⟨encode ▸ whole, fun reading => ?_⟩
  rw [decode, encode]
  exact finds (Part.tagged?_written names single whole) reads

end Fields

end GuestSeat
