import GuestSeat.Text.Blank
import Mathlib.Data.List.Basic
import Mathlib.Data.List.TakeWhile

/-!
Text cut into its fields again. Blanks around a text that neither begins nor ends with one are trimmed
away, and fields that were joined by a separator between two blanks come back in their order.
-/

namespace GuestSeat.Text

theorem dropWhile_of_head {p : Char → Bool} {cs : List Char} (first : ∀ c ∈ cs.head?, p c = false) :
    cs.dropWhile p = cs := by
  cases cs with
  | nil => rfl
  | cons c cs => rw [List.dropWhile_cons_of_neg (by simp [first c rfl])]

/-- Only the blanks around a text are trimmed. -/
theorem trim_padded {before cs after : List Char} (blank : ∀ c ∈ before ++ after, isBlank c = true)
    (written : cs ≠ []) (first : ∀ c ∈ cs.head?, isBlank c = false)
    (last : ∀ c ∈ cs.getLast?, isBlank c = false) : trim (before ++ cs ++ after) = cs := by
  have front : (before ++ (cs ++ after)).dropWhile isBlank = cs ++ after := by
    rw [List.dropWhile_append_of_pos fun c member => blank c (List.mem_append_left _ member)]
    apply dropWhile_of_head
    rwa [List.head?_append_of_ne_nil _ written]
  have back : (after.reverse ++ cs.reverse).dropWhile isBlank = cs.reverse := by
    rw [List.dropWhile_append_of_pos fun c member =>
      blank c (List.mem_append_right _ (List.mem_reverse.mp member))]
    apply dropWhile_of_head
    rwa [List.head?_reverse]
  rw [trim, List.append_assoc, front, List.reverse_append, back, List.reverse_reverse]

structure IsSolid (cs : List Char) : Prop where
  written : cs ≠ []
  solid : ∀ c ∈ cs, isBlank c = false

theorem IsSolid.trim_padded {before cs after : List Char} (h : IsSolid cs)
    (blank : ∀ c ∈ before ++ after, isBlank c = true) : trim (before ++ cs ++ after) = cs :=
  Text.trim_padded blank h.written (fun c first => h.solid c (List.mem_of_mem_head? first))
    fun c last => h.solid c (List.mem_of_mem_getLast? last)

/-- A text is not trimmed to nothing if something in it is no blank. -/
theorem trim_ne_nil {cs : List Char} {c : Char} (member : c ∈ cs) (visible : isBlank c = false) :
    trim cs ≠ [] := by
  have blank {ds : List Char} (empty : ds.dropWhile isBlank = []) (inside : c ∈ ds) : isBlank c = true :=
    List.dropWhile_eq_nil_iff.mp empty c inside
  intro empty
  rw [trim, List.reverse_eq_nil_iff] at empty
  rw [← List.takeWhile_append_dropWhile (p := isBlank) (l := cs), List.mem_append] at member
  rcases member with front | rest
  · exact absurd (List.mem_takeWhile_imp front) (by simp [visible])
  · exact absurd (blank empty (List.mem_reverse.mpr rest)) (by simp [visible])

variable {separator : Char}

theorem fields_of_not_mem {cs : List Char} (whole : separator ∉ cs) : fields separator cs = [cs] := by
  induction cs with
  | nil => rfl
  | cons c cs ih =>
      obtain ⟨other, rest⟩ := not_or.mp (mt List.mem_cons.mpr whole)
      rw [fields, if_neg (Ne.symm other), ih rest]

theorem fields_append_cons {cs rest : List Char} (whole : separator ∉ cs) :
    fields separator (cs ++ separator :: rest) = cs :: fields separator rest := by
  induction cs with
  | nil => rw [List.nil_append, fields, if_pos rfl]
  | cons c cs ih =>
      obtain ⟨other, apart⟩ := not_or.mp (mt List.mem_cons.mpr whole)
      rw [List.cons_append, fields, if_neg (Ne.symm other), ih apart]

/-- Solid fields that were joined by a separator between two blanks are the trimmed fields of the joined
text. The blank after a separator belongs to the next field, so blanks may stand before the first. -/
theorem trim_fields_joined (visible : isBlank separator = false) {parts : List (List Char)}
    (parted : parts ≠ []) (solid : ∀ part ∈ parts, IsSolid part ∧ separator ∉ part) :
    ∀ lead : List Char, (∀ c ∈ lead, isBlank c = true) →
      (fields separator (lead ++ [' ', separator, ' '].intercalate parts)).map trim = parts := by
  have foreign {cs : List Char} (blank : ∀ c ∈ cs, isBlank c = true) : separator ∉ cs := by
    intro member
    exact absurd (blank separator member) (by simp [visible])
  induction parts with
  | nil => exact absurd rfl parted
  | cons part rest ih =>
      intro lead blank
      obtain ⟨partSolid, apart⟩ := solid part List.mem_cons_self
      cases rest with
      | nil =>
          have whole : separator ∉ lead ++ part :=
            List.not_mem_append (foreign blank) apart
          have trimmed : trim (lead ++ part ++ []) = part :=
            partSolid.trim_padded (by simpa using blank)
          rw [List.intercalate_singleton, fields_of_not_mem whole, List.map_singleton,
            ← List.append_nil (lead ++ part), trimmed]
      | cons next rest =>
          have single : ∀ c ∈ [' '], isBlank c = true := List.forall_mem_singleton.mpr rfl
          have whole : separator ∉ lead ++ part ++ [' '] :=
            List.not_mem_append (List.not_mem_append (foreign blank) apart) (foreign single)
          have trimmed : trim (lead ++ part ++ [' ']) = part :=
            partSolid.trim_padded (List.forall_mem_append.mpr ⟨blank, single⟩)
          have others := ih (List.cons_ne_nil _ _)
            (fun other member => solid other (List.mem_cons_of_mem _ member)) [' '] single
          have text : lead ++ [' ', separator, ' '].intercalate (part :: next :: rest) =
              lead ++ part ++ [' '] ++
                separator :: ([' '] ++ [' ', separator, ' '].intercalate (next :: rest)) := by
            rw [List.intercalate_cons_cons]
            simp
          rw [text, fields_append_cons whole, List.map_cons, trimmed, others]

end GuestSeat.Text
