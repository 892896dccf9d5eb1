import GuestSeat.Json.Reader
import GuestSeat.Proofs.Json.Tokens

/-!
Documents that are written and read again. The reader takes one token at a time and keeps the open
containers on a stack, so what is proved of every written value is what it does to the reader: from any
stack with room for its containers, the text of a value leads to the state after that value. Numbers
that are no whole numbers are left out, because how they are spelled is up to the caller.
-/

namespace GuestSeat.Json

open Text

/-- Trees that are read as they were written: whole numbers fit sixty-four bits, no number is binary64,
everything can be read, and containers are nested at most this deep. -/
inductive Legible : Nat → Tree → Prop
  | null {d : Nat} : Legible d .null
  | bool {d : Nat} (b : Bool) : Legible d (.bool b)
  | whole {d : Nat} {n : Int} (word : IsWord n) : Legible d (.num (.whole n))
  | str {d : Nat} (s : String) : Legible d (.str s)
  | list {d : Nat} {items : List Tree} (each : ∀ t ∈ items, Legible d t) : Legible (d + 1) (.list items)
  | record {d : Nat} {entries : List (String × Tree)} (each : ∀ e ∈ entries, Legible d e.2) :
      Legible (d + 1) (.record entries)

theorem areReadable_of_forall {items : List Tree} (each : ∀ t ∈ items, t.isReadable = true) :
    Tree.areReadable items = true := by
  induction items with
  | nil => rfl
  | cons t rest ih =>
      obtain ⟨first, others⟩ := List.forall_mem_cons.mp each
      rw [Tree.areReadable, first, ih others]
      rfl

theorem haveReadable_of_forall {entries : List (String × Tree)}
    (each : ∀ e ∈ entries, e.2.isReadable = true) : Tree.haveReadable entries = true := by
  induction entries with
  | nil => rfl
  | cons e rest ih =>
      obtain ⟨first, others⟩ := List.forall_mem_cons.mp each
      rw [Tree.haveReadable, first, ih others]
      rfl

/-- Nothing in a legible tree is without meaning. -/
theorem Legible.isReadable {d : Nat} {t : Tree} (legible : Legible d t) : t.isReadable = true := by
  induction legible with
  | null | bool | whole | str => rfl
  | list _ ih => exact areReadable_of_forall ih
  | record _ ih => exact haveReadable_of_forall ih

section Reader

variable {t : Token} {cs after : List Char}

/-- A token does not begin with a blank. -/
theorem dropWhile_isSpace_of_token? (read : token? cs = some (t, after)) : cs.dropWhile isSpace = cs := by
  cases cs with
  | nil => rfl
  | cons c cs =>
      apply List.dropWhile_cons_of_neg
      intro space
      simp only [isSpace, Bool.or_eq_true, beq_iff_eq] at space
      rcases space with ((rfl | rfl) | rfl) | rfl
      all_goals cases read

theorem run?_nil (state : State) : state.run? [] = some state := by
  rw [State.run?]
  rfl

/-- The reader takes the token that stands first. -/
theorem run?_token (read : token? cs = some (t, after)) (state : State) :
    state.run? cs = (state.step? t).bind fun next => next.run? after := by
  have start := dropWhile_isSpace_of_token? read
  rw [State.run?]
  split
  · next empty =>
      rw [start] at empty
      subst empty
      cases read
  · next c rest same =>
      obtain rfl : cs = c :: rest := start.symm.trans same
      split
      · next stuck => cases stuck.symm.trans read
      · next same => cases same.symm.trans read; cases state.step? t <;> rfl

end Reader

variable (spell : Float → List Char) {d : Nat} {t : Tree} {stack : List Frame} {after : List Char}

/-- The text of a tree, followed by something that does not continue a number, takes the reader past
the tree. Its first token does not end a list, so it may also be the first item of one. -/
def Passes (d : Nat) (t : Tree) : Prop :=
  ∀ rest, EndsNumber rest → ∃ token after, token? (write spell t ++ rest) = some (token, after) ∧
    token ≠ .closeList ∧ ∀ stack : List Frame, stack.length + d ≤ depthLimit →
      ((State.open? stack token).bind fun next => next.run? after) = (State.close t stack).run? rest

variable {spell}

theorem Passes.value (passes : Passes spell d t) (room : stack.length + d ≤ depthLimit)
    (ends : EndsNumber after) :
    (State.value stack).run? (write spell t ++ after) = (State.close t stack).run? after := by
  obtain ⟨token, behind, read, -, opened⟩ := passes after ends
  rw [run?_token read]
  exact opened stack room

theorem Passes.firstItem (passes : Passes spell d t) (room : stack.length + 1 + d ≤ depthLimit)
    (ends : EndsNumber after) :
    (State.firstItem stack).run? (write spell t ++ after) = (State.afterItem [t] stack).run? after := by
  obtain ⟨token, behind, read, other, opened⟩ := passes after ends
  have stepped : (State.firstItem stack).step? token = State.open? (.list [] :: stack) token := by
    cases token with
    | closeList => exact absurd rfl other
    | _ => rfl
  rw [run?_token read, stepped]
  exact opened (.list [] :: stack) room

def writeEntry (spell : Float → List Char) (entry : String × Tree) : List Char :=
  quote entry.1 ++ ':' :: write spell entry.2

theorem writeItems_cons (t : Tree) (rest : List Tree) :
    writeItems spell (t :: rest) = write spell t ++ rest.flatMap fun u => ',' :: write spell u := by
  induction rest generalizing t with
  | nil => rw [writeItems, List.flatMap_nil, List.append_nil]
  | cons u rest ih =>
      rw [writeItems, ih, List.flatMap_cons, List.cons_append]
      exact List.cons_ne_nil u rest

theorem writeEntries_cons (entry : String × Tree) (rest : List (String × Tree)) :
    writeEntries spell (entry :: rest) =
      writeEntry spell entry ++ rest.flatMap fun e => ',' :: writeEntry spell e := by
  induction rest generalizing entry with
  | nil => rw [writeEntries, List.flatMap_nil, List.append_nil, writeEntry]
  | cons e rest ih =>
      rw [writeEntries, ih, List.flatMap_cons, List.cons_append]
      · simp only [writeEntry, List.append_assoc, List.cons_append]
      · exact List.cons_ne_nil e rest

theorem endsNumber_items (items : List Tree) (after : List Char) :
    EndsNumber ((items.flatMap fun t => ',' :: write spell t) ++ ']' :: after) := by
  cases items with
  | nil => rintro _ ⟨⟩; decide
  | cons t items => rintro _ ⟨⟩; decide

theorem endsNumber_entries (entries : List (String × Tree)) (after : List Char) :
    EndsNumber ((entries.flatMap fun e => ',' :: writeEntry spell e) ++ '\x7d' :: after) := by
  cases entries with
  | nil => rintro _ ⟨⟩; decide
  | cons e entries => rintro _ ⟨⟩; decide

/-- The items that follow one, and the end of the list. -/
theorem run?_items {items : List Tree} (each : ∀ t ∈ items, Passes spell d t)
    (room : stack.length + 1 + d ≤ depthLimit) : ∀ done : List Tree,
      (State.afterItem done stack).run? ((items.flatMap fun t => ',' :: write spell t) ++ ']' :: after) =
        (State.close (.list (done.reverse ++ items)) stack).run? after := by
  induction items with
  | nil =>
      intro done
      have shallow : stack.length < depthLimit := by omega
      rw [List.flatMap_nil, List.nil_append, List.append_nil, run?_token (t := .closeList) rfl]
      simp only [State.step?, State.closeList, if_pos shallow, Option.bind_some]
  | cons t items ih =>
      intro done
      obtain ⟨first, others⟩ := List.forall_mem_cons.mp each
      rw [List.flatMap_cons, List.cons_append, List.cons_append, List.append_assoc,
        run?_token (t := .comma) rfl]
      -- Behind the comma the list is open again, and the item is read one level deeper.
      change (State.value (.list done :: stack)).run? _ = _
      rw [first.value (show (Frame.list done :: stack).length + d ≤ depthLimit from room)
        (endsNumber_items items after)]
      change (State.afterItem (t :: done) stack).run? _ = _
      rw [ih others, List.reverse_cons, List.append_assoc, List.singleton_append]

/-- The value of an entry after its name. -/
theorem Passes.entry {done : List (Option String × Tree)} {name : Option String}
    (passes : Passes spell d t) (room : stack.length + 1 + d ≤ depthLimit) (ends : EndsNumber after) :
    (State.colon done name stack).run? (':' :: (write spell t ++ after)) =
      (State.afterEntry ((name, t) :: done) stack).run? after := by
  rw [run?_token (t := .colon) rfl]
  change (State.value (.record done name :: stack)).run? _ = _
  rw [passes.value (show (Frame.record done name :: stack).length + d ≤ depthLimit from room) ends]
  rfl

theorem recordOf_named (entries : List (String × Tree)) :
    recordOf (entries.map fun e => (some e.1, e.2)) = .record entries := by
  have named : (entries.map fun e => (some e.1, e.2)).mapM
      (fun (e : Option String × Tree) => e.1.map (·, e.2)) = some entries := by
    induction entries with
    | nil => rfl
    | cons e entries ih => rw [List.map_cons, List.mapM_cons, ih]; rfl
  simp only [recordOf, named]

/-- The entries that follow one, and the end of the record. -/
theorem run?_entries {entries : List (String × Tree)} (each : ∀ e ∈ entries, Passes spell d e.2)
    (room : stack.length + 1 + d ≤ depthLimit) : ∀ done : List (String × Tree),
      (State.afterEntry (done.map fun e => (some e.1, e.2)).reverse stack).run?
          ((entries.flatMap fun e => ',' :: writeEntry spell e) ++ '\x7d' :: after) =
        (State.close (.record (done ++ entries)) stack).run? after := by
  induction entries with
  | nil =>
      intro done
      have shallow : stack.length < depthLimit := by omega
      rw [List.flatMap_nil, List.nil_append, List.append_nil, run?_token (t := .closeRecord) rfl]
      simp only [State.step?, State.closeRecord, if_pos shallow, List.reverse_reverse, recordOf_named,
        Option.bind_some]
  | cons e entries ih =>
      intro done
      obtain ⟨first, others⟩ := List.forall_mem_cons.mp each
      rw [List.flatMap_cons, List.cons_append, List.cons_append, List.append_assoc,
        run?_token (t := .comma) rfl]
      change (State.key _ stack).run? _ = _
      rw [writeEntry, List.append_assoc, run?_token (token?_quote e.1 _)]
      change (State.colon _ (some e.1) stack).run? _ = _
      rw [List.cons_append, first.entry room (endsNumber_entries entries after)]
      have more := ih others (done ++ [e])
      rwa [List.map_append, List.reverse_append, List.append_assoc] at more

/-- Every legible value takes the reader past itself. -/
theorem Legible.passes (legible : Legible d t) : Passes spell d t := by
  induction legible with
  | null => exact fun rest _ => ⟨.null, rest, rfl, by simp, fun _ _ => rfl⟩
  | bool b =>
      cases b with
      | false => exact fun rest _ => ⟨.bool false, rest, rfl, by simp, fun _ _ => rfl⟩
      | true => exact fun rest _ => ⟨.bool true, rest, rfl, by simp, fun _ _ => rfl⟩
  | whole word =>
      intro rest ends
      exact ⟨.num (some (.whole _)), rest, token?_decimal word ends, by simp, fun _ _ => rfl⟩
  | str s => exact fun rest _ => ⟨.str (some s), rest, token?_quote s rest, by simp, fun _ _ => rfl⟩
  | @list d items _ ih =>
      intro rest _
      refine ⟨.openList, writeItems spell items ++ ']' :: rest, ?_, by simp, ?_⟩
      · simp [write, token?]
      intro stack room
      change (State.firstItem stack).run? _ = _
      cases items with
      | nil =>
          have shallow : stack.length < depthLimit := by omega
          rw [writeItems, List.nil_append, run?_token (t := .closeList) rfl]
          simp only [State.step?, State.closeList, if_pos shallow, Option.bind_some]
      | cons t items =>
          obtain ⟨first, others⟩ := List.forall_mem_cons.mp ih
          have inner : stack.length + 1 + d ≤ depthLimit := by omega
          rw [writeItems_cons, List.append_assoc, first.firstItem inner (endsNumber_items items rest),
            run?_items others inner]
          rfl
  | @record d entries _ ih =>
      intro rest _
      refine ⟨.openRecord, writeEntries spell entries ++ '\x7d' :: rest, ?_, by simp, ?_⟩
      · simp [write, token?]
      intro stack room
      change (State.firstKey stack).run? _ = _
      cases entries with
      | nil =>
          have shallow : stack.length < depthLimit := by omega
          rw [writeEntries, List.nil_append, run?_token (t := .closeRecord) rfl]
          simp only [State.step?, State.closeRecord, if_pos shallow, Option.bind_some]
          rfl
      | cons e entries =>
          obtain ⟨first, others⟩ := List.forall_mem_cons.mp ih
          have inner : stack.length + 1 + d ≤ depthLimit := by omega
          rw [writeEntries_cons, writeEntry, List.append_assoc, List.append_assoc,
            run?_token (token?_quote e.1 _)]
          change (State.colon [] (some e.1) stack).run? _ = _
          rw [List.cons_append, first.entry inner (endsNumber_entries entries rest)]
          exact run?_entries others inner [e]

/-- A legible tree is read as it was written. -/
theorem read?_write (legible : Legible d t) (shallow : d ≤ depthLimit) :
    read? (String.ofList (write spell t)) = some t := by
  have passed : (State.value []).run? (write spell t ++ []) = some (.complete t) := by
    have ends : EndsNumber [] := by rintro c ⟨⟩
    rw [legible.passes.value (by simpa using shallow) ends]
    exact run?_nil _
  rw [read?, String.toList_ofList, ← List.append_nil (write spell t), passed]

end GuestSeat.Json
