import GuestSeat.Cursor.Realizer

/-!
Realizers without their memories. What a layered realizer remembers is what its layers would say again, at every
depth of the tree: an answer is remembered only after the layers gave it, no layer ever changes what it says, and
forgetting takes answers out of a memory but puts none in. A tree of realizers that starts out with nothing
remembered therefore answers as the first of its layers that knows the cursor, whatever was asked or forgotten
before.
-/

namespace GuestSeat.Realizer

variable {r : Realizer} {layers : List Realizer} {found : OrderedMap CursorId HostCursor} {c : CursorId}

mutual

/-- The host cursor of a guest cursor with all memories left aside. -/
def reading : Realizer → CursorId → Option HostCursor
  | .null, _ => none
  | .table cursors, c => cursors.get? c
  | .layered layers _, c => firstReading layers c

def firstReading : List Realizer → CursorId → Option HostCursor
  | [], _ => none
  | layer :: rest, c => (reading layer c).or (firstReading rest c)

end

theorem firstReading_eq (layers : List Realizer) (c : CursorId) :
    firstReading layers c = layers.findSome? fun layer => layer.reading c := by
  induction layers with
  | nil => rfl
  | cons layer rest ih =>
    rw [firstReading, ih, List.findSome?_cons]
    cases layer.reading c <;> rfl

/-- What layers say depends on nothing but what each of them says. -/
theorem firstReading_congr {others : List Realizer} (same : others.map reading = layers.map reading) :
    firstReading others = firstReading layers := by
  have through : ∀ layers c, firstReading layers c = (layers.map reading).findSome? (· c) := by
    intro layers c
    rw [firstReading_eq, List.findSome?_map]
    rfl
  funext c
  rw [through, through, same]

inductive Fresh : Realizer → Prop
  | null : Fresh .null
  | table (cursors : OrderedMap CursorId HostCursor) : Fresh (.table cursors)
  | layered {layers : List Realizer} (each : ∀ layer ∈ layers, Fresh layer) : Fresh (.layered layers {})

inductive Faithful : Realizer → Prop
  | null : Faithful .null
  | table (cursors : OrderedMap CursorId HostCursor) : Faithful (.table cursors)
  | layered {layers : List Realizer} {found : OrderedMap CursorId HostCursor}
      (each : ∀ layer ∈ layers, Faithful layer)
      (known : ∀ c native, found.get? c = some native → firstReading layers c = some native) :
      Faithful (.layered layers found)

theorem Fresh.faithful (fresh : r.Fresh) : r.Faithful := by
  induction fresh with
  | null => exact .null
  | table cursors => exact .table cursors
  | layered _ ih => exact .layered ih fun c native remembered => nomatch remembered

/-- A realizer after a call: it would say what it said before, and what it remembers is right. -/
structure Kept (r next : Realizer) : Prop where
  reading : next.reading = r.reading
  faithful : next.Faithful

/-- Other layers that say the same may take the place of the layers, as long as the memory is right. -/
theorem Kept.layered {others : List Realizer} {known : OrderedMap CursorId HostCursor}
    (same : others.map Realizer.reading = layers.map Realizer.reading) (each : ∀ layer ∈ others, layer.Faithful)
    (right : ∀ c native, known.get? c = some native → firstReading layers c = some native) :
    (Realizer.layered layers found).Kept (.layered others known) where
  reading := by
    funext c
    rw [Realizer.reading, Realizer.reading, firstReading_congr same]
  faithful := .layered each fun c native there => by
    rw [firstReading_congr same]
    exact right c native there

/-- The layers up to the first one that knows the cursor were asked, and those behind it were left alone. -/
theorem realizeFirst_kept (each : ∀ layer ∈ layers, layer.Faithful)
    (asked : ∀ layer ∈ layers, (layer.realize c).2 = layer.reading c ∧ layer.Kept (layer.realize c).1) :
    (realizeFirst layers c).2 = firstReading layers c ∧
      (realizeFirst layers c).1.map reading = layers.map reading ∧
      ∀ layer ∈ (realizeFirst layers c).1, layer.Faithful := by
  induction layers with
  | nil => exact ⟨rfl, rfl, by simp [realizeFirst]⟩
  | cons layer rest ih =>
    obtain ⟨⟨answer, first⟩, others⟩ := List.forall_mem_cons.mp asked
    obtain ⟨-, untouched⟩ := List.forall_mem_cons.mp each
    obtain ⟨later, same, kept⟩ := ih untouched others
    rw [realizeFirst, firstReading, ← answer]
    cases reply : layer.realize c with
    | mk next native =>
      rw [reply] at first
      cases native with
      | some native =>
        refine ⟨rfl, ?_, List.forall_mem_cons.mpr ⟨first.faithful, untouched⟩⟩
        rw [List.map_cons, List.map_cons, first.reading]
      | none =>
        refine ⟨later, ?_, List.forall_mem_cons.mpr ⟨first.faithful, kept⟩⟩
        rw [List.map_cons, List.map_cons, first.reading, same]

/-- An answer comes out of the memory or from the layers, and it is the same from either. -/
theorem Faithful.realize (faithful : r.Faithful) (c : CursorId) :
    (r.realize c).2 = r.reading c ∧ r.Kept (r.realize c).1 := by
  induction faithful with
  | null => exact ⟨rfl, rfl, .null⟩
  | table cursors => exact ⟨rfl, rfl, .table cursors⟩
  | @layered layers found each known ih =>
    rw [Realizer.realize]
    cases memory : found.get? c with
    | some native => exact ⟨(known c native memory).symm, rfl, .layered each known⟩
    | none =>
      obtain ⟨answer, same, kept⟩ := realizeFirst_kept each ih
      cases reply : realizeFirst layers c with
      | mk next native =>
        rw [reply] at answer same kept
        cases native with
        | none => exact ⟨answer, .layered same kept known⟩
        | some native =>
          -- the one answer that is new to the memory has just come from the layers
          refine ⟨answer, .layered same kept fun k said there => ?_⟩
          rw [OrderedMap.get?_insert] at there
          split at there
          · next now => rw [now, ← answer, there]
          · exact known k said there

theorem forgetAll_eq (layers : List Realizer) (c : CursorId) :
    forgetAll layers c = layers.map fun layer => layer.forget c := by
  induction layers with
  | nil => rfl
  | cons layer rest ih => rw [forgetAll, ih, List.map_cons]

/-- To forget a cursor changes no answer. -/
theorem Faithful.forget (faithful : r.Faithful) (c : CursorId) : r.Kept (r.forget c) := by
  induction faithful with
  | null => exact ⟨rfl, .null⟩
  | table cursors => exact ⟨rfl, .table cursors⟩
  | @layered layers found each known ih =>
    rw [Realizer.forget, forgetAll_eq]
    refine .layered ?_ ?_ fun k native there => ?_
    · rw [List.map_map]
      exact List.map_congr_left fun layer member => (ih layer member).reading
    · exact List.forall_mem_map.mpr fun layer member => (ih layer member).faithful
    · rw [OrderedMap.get?_erase] at there
      split at there
      · cases there
      · exact known k native there

inductive Call
  | realize (c : CursorId)
  | forget (c : CursorId)

def Call.wanted? : Call → Option CursorId
  | .realize c => some c
  | .forget _ => none

def answers : Realizer → List Call → List (Option HostCursor)
  | _, [] => []
  | r, .realize c :: calls => (r.realize c).2 :: (r.realize c).1.answers calls
  | r, .forget c :: calls => (r.forget c).answers calls

theorem Faithful.answers (faithful : r.Faithful) (calls : List Call) :
    r.answers calls = (calls.filterMap Call.wanted?).map r.reading := by
  induction calls generalizing r with
  | nil => rfl
  | cons call calls ih =>
    cases call with
    | realize c =>
      obtain ⟨answer, kept⟩ := faithful.realize c
      rw [Realizer.answers, ih kept.faithful, answer, kept.reading]
      rfl
    | forget c =>
      have kept := faithful.forget c
      rw [Realizer.answers, ih kept.faithful, kept.reading]
      rfl

/-- A tree of realizers in which nothing is remembered at first answers every call as if nothing ever were: null
with nothing, a table with its entry, and layers with what the first of them says that says anything. -/
theorem answers_without_memory (fresh : r.Fresh) (calls : List Call) :
    r.answers calls = (calls.filterMap Call.wanted?).map r.reading ∧
      (∀ c, Realizer.null.reading c = none) ∧
      (∀ cursors c, (Realizer.table cursors).reading c = cursors.get? c) ∧
      ∀ layers found c, (Realizer.layered layers found).reading c = layers.findSome? fun layer => layer.reading c :=
  ⟨fresh.faithful.answers calls, fun _ => rfl, fun _ _ => rfl, fun layers _ c => firstReading_eq layers c⟩

/-- Layers within layers, both of which remember, and two tables that disagree about a cursor. -/
theorem answers_of_nested_layers :
    let inner := Realizer.layered [.null, .table (.ofList [(⟨7⟩, ⟨17⟩)])] {}
    let r := Realizer.layered [inner, .table (.ofList [(⟨7⟩, ⟨70⟩), (⟨8⟩, ⟨80⟩)])] {}
    let calls := [Call.realize ⟨8⟩, .realize ⟨7⟩, .forget ⟨7⟩, .realize ⟨7⟩, .realize ⟨9⟩, .forget ⟨8⟩, .realize ⟨8⟩]
    r.Fresh ∧ r.answers calls = [some ⟨80⟩, some ⟨17⟩, some ⟨17⟩, none, some ⟨80⟩] := by
  intro inner r calls
  have within : inner.Fresh :=
    .layered (List.forall_mem_cons.mpr ⟨.null, List.forall_mem_singleton.mpr (.table _)⟩)
  have fresh : r.Fresh := .layered (List.forall_mem_cons.mpr ⟨within, List.forall_mem_singleton.mpr (.table _)⟩)
  exact ⟨fresh, (answers_without_memory fresh calls).1.trans (by decide)⟩

end GuestSeat.Realizer
