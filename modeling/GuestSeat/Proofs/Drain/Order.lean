import GuestSeat.Proofs.Clip.Course
import GuestSeat.Proofs.Drain.Handover

/-!
The order of a drain. No event is handed over twice, and one that is left out makes way for a newer
snapshot of the same window or for the raw event that takes in its values. The only events that are
handed over ahead of an older one are those that pass a snapshot.
-/

namespace GuestSeat

/-- Whether one of some later events brings `e` up to date, with none but events that may pass `e`
before it. -/
def Superseded (e : EventRecord) (later : List EventRecord) : Prop :=
  ∃ i f, later[i]? = some f ∧ f.Updates e ∧ ∀ g ∈ later.take i, g.MayPass e

theorem Superseded.cons {e f : EventRecord} {later : List EventRecord} (passes : f.MayPass e)
    (h : Superseded e later) : Superseded e (f :: later) := by
  obtain ⟨i, g, found, updates, between⟩ := h
  refine ⟨i + 1, g, found, updates, ?_⟩
  intro x member
  rw [List.take_succ_cons] at member
  rcases List.mem_cons.mp member with rfl | member
  · exact passes
  · exact between x member

/-- Only snapshots are superseded. -/
theorem not_superseded_of_isPlain {e : EventRecord} {later : List EventRecord} (plain : e.IsPlain) :
    ¬ Superseded e later := by
  rintro ⟨i, f, -, updates, -⟩
  exact updates.1.elim plain.1 plain.2.1

namespace HandsOver

variable {w : Handover} {n : Nat} {rest : List EventRecord} {log : List Handover}

/-- What is handed over is one of the events, at its place. -/
theorem origin (h : HandsOver w n rest log) {d : Handover} (member : d ∈ log) :
    d.place = w.place ∧ d.event.IsFrom w.event ∨
      ∃ i e, rest[i]? = some e ∧ d.place = n + i ∧ d.event.IsFrom e := by
  -- an origin among the events after the first one is an origin among all of them
  have later : ∀ {n : Nat} {e x : EventRecord} {rest : List EventRecord} {d : Handover},
      x.IsFrom e →
      (d.place = n ∧ d.event.IsFrom x ∨
        ∃ i e, rest[i]? = some e ∧ d.place = n + 1 + i ∧ d.event.IsFrom e) →
      ∃ i f, (e :: rest)[i]? = some f ∧ d.place = n + i ∧ d.event.IsFrom f := by
    rintro n e x rest d from_e (⟨place, from_x⟩ | ⟨i, f, found, place, from_f⟩)
    · exact ⟨0, e, rfl, place, from_x.trans from_e⟩
    · exact ⟨i + 1, f, found, by omega, from_f⟩
  have further : ∀ {n : Nat} {e : EventRecord} {rest : List EventRecord} {d : Handover},
      (∃ i f, rest[i]? = some f ∧ d.place = n + 1 + i ∧ d.event.IsFrom f) →
      ∃ i f, (e :: rest)[i]? = some f ∧ d.place = n + i ∧ d.event.IsFrom f := by
    rintro n e rest d ⟨i, f, found, place, from_f⟩
    exact ⟨i + 1, f, found, by omega, from_f⟩
  induction h with
  | last w n =>
      obtain rfl := List.mem_singleton.mp member
      exact Or.inl ⟨rfl, .refl _⟩
  | updated _ _ ih => exact Or.inr (later (.refl _) (ih member))
  | passed _ _ ih =>
      rcases List.mem_cons.mp member with rfl | member
      · exact Or.inr ⟨0, _, rfl, rfl, .refl _⟩
      · exact (ih member).imp_right further
  | addedToNewer _ _ from_e _ ih => exact Or.inr (later from_e (ih member))
  | addedToOlder _ _ from_w _ ih =>
      exact (ih member).imp (fun ⟨place, from_sum⟩ => ⟨place, from_sum.trans from_w⟩) further
  | apart _ ih =>
      rcases List.mem_cons.mp member with rfl | member
      · exact Or.inl ⟨rfl, .refl _⟩
      · exact Or.inr (later (.refl _) (ih member))

theorem place_eq_or_le (h : HandsOver w n rest log) {d : Handover} (member : d ∈ log) :
    d.place = w.place ∨ n ≤ d.place := by
  rcases h.origin member with ⟨place, -⟩ | ⟨i, e, -, place, -⟩
  · exact Or.inl place
  · exact Or.inr (by omega)

/-- No event is handed over twice. -/
theorem nodup (h : HandsOver w n rest log) (before : w.place < n) :
    (log.map Handover.place).Nodup := by
  induction h with
  | last w n => simp
  | updated _ _ ih => exact ih (Nat.lt_succ_self _)
  | passed _ more ih =>
      rw [List.map_cons, List.nodup_cons]
      refine ⟨?_, ih (by omega)⟩
      intro again
      obtain ⟨d, member, place⟩ := List.mem_map.mp again
      have apart := more.place_eq_or_le member
      dsimp only at place
      omega
  | addedToNewer _ _ _ _ ih => exact ih (Nat.lt_succ_self _)
  | addedToOlder _ _ _ _ ih => exact ih (by dsimp only; omega)
  | apart more ih =>
      rw [List.map_cons, List.nodup_cons]
      refine ⟨?_, ih (Nat.lt_succ_self _)⟩
      intro again
      obtain ⟨d, member, place⟩ := List.mem_map.mp again
      have later := more.place_eq_or_le member
      dsimp only at later
      omega

/-- An event that is handed over ahead of an older one may pass it. -/
theorem pairwise (h : HandsOver w n rest log) (before : w.place < n) :
    log.Pairwise fun first second =>
      second.place < first.place → first.event.MayPass second.event := by
  induction h with
  | last w n => exact List.pairwise_singleton _ _
  | updated _ _ ih => exact ih (Nat.lt_succ_self _)
  | @passed w n e rest log passes more ih =>
      rw [List.pairwise_cons]
      refine ⟨?_, ih (by omega)⟩
      intro d member earlier
      dsimp only at earlier
      rcases more.origin member with ⟨-, from_w⟩ | ⟨i, f, -, place, -⟩
      · rw [from_w.eq_of_tag_ne passes.tag_ne_rawMotion]
        exact passes
      · omega
  | addedToNewer _ _ _ _ ih => exact ih (Nat.lt_succ_self _)
  | addedToOlder _ _ _ _ ih => exact ih (by dsimp only; omega)
  | apart more ih =>
      rw [List.pairwise_cons]
      refine ⟨?_, ih (Nat.lt_succ_self _)⟩
      intro d member earlier
      have later := more.place_eq_or_le member
      dsimp only at later
      omega

/-- An event that waits is handed over as it is, unless it is raw motion or superseded. -/
theorem mem_or_superseded (h : HandsOver w n rest log) (other : w.event.tag ≠ .rawMotion) :
    w ∈ log ∨ Superseded w.event rest := by
  induction h with
  | last w n => exact Or.inl (List.mem_singleton_self w)
  | @updated w n e rest log updates _ _ =>
      exact Or.inr ⟨0, e, rfl, updates, by simp⟩
  | passed passes _ ih =>
      rcases ih other with member | superseded
      · exact Or.inl (List.mem_cons_of_mem _ member)
      · exact Or.inr (superseded.cons passes)
  | addedToNewer hw _ _ _ _ => exact absurd hw other
  | addedToOlder hw _ _ _ _ => exact absurd hw other
  | apart _ _ => exact Or.inl List.mem_cons_self

/-- The first event after the one that waits is handed over as it is, unless it is raw motion or
superseded. -/
theorem head_mem_or_superseded {e : EventRecord} (h : HandsOver w n (e :: rest) log)
    (other : e.tag ≠ .rawMotion) : (⟨n, e⟩ : Handover) ∈ log ∨ Superseded e rest := by
  cases h with
  | updated _ more => exact more.mem_or_superseded other
  | passed _ _ => exact Or.inl List.mem_cons_self
  | addedToNewer _ he _ _ => exact absurd he other
  | addedToOlder _ he _ _ => exact absurd he other
  | apart more => exact (more.mem_or_superseded other).imp_left (List.mem_cons_of_mem _)

/-- Once an event has been read, the drain goes on with the events after it. -/
theorem tail {e : EventRecord} (h : HandsOver w n (e :: rest) log) :
    ∃ w' log', HandsOver w' (n + 1) rest log' ∧ log' ⊆ log := by
  cases h with
  | updated _ more => exact ⟨_, _, more, List.Subset.refl _⟩
  | passed _ more => exact ⟨_, _, more, List.subset_cons_self _ _⟩
  | addedToNewer _ _ _ more => exact ⟨_, _, more, List.Subset.refl _⟩
  | addedToOlder _ _ _ more => exact ⟨_, _, more, List.Subset.refl _⟩
  | apart more => exact ⟨_, _, more, List.subset_cons_self _ _⟩

/-- Every event after the one that waits is handed over as it is, unless it is raw motion or
superseded. -/
theorem getElem_mem_or_superseded (h : HandsOver w n rest log) {i : Nat} {e : EventRecord}
    (found : rest[i]? = some e) (other : e.tag ≠ .rawMotion) :
    (⟨n + i, e⟩ : Handover) ∈ log ∨ Superseded e (rest.drop (i + 1)) := by
  induction rest generalizing w n log i with
  | nil => simp at found
  | cons f rest ih =>
      cases i with
      | zero =>
          cases found
          exact h.head_mem_or_superseded other
      | succ i =>
          obtain ⟨w', log', more, within⟩ := h.tail
          have later := ih more found
          rw [Nat.add_right_comm n 1 i] at later
          exact later.imp_left fun member => within member

end HandsOver

namespace Scene

variable (s : Scene)

/-- A drain of no events hands over nothing, and any other goes on from the first event. -/
theorem handoversOf_cases (events : List EventRecord) :
    events = [] ∧ s.handoversOf events = [] ∨
      ∃ e rest, events = e :: rest ∧ HandsOver ⟨0, e⟩ 1 rest (s.handoversOf events) := by
  cases events with
  | nil => exact Or.inl ⟨rfl, rfl⟩
  | cons e rest => exact Or.inr ⟨e, rest, rfl, s.handsOver_handoversAfter ⟨0, e⟩ 1 rest⟩

theorem nodup_handoversOf (events : List EventRecord) :
    ((s.handoversOf events).map Handover.place).Nodup := by
  rcases s.handoversOf_cases events with ⟨-, none⟩ | ⟨e, rest, -, some⟩
  · rw [none]
    exact List.nodup_nil
  · exact some.nodup Nat.zero_lt_one

theorem pairwise_handoversOf (events : List EventRecord) :
    (s.handoversOf events).Pairwise fun first second =>
      second.place < first.place → first.event.MayPass second.event := by
  rcases s.handoversOf_cases events with ⟨-, none⟩ | ⟨e, rest, -, some⟩
  · rw [none]
    exact List.Pairwise.nil
  · exact some.pairwise Nat.zero_lt_one

theorem origin_of_mem_handoversOf {events : List EventRecord} {d : Handover}
    (member : d ∈ s.handoversOf events) : ∃ e, events[d.place]? = some e ∧ d.event.IsFrom e := by
  rcases s.handoversOf_cases events with ⟨-, none⟩ | ⟨e, rest, rfl, some⟩
  · rw [none] at member
    cases member
  · rcases some.origin member with ⟨place, from_e⟩ | ⟨i, f, found, place, from_f⟩
    · exact ⟨e, by rw [place]; rfl, from_e⟩
    · refine ⟨f, ?_, from_f⟩
      rw [place, Nat.add_comm 1 i, List.getElem?_cons_succ]
      exact found

/-- Every event of a drain is handed over as it is, unless it is raw motion or superseded. -/
theorem mem_handoversOf_or_superseded {events : List EventRecord} {i : Nat} {e : EventRecord}
    (found : events[i]? = some e) (other : e.tag ≠ .rawMotion) :
    (⟨i, e⟩ : Handover) ∈ s.handoversOf events ∨ Superseded e (events.drop (i + 1)) := by
  rcases s.handoversOf_cases events with ⟨rfl, -⟩ | ⟨f, rest, rfl, some⟩
  · simp at found
  · cases i with
    | zero =>
        cases found
        exact some.mem_or_superseded other
    | succ i =>
        have later := some.getElem_mem_or_superseded found other
        rwa [Nat.add_comm 1 i] at later

end Scene

end GuestSeat
