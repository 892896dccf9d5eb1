import GuestSeat.Proofs.Drain.Order
import GuestSeat.Proofs.Drain.Pulling

/-!
What a drain does to the queue of host events, in full: the events that it was not asked for stay, every
other one is handed to its handler once or makes way for one that is, and no more of the order changes
than the merging of snapshots asks for.
-/

namespace GuestSeat

/-- Whether an event tells of the geometry of a host window, or of the place of the pointer in it. -/
def EventRecord.IsSnapshot (e : EventRecord) : Prop := e.tag = .configure ∨ e.tag = .motion

theorem EventRecord.IsSnapshot.tag_ne_rawMotion {e : EventRecord} (h : e.IsSnapshot) :
    e.tag ≠ .rawMotion := by
  intro raw
  rcases h with tag | tag <;> rw [raw] at tag <;> cases tag

/-- A snapshot that is superseded by events further on in a list, in terms of places. -/
theorem Superseded.exists_later {e : EventRecord} {events : List EventRecord} {i : Nat}
    (h : Superseded e (events.drop (i + 1))) :
    ∃ j f, i < j ∧ events[j]? = some f ∧ f.Updates e ∧
      ∀ k g, i < k → k < j → events[k]? = some g → g.MayPass e := by
  obtain ⟨m, f, found, updates, between⟩ := h
  rw [List.getElem?_drop] at found
  refine ⟨i + 1 + m, f, by omega, found, updates, ?_⟩
  intro k g after before present
  refine between g (List.mem_iff_getElem?.mpr ⟨k - (i + 1), ?_⟩)
  rw [List.getElem?_take_of_lt (by omega), List.getElem?_drop]
  have place : i + 1 + (k - (i + 1)) = k := by omega
  rwa [place]

/-- The handovers at a place are no more than the one that is known. -/
theorem filter_place_eq {log : List Handover} (once : (log.map Handover.place).Nodup) {d : Handover}
    (member : d ∈ log) : log.filter (fun other => other.place = d.place) = [d] := by
  induction log with
  | nil => cases member
  | cons first rest ih =>
      rw [List.map_cons, List.nodup_cons] at once
      have others : ∀ other ∈ rest, other.place ≠ first.place :=
        fun other there same => once.1 (List.mem_map.mpr ⟨other, there, same⟩)
      rcases List.mem_cons.mp member with rfl | later
      · rw [List.filter_cons_of_pos (by simp)]
        refine congrArg (d :: ·) (List.filter_eq_nil_iff.mpr ?_)
        simpa using others
      · rw [List.filter_cons_of_neg (by simpa using (others d later).symm)]
        exact ih once.2 later

namespace Scene

variable (s : Scene) (mask : QueueMask)

/-- The events that a drain was not asked for are in the queue afterwards, and no others. -/
theorem queue_drain : (s.drain mask).1.env.queue = s.rejected mask := by
  let anything : Permit := { rect := fun _ => True, silence := True }
  obtain ⟨-, ground⟩ := s.drain_doings (L := anything.lax) mask trivial trivial
  exact congrArg Ground.queue ground

/-- A drain loses, repeats and reorders nothing that it must not. Taking the events that it was asked
for out of the queue one at a time, it comes to an end, and to handling some of them one after the
other: each as it is but for the values of raw motion, and none twice. All that are no snapshots and no
raw motion are among them, and one is handled ahead of an older one only to pass a snapshot. All other
events stay in the queue. -/
theorem drain_exact :
    (∀ result, Intake.Pulls mask { scene := s } result ↔ result = s.drain mask) ∧
      s.drain mask = s.handleAll mask (s.handovers mask) ∧
      (s.drain mask).1.env.queue = s.env.queue.filter (fun event => !event.matchesMask mask) ∧
      ((s.handovers mask).map Handover.place).Nodup ∧
      (∀ d ∈ s.handovers mask, ∃ e, (s.accepted mask)[d.place]? = some e ∧ d.event.IsFrom e) ∧
      (∀ i e, (s.accepted mask)[i]? = some e → e.IsPlain →
        (s.handovers mask).filter (fun d => d.place = i) = [⟨i, e⟩]) ∧
      (s.handovers mask).Pairwise fun first second =>
        second.place < first.place → first.event.MayPass second.event := by
  have once := (s.withQueue (s.rejected mask)).nodup_handoversOf (s.accepted mask)
  refine ⟨s.pulls_iff mask, s.drain_eq_handleAll mask, s.queue_drain mask, once, ?origin, ?plain,
    ?order⟩
  case origin =>
    intro d member
    exact origin_of_mem_handoversOf _ member
  case plain =>
    intro i e found plain
    rcases mem_handoversOf_or_superseded _ found plain.2.2 with member | superseded
    · exact filter_place_eq once member
    · exact absurd superseded (not_superseded_of_isPlain plain)
  case order => exact pairwise_handoversOf _ _

/-- A drain drops a snapshot only for a newer one of the same window, and only if all events between the
two may pass it. So the last snapshot of every window is handled, and those of a window that are handled
are handled in order. -/
theorem drain_keeps_newest_snapshots :
    s.drain mask = s.handleAll mask (s.handovers mask) ∧
      (∀ d ∈ s.handovers mask, ∃ e, (s.accepted mask)[d.place]? = some e ∧ d.event.IsFrom e) ∧
      (∀ i e, (s.accepted mask)[i]? = some e → e.IsSnapshot →
        (⟨i, e⟩ : Handover) ∉ s.handovers mask →
          ∃ j f, i < j ∧ (s.accepted mask)[j]? = some f ∧ f.Updates e ∧
            ∀ k g, i < k → k < j → (s.accepted mask)[k]? = some g → g.MayPass e) ∧
      (∀ i e, (s.accepted mask)[i]? = some e → e.IsSnapshot →
        (∀ j f, i < j → (s.accepted mask)[j]? = some f → ¬ f.Updates e) →
          (⟨i, e⟩ : Handover) ∈ s.handovers mask) ∧
      (s.handovers mask).Pairwise fun first second =>
        first.event.IsSnapshot → second.event.tag = first.event.tag →
          second.event.window = first.event.window → first.place < second.place := by
  have found_or : ∀ i e, (s.accepted mask)[i]? = some e → e.IsSnapshot →
      (⟨i, e⟩ : Handover) ∈ s.handovers mask ∨ Superseded e ((s.accepted mask).drop (i + 1)) :=
    fun i e found snapshot => mem_handoversOf_or_superseded _ found snapshot.tag_ne_rawMotion
  refine ⟨s.drain_eq_handleAll mask, ?origin, ?dropped, ?last, ?order⟩
  case origin =>
    intro d member
    exact origin_of_mem_handoversOf _ member
  case dropped =>
    intro i e found snapshot missing
    rcases found_or i e found snapshot with member | superseded
    · exact absurd member missing
    · exact superseded.exists_later
  case last =>
    intro i e found snapshot newest
    rcases found_or i e found snapshot with member | superseded
    · exact member
    · obtain ⟨j, f, after, later, updates, -⟩ := superseded.exists_later
      exact absurd updates (newest j f after later)
  case order =>
    have once := List.pairwise_map.mp
      ((s.withQueue (s.rejected mask)).nodup_handoversOf (s.accepted mask))
    have order := (s.withQueue (s.rejected mask)).pairwise_handoversOf (s.accepted mask)
    apply (once.and order).imp
    intro first second ⟨apart, passing⟩ snapshot tag window
    -- a snapshot passes no snapshot, so the one that comes first is the older one
    have inOrder : ¬ second.place < first.place := fun ahead =>
      (passing ahead).not_updates ⟨snapshot, tag, window⟩
    omega

end Scene

end GuestSeat
