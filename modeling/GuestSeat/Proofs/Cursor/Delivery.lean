import GuestSeat.Proofs.Cursor.Change

/-!
A cursor that is chosen and the message that brings it to the window under the pointer. A choice leaves
it to the message that the window shows the cursor; the message shows the cursor that it carries. Messages
come in the order in which they were posted, so that the last one for a window decides what it shows.
-/

namespace GuestSeat

def firstCarried? : List Delivered → Option ((Handle × Option CursorId) × List Delivered)
  | [] => none
  | d :: rest =>
    match d.carried? with
    | some p => some (p, rest)
    | none => (firstCarried? rest).map fun (p, left) => (p, d :: left)

theorem carried_of_first {messages left : List Delivered} {p : Handle × Option CursorId}
    (first : firstCarried? messages = some (p, left)) :
    messages.filterMap Delivered.carried? = p :: left.filterMap Delivered.carried? := by
  induction messages generalizing left with
  | nil => cases first
  | cons d rest ih =>
      unfold firstCarried? at first
      cases hd : d.carried? with
      | some q =>
          rw [hd] at first
          cases first
          exact List.filterMap_cons_some hd
      | none =>
          rw [hd] at first
          obtain ⟨⟨q, more⟩, found, eq⟩ := Option.map_eq_some_iff.mp first
          cases eq
          rw [List.filterMap_cons_none hd, List.filterMap_cons_none hd]
          exact ih found

namespace View

variable {cursors : OrderedMap CursorId HostCursor} {n : Nat} {v : View} {w : HostWindow}

def choosing (v : View) (tracker : CursorTracker) (told : List (Handle × Option CursorId)) : View :=
  { v with tracker, carried := v.carried ++ told }

def delivered (v : View) (p : Handle × Option CursorId) (rest : List (Handle × Option CursorId)) :
    View :=
  match v.surfaceOf p.1 with
  | none => { v with carried := rest }
  | some w => { v.display fun d => d.showing w p.2 with carried := rest }

theorem Tidy.choosing (h : v.Tidy cursors n) (tracker : CursorTracker)
    {told : List (Handle × Option CursorId)} (known : ∀ p ∈ told, v.hosts p.1 ≠ none) :
    (v.choosing tracker told).Tidy cursors n := by
  refine { h with carried := fun p member => ?_ }
  rcases List.mem_append.mp member with old | new
  · exact h.carried p old
  · exact h.known p.1 (known p new)

/-- The window that is told of a choice is in step. -/
theorem inStep_told {tracker : CursorTracker} (hovers : v.under = some w) :
    (v.choosing tracker [(v.tracker.window, tracker.cursor)]).InStep w := by
  have bound : (v.choosing tracker [(v.tracker.window, tracker.cursor)]).bound w =
      v.bound w ++ [(v.tracker.window, tracker.cursor)] := by
    have here : v.surfaceOf v.tracker.window = some w := hovers
    change (v.carried ++ _).filter (fun p => v.surfaceOf p.1 = some w) = _
    rw [List.filter_append, List.filter_singleton]
    simp [View.bound, here]
  refine ⟨fun p last => ?_, fun none => ?_⟩
  · rw [bound, List.getLast?_concat] at last
    cases last
    rfl
  · rw [bound] at none
    exact absurd none (List.append_ne_nil_of_right_ne_nil _ (List.cons_ne_nil _ _))

theorem KeepsStep.inStep (hs : v.KeepsStep w) (hv : v.Tidy cursors n) (hovers : v.under = some w) :
    v.InStep w := by
  rcases hs with step | ⟨free, rfl⟩
  · exact step
  · exact absurd (by simpa [under, surfaceOf, free] using hovers) (hv.host_ne v.tracker.window)

theorem Tidy.delivered (h : v.Tidy cursors n) {p : Handle × Option CursorId}
    {rest : List (Handle × Option CursorId)} (carried : v.carried = p :: rest) :
    (v.delivered p rest).Tidy cursors n := by
  have fewer : ∀ q ∈ rest, q.1.id.toNat < v.nextHandle.toNat := fun q member =>
    h.carried q (by rw [carried]; exact List.mem_cons_of_mem p member)
  unfold View.delivered
  split
  · exact { h with carried := fewer }
  · exact { h with table := Display.realizer_showing h.table .., carried := fewer }

variable {p : Handle × Option CursorId} {rest : List (Handle × Option CursorId)}

theorem bound_of_delivered (carried : v.carried = p :: rest) (w : HostWindow) :
    v.bound w = (if v.surfaceOf p.1 = some w then [p] else []) ++ (v.delivered p rest).bound w := by
  have left : (v.delivered p rest).bound w = rest.filter fun q => v.surfaceOf q.1 = some w := by
    unfold View.delivered
    split <;> rfl
  rw [left, View.bound, carried]
  by_cases here : v.surfaceOf p.1 = some w <;> simp [here]

theorem cursor_delivered (v : View) (p : Handle × Option CursorId) (rest : List (Handle × Option CursorId)) :
    (v.delivered p rest).tracker.cursor = v.tracker.cursor := by
  unfold View.delivered
  split
  · rfl
  · exact congrArg CursorTracker.cursor (Display.tracker_showing ..)

theorem shows_delivered (table : v.realizer = .table cursors) (p : Handle × Option CursorId)
    (rest : List (Handle × Option CursorId)) (w : HostWindow) :
    (v.delivered p rest).Shows w ↔
      if v.surfaceOf p.1 = some w then v.native p.2 = v.native v.tracker.cursor else v.Shows w := by
  unfold View.delivered
  cases target : v.surfaceOf p.1 with
  | none => rfl
  | some k =>
      refine (Display.shows_showing table k w p.2).trans ?_
      simp only [Option.some.injEq, eq_comm (a := k)]

theorem under_delivered (v : View) (p : Handle × Option CursorId)
    (rest : List (Handle × Option CursorId)) : (v.delivered p rest).under = v.under := by
  unfold View.delivered
  split
  · rfl
  · exact congrArg (fun tracker : CursorTracker => v.surfaceOf tracker.window) (Display.tracker_showing ..)

/-- A message that is delivered takes no window out of step. -/
theorem InStep.delivered (hs : v.InStep w) (table : v.realizer = .table cursors)
    (carried : v.carried = p :: rest) : (v.delivered p rest).InStep w := by
  have bound := bound_of_delivered carried w
  have cursor := v.cursor_delivered p rest
  have shows := shows_delivered table p rest w
  by_cases here : v.surfaceOf p.1 = some w
  · rw [if_pos here] at bound shows
    refine ⟨fun q last => ?_, fun none => shows.mpr ?_⟩
    · -- the messages after it still decide
      refine (hs.coming q ?_).trans cursor.symm
      rw [bound, List.getLast?_append, last]
      rfl
    · have last : (v.bound w).getLast? = some p := by
        rw [bound, none]
        rfl
      rw [hs.coming p last]
  · rw [if_neg here, List.nil_append] at bound
    rw [if_neg here] at shows
    exact hs.congr bound.symm cursor shows.mpr

theorem KeepsStep.delivered (hs : v.KeepsStep w) (table : v.realizer = .table cursors)
    (carried : v.carried = p :: rest) : (v.delivered p rest).KeepsStep w := by
  refine hs.imp (fun step => step.delivered table carried) fun hovers => ?_
  unfold View.delivered
  split <;> exact hovers

end View

namespace Scene

variable (s : Scene)

theorem contains_eq_hosts (h : Handle) : s.env.windows.contains h = (s.view.hosts h).isSome := by
  simp [OrderedMap.contains, view, Face.view, Face.hosts, face]

theorem face_tell_cursor (h : Handle) (cursor : Option CursorId) :
    (s.tell h (.setCursor cursor)).face =
      { s.face with
        carried := s.face.carried ++
          if h.isNull || !s.env.windows.contains h then [] else [(h, cursor)] } := by
  simp only [tell, act, Environment.tell, Environment.post, Environment.deliver]
  cases lost : h.isNull || !s.env.windows.contains h with
  | true => simp
  | false =>
      simp [face, display, Environment.note, Environment.outlook, HostRequest.shown?,
        Delivered.carried?]

/-- The window under the pointer is told of a choice that changes the cursor, if it is there. -/
theorem view_setCursor (cursor : Option CursorId) : ∃ tracker told,
    (s.setCursor cursor).view = s.view.choosing tracker told ∧
      tracker.window = s.seat.tracker.window ∧ tracker.cursor = CursorTracker.choice cursor ∧
      (told = [(s.seat.tracker.window, cursor)] ∧ s.view.hosts s.seat.tracker.window ≠ none ∨
        told = [] ∧ (tracker.cursor = s.seat.tracker.cursor ∨ s.seat.tracker.window.isNull = true ∨
          s.view.hosts s.seat.tracker.window = none)) := by
  let chosen := s.seat.tracker.choose cursor s.env.tick s.cursorInterval
  let after : Scene := { s with seat := { s.seat with tracker := chosen.1 } }
  have window : chosen.1.window = s.seat.tracker.window := by
    simp only [chosen, CursorTracker.choose, CursorTracker.renew]
    split <;> rfl
  have value : chosen.1.cursor = CursorTracker.choice cursor := by
    simp only [chosen, CursorTracker.choose, CursorTracker.renew]
    split <;> rfl
  have kept : chosen.2 = false → chosen.1.cursor = s.seat.tracker.cursor := by
    simp only [chosen, CursorTracker.choose, CursorTracker.renew]
    split
    · exact nofun
    · next same =>
        intro _
        simp only [Bool.or_eq_true, bne_iff_ne, ne_eq, decide_eq_true_eq, not_or, not_not] at same
        exact same.1.symm
  have eq : s.setCursor cursor = if chosen.2 && !chosen.1.window.isNull
      then after.tell chosen.1.window (.setCursor cursor) else after := rfl
  rw [eq]
  split
  · next telling =>
      have face := after.face_tell_cursor chosen.1.window cursor
      have told : ∀ sent, (after.tell chosen.1.window (.setCursor cursor)).face =
          { after.face with carried := after.face.carried ++ sent } →
          (after.tell chosen.1.window (.setCursor cursor)).view = s.view.choosing chosen.1 sent := by
        intro sent face
        rw [view, face]
        rfl
      have known := after.contains_eq_hosts chosen.1.window
      cases there : after.env.windows.contains chosen.1.window with
      | false =>
          rw [there, Bool.not_false, Bool.or_true, if_pos rfl] at face
          rw [there, window] at known
          refine ⟨chosen.1, [], told [] face, window, value, Or.inr ⟨rfl, Or.inr (Or.inr ?_)⟩⟩
          exact Option.isNone_iff_eq_none.mp (Option.isSome_eq_false_iff.mp known.symm)
      | true =>
          have named : chosen.1.window.isNull = false := by simpa using (Bool.and_eq_true_iff.mp telling).2
          rw [there, named, Bool.not_true, Bool.or_self, if_neg Bool.false_ne_true] at face
          rw [there] at known
          rw [window] at known
          refine ⟨chosen.1, _, told _ face, window, value, Or.inl ⟨by rw [window], ?_⟩⟩
          exact Option.isSome_iff_ne_none.mp known.symm
  · next silent =>
      refine ⟨chosen.1, [], ?_, window, value, Or.inr ⟨rfl, ?_⟩⟩
      · rw [View.choosing, List.append_nil]
        rfl
      · rw [← window]
        cases renewed : chosen.2 with
        | false => exact Or.inl (kept renewed)
        | true => exact Or.inr (Or.inl (by simpa [renewed] using silent))

/-- The scene after a message with a cursor was delivered. -/
def deliverCarried (p : Handle × Option CursorId) (left : List Delivered) : Scene :=
  (({ s with env := s.env.note fun j => { j with messages := left } } : Scene).driverMessage p.1
    (.setCursor p.2)).1

/-- The delivery of a message with a cursor, on the view. -/
theorem view_deliverCarried {p : Handle × Option CursorId} {left : List Delivered}
    (surfaced : s.Surfaced) (named : s.view.capture ≠ some Handle.null) :
    (s.deliverCarried p left).view =
      s.view.delivered p (left.filterMap Delivered.carried?) := by
  let during : Scene := { s with env := s.env.note fun j => { j with messages := left } }
  have target : during.cursorSurface? p.1 = s.view.surfaceOf p.1 :=
    cursorSurface?_eq (s := during) surfaced named p.1
  change (during.defineCursor p.1 p.2).view = _
  unfold defineCursor View.delivered
  rw [target]
  cases s.view.surfaceOf p.1 with
  | none => rfl
  | some w =>
      change (during.showCursor w p.2).view = _
      rw [view, face_showCursor, (during.quiet_showCursor w p.2).clip, Face.view_display]
      rfl

end Scene

end GuestSeat
