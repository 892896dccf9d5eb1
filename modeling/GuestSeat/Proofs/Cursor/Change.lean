import GuestSeat.Proofs.Cursor.View

/-!
What a deed does to the cursor that is seen. There are six things that a deed can do to a view, and only
one of them can leave the window under the pointer with a cursor that is not the current one: a clip that
is in force already gets another rectangle, and the pointer is taken to be over its capture window again
without the cursor being shown there.
-/

namespace GuestSeat

open Environment (desktop)

namespace View

variable {L : Licence} {cursors : OrderedMap CursorId HostCursor} {m n : Nat} {start v v' : View}
  {w : HostWindow}

structure Tidy (cursors : OrderedMap CursorId HostCursor) (n : Nat) (v : View) : Prop where
  table : v.realizer = .table cursors
  past : desktop.id.toNat < v.nextHandle.toNat
  room : v.nextHandle.toNat + 2 * n < UInt64.size
  known : ∀ h, v.hosts h ≠ none → h.id.toNat < v.nextHandle.toNat
  carried : ∀ p ∈ v.carried, p.1.id.toNat < v.nextHandle.toNat
  named : (v.hosts Handle.null).join = none
  found : ∀ w h, v.lookup w = some h → v.hosts h = some (some w)
  apart : ∀ h, v.hosts h ≠ some (some v.surface)
  stands : ∀ h, v.capture = some h → v.hosts h = some none ∧ desktop.id.toNat < h.id.toNat

def opening (v : View) : View :=
  { v.display fun d => d.captured false v.surface v.fresh with
    hosts := Function.update v.hosts v.fresh (some none)
    nextHandle := v.next
    capture := some v.fresh }

def ending (v : View) (h : Handle) : View :=
  { v with hosts := Function.update v.hosts h none, capture := none }

theorem hosts_opening (v : View) :
    v.opening.hosts = Function.update v.hosts v.fresh (some none) := rfl

theorem hosts_ending (v : View) (h : Handle) :
    (v.ending h).hosts = Function.update v.hosts h none := rfl

inductive Change (L : Licence) : Nat → View → View → Prop
  | same {n : Nat} {v : View} : Change L n v v
  | visited {n : Nat} {v : View} (now interval : Nat) (h : Handle)
      (may : L.roams ∨ v.capture = some h) :
      Change L n v (v.display fun d => d.visiting now interval h (v.surfaceOf h))
  /-- A handle was given out for a window that is gone again. -/
  | declined {n : Nat} {v : View} (free : v.capture = none) :
      Change L (n + 1) v { v with nextHandle := v.next }
  | opened {n : Nat} {v : View} (free : v.capture = none) :
      Change L (n + 1) v v.opening
  | moved {n : Nat} {v : View} (h : Handle) (held : v.capture = some h) (may : L.asked ∨ L.direct) :
      Change L n v (v.display fun d => d.above h)
  | ended {n : Nat} {v : View} (h : Handle) (held : v.capture = some h) :
      Change L n v (v.ending h)

namespace Tidy

theorem mono (h : v.Tidy cursors (m + n)) : v.Tidy cursors n :=
  { h with room := by have := h.room; omega }

theorem display (h : v.Tidy cursors n) {g : Display → Display}
    (table : (g v.toDisplay).realizer = .table cursors) : (v.display g).Tidy cursors n :=
  { h with table }

theorem hosts_fresh (h : v.Tidy cursors n) : v.hosts v.fresh = none := by
  by_contra known
  exact Nat.lt_irrefl _ (h.known v.fresh known)

theorem next (h : v.Tidy cursors (n + 1)) : v.next.toNat = v.nextHandle.toNat + 2 :=
  toNat_counterAfter (by have := h.room; omega)

/-- More handles may be given out. -/
theorem grow (h : v.Tidy cursors m) {next : UInt64} (grown : v.nextHandle.toNat ≤ next.toNat)
    (room : next.toNat + 2 * n < UInt64.size) :
    ({ v with nextHandle := next } : View).Tidy cursors n :=
  { h with
    past := Nat.lt_of_lt_of_le h.past grown
    room := room
    known := fun k present => Nat.lt_of_lt_of_le (h.known k present) grown
    carried := fun p member => Nat.lt_of_lt_of_le (h.carried p member) grown }

theorem named_capture (h : v.Tidy cursors n) : v.capture ≠ some Handle.null := by
  intro null
  exact Nat.not_lt_zero _ (h.stands _ null).2

theorem ending (h : v.Tidy cursors n) {k : Handle} (held : v.capture = some k) :
    (v.ending k).Tidy cursors n := by
  have bare := (h.stands k held).1
  refine { h with known := ?_, named := ?_, found := ?_, apart := ?_, stands := nofun }
  · intro j present
    refine h.known j fun absent => present ?_
    rw [hosts_ending, Function.update_apply]
    split
    · rfl
    · exact absent
  · rw [hosts_ending, Function.update_apply]
    split
    · rfl
    · exact h.named
  · intro w j found
    have other : j ≠ k := by
      rintro rfl
      simp [h.found w j found] at bare
    rw [hosts_ending, Function.update_of_ne other]
    exact h.found w j found
  · intro j
    rw [hosts_ending, Function.update_apply]
    split
    · exact nofun
    · exact h.apart j

theorem opening (h : v.Tidy cursors (n + 1)) : v.opening.Tidy cursors n := by
  have spent := h.next
  have grown : v.nextHandle.toNat ≤ v.next.toNat := by omega
  refine {
    table := Display.realizer_showing h.table ..
    past := Nat.lt_of_lt_of_le h.past grown
    room := by
      have := h.room
      change v.next.toNat + 2 * n < _
      omega
    known := ?_
    carried := fun p member => Nat.lt_of_lt_of_le (h.carried p member) grown
    named := ?_, found := ?_, apart := ?_, stands := ?_ }
  · intro j present
    by_cases new : j = v.fresh
    · rw [new]
      change v.nextHandle.toNat < v.next.toNat
      omega
    · rw [hosts_opening, Function.update_of_ne new] at present
      exact Nat.lt_of_lt_of_le (h.known j present) grown
  · rw [hosts_opening, Function.update_apply]
    split
    · rfl
    · exact h.named
  · intro w j found
    have other : j ≠ v.fresh := by
      rintro rfl
      have host := h.found w _ found
      rw [h.hosts_fresh] at host
      cases host
    rw [hosts_opening, Function.update_of_ne other]
    exact h.found w j found
  · intro j
    rw [hosts_opening, Function.update_apply]
    split
    · exact nofun
    · exact h.apart j
  · rintro j new
    cases new
    exact ⟨Function.update_self .., h.past⟩

end Tidy

theorem Change.tidy (h : Change L m v v') (hv : v.Tidy cursors (m + n)) : v'.Tidy cursors n := by
  cases h with
  | same => exact hv.mono
  | visited now interval h =>
      exact hv.mono.display (Display.realizer_visiting hv.table now interval h (v.surfaceOf h))
  | @declined n' =>
      have roomy : v.Tidy cursors (n' + n + 1) := by rwa [Nat.add_right_comm] at hv
      have spent := roomy.next
      exact roomy.grow (by omega) (by have := roomy.room; omega)
  | @opened n' =>
      have roomy : v.Tidy cursors (n' + n + 1) := by rwa [Nat.add_right_comm] at hv
      exact roomy.opening.mono
  | moved h => exact hv.mono.display hv.table
  | ended h held => exact hv.mono.ending held

/-- The window that stands for the clip shows its cursor on the capture surface. -/
theorem surfaceOf_capture {h : Handle} (held : v.capture = some h) : v.surfaceOf h = some v.surface := by
  simp [surfaceOf, held]

theorem surfaceOf_of_ne {h k : Handle} (held : v.capture = some h) (other : k ≠ h) :
    v.surfaceOf k = (v.hosts k).join := by
  simp [surfaceOf, held, Ne.symm other]

/-- No window of the guest has the capture surface for its host window. -/
theorem Tidy.host_ne (hv : v.Tidy cursors n) (k : Handle) : (v.hosts k).join ≠ some v.surface :=
  fun same => hv.apart k (Option.join_eq_some_iff.mp same)

theorem visited_cursor (v : View) (now interval : Nat) (h : Handle) :
    (v.display fun d => d.visiting now interval h (v.surfaceOf h)).tracker.cursor = v.tracker.cursor := by
  obtain ⟨tracker, -, cursor, ⟨visited, -⟩ | ⟨shown, -, visited⟩⟩ :=
    v.toDisplay.visiting_cases now interval h (v.surfaceOf h)
  · simp only [display, visited]
    exact cursor
  · simp only [display, visited, Display.tracker_showing]
    exact cursor

/-- A visit shows a window the current cursor if it shows it anything. -/
theorem visited_shows (table : v.realizer = .table cursors) (now interval : Nat) (h : Handle)
    (shows : v.Shows w) : (v.display fun d => d.visiting now interval h (v.surfaceOf h)).Shows w := by
  obtain ⟨tracker, -, cursor, ⟨visited, -⟩ | ⟨shown, -, visited⟩⟩ :=
    v.toDisplay.visiting_cases now interval h (v.surfaceOf h)
  · simp only [display, visited]
    rw [Display.Shows, Display.native, cursor]
    exact shows
  · simp only [display, visited]
    refine (Display.shows_showing (d := { v.toDisplay with tracker }) table shown w v.tracker.cursor).mpr ?_
    split
    · exact congrArg _ cursor.symm
    · rw [Display.Shows, Display.native, cursor]
      exact shows

/-- A new clip shows the current cursor on its surface, and no cursor is on its way there. -/
theorem inStep_opening (hv : v.Tidy cursors n) (free : v.capture = none)
    (hs : w ≠ v.surface → v.InStep w) : v.opening.InStep w := by
  have before : ∀ p ∈ v.carried, v.opening.surfaceOf p.1 = v.surfaceOf p.1 := by
    intro p member
    have old : p.1 ≠ v.fresh := by
      intro new
      exact Nat.lt_irrefl _ (new ▸ hv.carried p member)
    rw [surfaceOf_of_ne (v := v.opening) rfl old, hosts_opening, Function.update_of_ne old]
    simp [surfaceOf, free]
  have bound : v.opening.bound w = v.bound w :=
    bound_congr rfl fun p member => by rw [before p member]
  have shows := Display.shows_showing hv.table v.surface w v.tracker.cursor
  by_cases same : w = v.surface
  · have none : v.bound w = [] := by
      refine List.filter_eq_nil_iff.mpr fun p _ => ?_
      have other := hv.host_ne p.1
      simpa [surfaceOf, free, same] using other
    refine ⟨fun p last => ?_, fun _ => shows.mpr (by rw [if_pos same])⟩
    rw [bound, none] at last
    cases last
  · have cursor : v.opening.tracker.cursor = v.tracker.cursor := by
      change (v.showing v.surface v.tracker.cursor).tracker.cursor = _
      rw [Display.tracker_showing]
    exact (hs same).congr bound cursor fun current => shows.mpr (by rwa [if_neg same])

/-- The end of a clip is none of the business of any window but its surface. -/
theorem InStep.ending (hs : v.InStep w) {h : Handle} (held : v.capture = some h) (other : w ≠ v.surface) :
    (v.ending h).InStep w := by
  refine hs.congr (bound_congr rfl fun p _ => ?_) rfl id
  by_cases gone : p.1 = h
  · rw [gone, surfaceOf_capture held]
    simp [surfaceOf, View.ending, Ne.symm other]
  · rw [surfaceOf_of_ne held gone]
    simp [surfaceOf, View.ending, Function.update_of_ne gone]

def KeepsStep (v : View) (w : HostWindow) : Prop := v.InStep w ∨ v.capture = none ∧ w = v.surface

/-- No deed takes a window out of step. -/
theorem Change.keepsStep (h : Change L m v v') (hv : v.Tidy cursors n) (hs : v.KeepsStep w) :
    v'.KeepsStep w := by
  cases h with
  | same => exact hs
  | visited now interval h =>
      exact hs.imp_left fun step => step.congr rfl (v.visited_cursor now interval h)
        (visited_shows hv.table now interval h)
  | declined => exact hs.imp_left fun step => step.congr rfl rfl id
  | opened free =>
      refine Or.inl (inStep_opening hv free fun other => hs.resolve_right ?_)
      exact fun hovers => other hovers.2
  | moved h => exact hs.imp_left fun step => step.congr rfl rfl id
  | ended h held =>
      by_cases surface : w = v.surface
      · exact Or.inr ⟨rfl, surface⟩
      · exact Or.inl ((hs.resolve_right fun hovers => surface hovers.2).ending held surface)

/-- The pointer was over a host window before, or the window shows the current cursor. -/
def Reached (start v : View) (w : HostWindow) : Prop := start.under = some w ∨ v.Shows w

def Greeted (start v : View) : Prop := ∀ w, v.under = some w → Reached start v w

theorem Greeted.refl (v : View) : Greeted v v := fun _ hovers => Or.inl hovers

theorem Greeted.visited (hg : Greeted start v) (table : v.realizer = .table cursors) (now interval : Nat)
    (h : Handle) : Greeted start (v.display fun d => d.visiting now interval h (v.surfaceOf h)) := by
  obtain ⟨tracker, window, cursor, ⟨visited, stayed⟩ | ⟨shown, host, visited⟩⟩ :=
    v.toDisplay.visiting_cases now interval h (v.surfaceOf h)
  · intro w hovers
    simp only [under, View.display, visited] at hovers
    change v.surfaceOf tracker.window = some w at hovers
    rw [window] at hovers
    have there : v.tracker.window = h := stayed.resolve_right (by simp [hovers])
    exact (hg w (by rw [under, there]; exact hovers)).imp_right (visited_shows table now interval h)
  · intro w hovers
    simp only [under, View.display, visited] at hovers ⊢
    rw [Display.tracker_showing] at hovers
    change v.surfaceOf tracker.window = some w at hovers
    rw [window, host] at hovers
    refine Or.inr ((Display.shows_showing (d := { v.toDisplay with tracker }) table _ _ _).mpr ?_)
    rw [if_pos (Option.some.inj hovers).symm]
    exact congrArg _ cursor.symm

theorem greeted_opening (table : v.realizer = .table cursors) : Greeted start v.opening := by
  intro w hovers
  have there : v.opening.under = some v.surface := surfaceOf_capture rfl
  obtain rfl : v.surface = w := Option.some.inj (there.symm.trans hovers)
  exact Or.inr ((Display.shows_showing table v.surface v.surface v.tracker.cursor).mpr (by rw [if_pos rfl]))

/-- Where windows other than the capture window show their cursors does not depend on the clip. -/
theorem Greeted.ending (hg : Greeted start v) {h : Handle} (held : v.capture = some h) :
    Greeted start (v.ending h) := by
  intro w hovers
  refine hg w ?_
  by_cases gone : v.tracker.window = h
  · simp [under, View.ending, gone, surfaceOf] at hovers
  · rw [under, surfaceOf_of_ne held gone]
    simpa [under, surfaceOf, View.ending, Function.update_of_ne gone] using hovers

/-- A clip in force that moves takes the pointer back to the capture surface, whatever that shows. -/
theorem Greeted.moved {h : Handle} (held : v.capture = some h) (right : Reached start v v.surface) :
    Greeted start (v.display fun d => d.above h) := by
  intro w hovers
  have there : (v.display fun d => d.above h).under = some v.surface := surfaceOf_capture held
  obtain rfl : v.surface = w := Option.some.inj (there.symm.trans hovers)
  exact right

/-- Unless a clip is put in force anew, the current cursor is shown where the pointer comes to. -/
theorem Change.greeted (h : Change L m v v') (steady : ¬ (L.asked ∨ L.direct)) (hv : v.Tidy cursors n)
    (hg : Greeted start v) : Greeted start v' := by
  cases h with
  | same => exact hg
  | visited now interval h => exact hg.visited hv.table now interval h
  | declined => exact hg
  | opened => exact greeted_opening hv.table
  | moved h held may => exact absurd may steady
  | ended h held => exact hg.ending held

def Recalled (start v : View) : Prop :=
  ∃ h, start.capture = some h ∧ v.capture = some h ∧ start.tracker.window ≠ h ∧ v.tracker.window = h

/-- The current cursor is shown where the pointer came to; and so it is on the capture surface, unless that
is left behind as it was at the start. -/
def Settled (start v : View) : Prop :=
  Greeted start v ∧ ∀ h, v.capture = some h →
    start.capture = some h ∧ v.tracker.window = start.tracker.window ∨ Reached start v v.surface

theorem Settled.refl (v : View) : Settled v v := ⟨.refl v, fun _ held => Or.inl ⟨held, rfl⟩⟩

theorem Greeted.captured (hg : Greeted start v) {h : Handle} (held : v.capture = some h)
    (above : v.tracker.window = h) : Reached start v v.surface :=
  hg v.surface (by rw [under, above]; exact surfaceOf_capture held)

/-- While no event takes the pointer elsewhere, it is recalled at most. -/
theorem Change.recalled (h : Change L m v v') (still : ¬ L.roams) (hv : v.Tidy cursors n)
    (hs : Recalled start v ∨ Settled start v) : Recalled start v' ∨ Settled start v' := by
  have free : v.capture = none → Recalled start v → False := by
    rintro free ⟨h, -, held, -⟩
    simp [free] at held
  cases h with
  | same => exact hs
  | visited now interval h may =>
      have held : v.capture = some h := may.resolve_left still
      have above := v.toDisplay.window_visiting now interval h (v.surfaceOf h)
      rcases hs with ⟨k, first, again, away, -⟩ | ⟨hg, -⟩
      · obtain rfl : h = k := Option.some.inj (held.symm.trans again)
        exact Or.inl ⟨h, first, held, away, above⟩
      · have hg := hg.visited hv.table now interval h
        exact Or.inr ⟨hg, fun _ _ => Or.inr (hg.captured held above)⟩
  | declined unclipped =>
      obtain ⟨hg, -⟩ := hs.resolve_left (free unclipped)
      refine Or.inr ⟨hg, fun k held => ?_⟩
      exact absurd (unclipped.symm.trans held) (by simp)
  | opened =>
      have hg : Greeted start v.opening := greeted_opening hv.table
      exact Or.inr ⟨hg, fun _ _ => Or.inr (hg.captured rfl rfl)⟩
  | moved h held may =>
      rcases hs with ⟨k, first, again, away, above⟩ | ⟨hg, hc⟩
      · obtain rfl : h = k := Option.some.inj (held.symm.trans again)
        exact Or.inl ⟨h, first, held, away, rfl⟩
      · -- either the surface shows the cursor, or the pointer was elsewhere from the start
        have settled (right : Reached start v v.surface) : Settled start (v.display fun d => d.above h) :=
          ⟨.moved held right, fun _ _ => Or.inr right⟩
        rcases hc h held with ⟨first, stayed⟩ | right
        · by_cases there : start.tracker.window = h
          · exact Or.inr (settled (hg.captured held (stayed.trans there)))
          · exact Or.inl ⟨h, first, held, there, rfl⟩
        · exact Or.inr (settled right)
  | ended h held =>
      refine Or.inr ⟨?_, nofun⟩
      rcases hs with ⟨k, -, again, -, above⟩ | ⟨hg, -⟩
      · obtain rfl : h = k := Option.some.inj (held.symm.trans again)
        intro w hovers
        simp [under, above, surfaceOf, View.ending] at hovers
      · exact hg.ending held

end View

namespace Scene

variable {L : Licence} {cursors : OrderedMap CursorId HostCursor} {m n : Nat} {kind : ClipKind}
  {s t : Scene}

theorem view_capture {region : ClipRegion} (held : s.seat.input.clip = some region) :
    s.view.capture = some region.captureWindow := by
  simp [view, Face.view, held]

theorem change_ended (hv : s.view.Tidy cursors m) {old : ClipRegion}
    (held : s.seat.input.clip = some old) (clip : t.seat.input.clip = none)
    (face : t.face = s.face.without old.captureWindow) : View.Change L n s.view t.view := by
  have view : t.view = s.view.ending old.captureWindow := by
    rw [Scene.view, face, clip, Face.view_without (hv.stands _ (view_capture held)).1]
    rfl
  rw [view]
  exact .ended _ (view_capture held)

/-- A grab moves a clip in force only if it may. -/
theorem Grabbed.change (h : Grabbed kind s t) (hv : s.view.Tidy cursors m)
    (may : s.seat.input.clip ≠ none → L.asked ∨ L.direct) : View.Change L (n + 1) s.view t.view := by
  have unclipped : s.seat.input.clip = none → s.view.capture = none := by
    intro free
    simp [view, Face.view, free]
  have absent : s.face.hosts s.standing.fresh = none := hv.hosts_fresh
  have created := Face.view_withCapture absent s.env.thread
  cases h with
  | kept clip face =>
      rw [view_of_face face clip]
      exact .same
  | declined free clip face =>
      have hosts : (s.face.withCapture s.standing.fresh s.env.thread).hosts =
          Function.update s.face.hosts s.standing.fresh (some none) :=
        congrArg View.hosts (created none)
      have gone : Function.update s.face.hosts s.standing.fresh none = s.face.hosts :=
        Function.update_eq_self_iff.mpr absent.symm
      have bare : (s.face.withCapture s.standing.fresh s.env.thread).hosts s.standing.fresh =
          some none := by rw [hosts, Function.update_self]
      have view : t.view = { s.view with nextHandle := s.view.next } := by
        rw [Scene.view, face, clip, Face.view_without bare, hosts, created, Function.update_idem, gone,
          Scene.view, free]
        rfl
      rw [view]
      exact .declined (unclipped free)
  | opened rect free clip face =>
      have view : t.view = s.view.opening := by
        rw [Scene.view, face]
        rw [clip, Face.view_display, created]
        rfl
      rw [view]
      exact .opened (unclipped free)
  | moved rect old held clip face =>
      have view : t.view = s.view.display fun d => d.above old.captureWindow := by
        rw [Scene.view, face, clip, Scene.view, held]
        rfl
      rw [view]
      exact .moved _ (view_capture held) (may (by simp [held]))
  | ended old held clip face => exact change_ended hv held clip face

theorem Outcome.keepsSurface {R : Permit} (h : Outcome R n s t) (hs : s.Surfaced) : t.Surfaced := by
  intro clipping
  cases h with
  | quiet h => exact hs.of_eq h.clip h.captureSurface clipping
  | surfaced _ _ _ standing =>
      rw [standing]
      rfl
  | declined _ free _ standing =>
      rw [standing] at clipping
      exact absurd (Option.isSome_iff_ne_none.mp clipping) (fun some => some free)
  | refused _ _ _ _ _ _ standing =>
      rw [standing] at clipping
      cases clipping
  | opened _ _ _ _ _ _ _ _ surface standing =>
      rw [standing]
      exact Option.isSome_of_mem surface
  | moved _ _ _ _ _ _ _ surface standing =>
      rw [standing]
      exact Option.isSome_of_mem surface
  | ended _ _ report _ _ _ _ standing =>
      rw [standing] at clipping
      cases report <;> cases clipping

theorem Deed.surfaced (h : Deed L n s t) (hs : s.Surfaced) : t.Surfaced :=
  h.course.preserves (P := fun _ u => u.Surfaced) (fun outcome hu => outcome.keepsSurface hu) id
    (fun standing _ hu => by unfold Surfaced; rw [standing]; exact hu) 0 hs

theorem view_visit (s : Scene) (h : Handle) (host : Option HostWindow) : (s.visit h host).view =
    s.view.display fun d => d.visiting s.env.tick s.cursorInterval h host := by
  rw [view, face_visit, (s.quiet_visit h host).clip, Face.view_display, view]

/-- Each deed is one of the six changes. -/
theorem Deed.change (h : Deed L n s t) (hv : s.view.Tidy cursors m) (surfaced : s.Surfaced) :
    View.Change L n s.view t.view := by
  cases h with
  | routine h =>
      rw [h.view]
      exact .same
  | touch region w clip surface =>
      have shown : some w = s.view.surfaceOf region.captureWindow := by
        rw [View.surfaceOf_capture (view_capture clip), ← surface]
        exact surfaced.surface clip
      rw [view_visit, shown]
      exact .visited _ _ _ (Or.inr (view_capture clip))
  | visit h info roams met known =>
      have host : s.view.hosts h = some info.host := congrArg (Option.map WindowInfo.host) known
      have other : s.view.capture ≠ some h := by
        intro captured
        obtain ⟨bare, named⟩ := hv.stands h captured
        rcases met with rfl | ⟨w, found⟩
        · exact Nat.lt_irrefl _ named
        · rw [hv.found w h found] at bare
          cases bare
      have shown : info.host = s.view.surfaceOf h := by
        rw [View.surfaceOf, if_neg other, host]
        rfl
      rw [view_visit, shown]
      exact .visited _ _ _ (Or.inl roams)
  | confine rect asked => exact (s.grab_grabbed rect .explicit).change hv fun _ => Or.inl asked
  | cover t since guard =>
      rw [← since.view] at hv ⊢
      refine (t.grab_grabbed t.env.primaryMonitor .fullscreen).change hv fun clipping => ?_
      rcases guard with direct | ⟨-, free⟩
      · exact Or.inr direct
      · exact absurd (since.clip.trans free) clipping
  | release report =>
      have face := s.face_release report
      have clip := s.clip_release report
      cases held : s.seat.input.clip with
      | none =>
          rw [held] at face
          rw [view_of_face face (clip.trans held.symm)]
          exact .same
      | some region =>
          rw [held] at face
          exact change_ended hv held clip face
  | mark => exact .same

structure Watched (cursors : OrderedMap CursorId HostCursor) (n : Nat) (s : Scene) : Prop where
  tidy : s.view.Tidy cursors n
  surfaced : s.Surfaced

/-- What every change to a tidy view preserves, every call preserves. -/
theorem Doings.view_preserves {Q : View → Prop} (step : ∀ {k m : Nat} {v v' : View},
      View.Change L k v v' → v.Tidy cursors m → Q v → Q v')
    (h : Doings L n s t) (hs : Watched cursors n s) (hq : Q s.view) :
    Watched cursors 0 t ∧ Q t.view := by
  refine h.preserves (P := fun n u => Watched cursors n u ∧ Q u.view) (fun deed hu => ?_)
    (fun hu => ⟨⟨hu.1.tidy.mono, hu.1.surfaced⟩, hu.2⟩) (fun _ _ hu => ⟨⟨hu.1.tidy, hu.1.surfaced⟩, hu.2⟩)
    0 ⟨hs, hq⟩
  obtain ⟨⟨tidy, surfaced⟩, hu⟩ := hu
  have change := deed.change tidy surfaced
  exact ⟨⟨change.tidy tidy, deed.surfaced surfaced⟩, step change tidy hu⟩

end Scene

end GuestSeat
