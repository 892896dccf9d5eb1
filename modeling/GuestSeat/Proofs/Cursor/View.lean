import GuestSeat.Proofs.Seat.Grab

/-!
The cursor as it is seen. A host window shows the cursor that was last shown on it; what has to be
compared with it is the cursor of the process. A view is all that bears on the two: where windows show
their cursors, what was shown, and which cursors are on their way.
-/

namespace GuestSeat

open Environment (desktop)

namespace OrderedMap

variable {κ α : Type} [DecidableEq κ]

/-- What is looked for is still found after another value was erased. -/
theorem find?_values_erase (m : OrderedMap κ α) (k : κ) (p : α → Bool)
    (other : ∀ a, m.get? k = some a → p a = false) :
    (m.erase k).values.find? p = m.values.find? p := by
  have others : ∀ entry ∈ m.entries, entry.1 = k → p entry.2 = false := by
    rintro entry member rfl
    exact other entry.2 (m.get?_of_mem member)
  simp only [values, erase]
  generalize m.entries = entries at others
  induction entries with
  | nil => rfl
  | cons entry rest ih =>
      have kept := ih fun e member => others e (List.mem_cons_of_mem _ member)
      by_cases erased : entry.1 = k
      · simpa [erased, others entry List.mem_cons_self erased] using kept
      · simp only [List.filter_cons_of_pos (p := fun e : κ × α => decide (e.1 ≠ k)) (decide_eq_true erased),
          List.map_cons, List.find?_cons, kept]

end OrderedMap

namespace Display

variable (d : Display)

def native (cursor : Option CursorId) : Option HostCursor :=
  cursor.bind fun c => (d.realizer.realize c).2

def last (w : HostWindow) : Option (Option HostCursor) := d.shown.reverse.lookup w

def Shows (w : HostWindow) : Prop := d.last w = some (d.native d.tracker.cursor)

instance (w : HostWindow) : Decidable (d.Shows w) :=
  inferInstanceAs (Decidable (d.last w = some (d.native d.tracker.cursor)))

@[simp] theorem tracker_showing (w : HostWindow) (cursor : Option CursorId) :
    (d.showing w cursor).tracker = d.tracker := by
  cases cursor <;> rfl

theorem shown_showing (w : HostWindow) (cursor : Option CursorId) :
    (d.showing w cursor).shown = d.shown ++ [(w, d.native cursor)] := by
  cases cursor <;> rfl

theorem last_showing (w k : HostWindow) (cursor : Option CursorId) :
    (d.showing w cursor).last k = if k = w then some (d.native cursor) else d.last k := by
  unfold last
  rw [shown_showing, List.reverse_append, List.reverse_singleton, List.singleton_append,
    List.lookup_cons]
  by_cases same : k = w
  · simp [same]
  · rw [beq_false_of_ne same, if_neg same]

variable {d} {cursors : OrderedMap CursorId HostCursor}

/-- A table does not change when it is asked. -/
theorem realizer_showing (table : d.realizer = .table cursors) (w : HostWindow)
    (cursor : Option CursorId) : (d.showing w cursor).realizer = .table cursors := by
  cases cursor with
  | none => exact table
  | some c => simp [showing, table, Realizer.realize]

theorem native_showing (table : d.realizer = .table cursors) (w : HostWindow)
    (shown : Option CursorId) : (d.showing w shown).native = d.native := by
  funext cursor
  unfold native
  rw [realizer_showing table, table]

/-- A window that is shown a cursor shows the cursor of the process if it is that one. -/
theorem shows_showing (table : d.realizer = .table cursors) (w k : HostWindow)
    (cursor : Option CursorId) : (d.showing w cursor).Shows k ↔
      if k = w then d.native cursor = d.native d.tracker.cursor else d.Shows k := by
  unfold Shows
  rw [last_showing, native_showing table, tracker_showing]
  split
  · exact Option.some_inj
  · rfl

/-- A visit is noted; the cursor is shown unless the pointer was there already or there is nowhere to
show it. -/
theorem visiting_cases (d : Display) (now interval : Nat) (h : Handle) (host : Option HostWindow) :
    ∃ tracker : CursorTracker, tracker.window = h ∧ tracker.cursor = d.tracker.cursor ∧
      (d.visiting now interval h host = { d with tracker } ∧ (d.tracker.window = h ∨ host = none) ∨
        ∃ w, host = some w ∧ d.visiting now interval h host =
          ({ d with tracker } : Display).showing w d.tracker.cursor) := by
  have window : (d.tracker.enter h now interval).1.window = h := by
    unfold CursorTracker.enter CursorTracker.renew
    split <;> rfl
  have cursor : (d.tracker.enter h now interval).1.cursor = d.tracker.cursor := by
    unfold CursorTracker.enter CursorTracker.renew
    split <;> rfl
  have stayed : (d.tracker.enter h now interval).2 = false → d.tracker.window = h := by
    unfold CursorTracker.enter CursorTracker.renew
    split
    · exact nofun
    · next same =>
        intro _
        simp only [Bool.or_eq_true, bne_iff_ne, ne_eq, decide_eq_true_eq, not_or, not_not] at same
        exact same.1
  refine ⟨(d.tracker.enter h now interval).1, window, cursor, ?_⟩
  unfold visiting
  cases hr : d.tracker.enter h now interval with
  | mk tracker renewed =>
      rw [hr] at stayed cursor
      cases renewed with
      | false => exact Or.inl ⟨by cases host <;> rfl, Or.inl (stayed rfl)⟩
      | true =>
          cases host with
          | none => exact Or.inl ⟨rfl, Or.inr rfl⟩
          | some w =>
              refine Or.inr ⟨w, rfl, ?_⟩
              rw [← cursor]

theorem window_visiting (d : Display) (now interval : Nat) (h : Handle) (host : Option HostWindow) :
    (d.visiting now interval h host).tracker.window = h := by
  obtain ⟨tracker, window, -, ⟨eq, -⟩ | ⟨w, -, eq⟩⟩ := d.visiting_cases now interval h host
  · rw [eq]
    exact window
  · rw [eq, tracker_showing]
    exact window

theorem realizer_visiting (table : d.realizer = .table cursors) (now interval : Nat) (h : Handle)
    (host : Option HostWindow) : (d.visiting now interval h host).realizer = .table cursors := by
  obtain ⟨tracker, -, -, ⟨eq, -⟩ | ⟨w, -, eq⟩⟩ := d.visiting_cases now interval h host
  · rw [eq]
    exact table
  · rw [eq]
    exact realizer_showing (d := { d with tracker }) table w d.tracker.cursor

end Display

structure View extends Display where
  /-- The host window of every window that is there. -/
  hosts : Handle → Option (Option HostWindow)
  lookup : HostWindow → Option Handle
  surface : HostWindow
  carried : List (Handle × Option CursorId)
  nextHandle : UInt64
  /-- The window that stands for the clip. -/
  capture : Option Handle

namespace View

variable (v : View)

def surfaceOf (h : Handle) : Option HostWindow :=
  if v.capture = some h then some v.surface else (v.hosts h).join

def under : Option HostWindow := v.surfaceOf v.tracker.window

/-- The cursors that are on their way to a host window, in the order in which they come. -/
def bound (w : HostWindow) : List (Handle × Option CursorId) :=
  v.carried.filter fun p => v.surfaceOf p.1 = some w

/-- A host window is in step with the process: the last cursor on its way to it is the one of the process,
and if there is none, it shows that one. -/
structure InStep (w : HostWindow) : Prop where
  coming : ∀ p, (v.bound w).getLast? = some p → p.2 = v.tracker.cursor
  shown : v.bound w = [] → v.Shows w

def fresh : Handle := ⟨v.nextHandle⟩

def next : UInt64 := max (v.nextHandle + 2) (v.nextHandle + 1)

def display (g : Display → Display) : View := { v with toDisplay := g v.toDisplay }

variable {v} {v' : View} {w : HostWindow}

theorem bound_congr (carried : v'.carried = v.carried)
    (same : ∀ p ∈ v.carried, v'.surfaceOf p.1 = some w ↔ v.surfaceOf p.1 = some w) :
    v'.bound w = v.bound w := by
  unfold bound
  rw [carried]
  exact List.filter_congr fun p member => decide_eq_decide.mpr (same p member)

theorem InStep.congr (h : v.InStep w) (bound : v'.bound w = v.bound w)
    (cursor : v'.tracker.cursor = v.tracker.cursor) (shows : v.Shows w → v'.Shows w) : v'.InStep w := by
  refine ⟨fun p last => ?_, fun none => shows (h.shown (bound ▸ none))⟩
  rw [bound] at last
  rw [cursor]
  exact h.coming p last

end View

namespace Face

variable (f : Face)

def hosts (h : Handle) : Option (Option HostWindow) :=
  ((f.windows.get? h).map HostedWindow.info).map WindowInfo.host

def lookup (w : HostWindow) : Option Handle :=
  (f.windows.values.find? fun hosted => hosted.info.host == some w).map
    fun hosted => hosted.info.handle

/-- A face as far as it bears on the cursor, with the window that stands for the clip. -/
def view (capture : Option Handle) : View :=
  { f with hosts := f.hosts, lookup := f.lookup, capture }

theorem view_display (g : Display → Display) (capture : Option Handle) :
    (f.display g).view capture = (f.view capture).display g := rfl

variable {f} {h : Handle}

/-- A new window without a host window is not found behind any. -/
theorem view_withCapture (absent : f.hosts h = none) (thread : ThreadId) (capture : Option Handle) :
    (f.withCapture h thread).view capture =
      { f.view capture with
        hosts := Function.update f.hosts h (some none)
        nextHandle := max (f.nextHandle + 2) (h.id + 1) } := by
  have unknown : f.windows.get? h = none := by simpa [hosts] using absent
  simp only [view, withCapture, View.mk.injEq, true_and, and_true]
  constructor
  · funext k
    unfold hosts
    rw [OrderedMap.get?_insert, Function.update_apply]
    split <;> rfl
  · funext w
    simp [lookup, OrderedMap.insert, unknown, OrderedMap.values, List.find?_append, WindowInfo.plain]

/-- A window without a host window that is destroyed was not found behind any. -/
theorem view_without (bare : f.hosts h = some none) (capture : Option Handle) :
    (f.without h).view capture = { f.view capture with hosts := Function.update f.hosts h none } := by
  have hostless : ∀ hosted, f.windows.get? h = some hosted → hosted.info.host = none := by
    intro hosted known
    simpa [hosts, known] using bare
  have known : f.windows.contains h = true := by
    unfold OrderedMap.contains
    cases unknown : f.windows.get? h with
    | none => simp [hosts, unknown] at bare
    | some _ => rfl
  simp only [view, without, known, if_true, View.mk.injEq, true_and, and_true]
  constructor
  · funext k
    unfold hosts
    rw [OrderedMap.get?_erase, Function.update_apply]
    split <;> rfl
  · funext w
    unfold lookup
    rw [OrderedMap.find?_values_erase]
    intro hosted found
    simp [hostless hosted found]

end Face

namespace Scene

variable {s t : Scene}

def view (s : Scene) : View := s.face.view (s.seat.input.clip.map ClipRegion.captureWindow)

theorem view_of_face (face : t.face = s.face) (clip : t.seat.input.clip = s.seat.input.clip) :
    t.view = s.view := by
  rw [view, face, clip, view]

/-- A view consists of the outlook, with the capture surface that the seat has, and of the cursor. -/
theorem view_eq (s : Scene) : s.view =
    { tracker := s.seat.tracker, realizer := s.seat.realizer, shown := s.env.outlook.shown
      hosts := s.env.outlook.hosts, lookup := s.env.outlook.lookup
      surface := s.seat.input.captureSurface.getD s.env.outlook.surface
      carried := s.env.outlook.carried, nextHandle := s.env.nextHandle
      capture := s.seat.input.clip.map ClipRegion.captureWindow } := rfl

theorem Routine.view (h : s.Routine t) : t.view = s.view := by
  rw [view_eq, view_eq, h.outlook, h.tracker, h.realizer, h.captureSurface, h.clip, h.env.nextHandle]

def Surfaced (s : Scene) : Prop :=
  s.standing.clip.isSome = true → s.standing.surface.isSome = true

theorem Surfaced.of_eq (hs : s.Surfaced) (clip : t.seat.input.clip = s.seat.input.clip)
    (surface : t.seat.input.captureSurface = s.seat.input.captureSurface) : t.Surfaced := by
  intro clipping
  have held : s.standing.clip.isSome = true := (congrArg Option.isSome clip).symm.trans clipping
  exact (congrArg Option.isSome surface).trans (hs held)

theorem Surfaced.surface (h : s.Surfaced) {region : ClipRegion}
    (held : s.seat.input.clip = some region) :
    s.seat.input.captureSurface = some s.view.surface := by
  obtain ⟨w, surface⟩ := Option.isSome_iff_exists.mp (h (Option.isSome_of_mem held))
  change s.seat.input.captureSurface = some w at surface
  rw [surface]
  simp [view, Face.view, face, surface]

/-- Where a window shows its cursor can be told from the view. -/
theorem cursorSurface?_eq (surfaced : s.Surfaced) (named : s.view.capture ≠ some Handle.null)
    (h : Handle) : s.cursorSurface? h = s.view.surfaceOf h := by
  have hosts : (s.view.hosts h).join = s.env.host? h := by
    change ((s.env.info? h).map WindowInfo.host).join = (s.env.info? h).bind WindowInfo.host
    cases s.env.info? h <;> rfl
  unfold cursorSurface? View.surfaceOf InputState.captureWindow
  rw [hosts]
  cases held : s.seat.input.clip with
  | none =>
      have free : s.view.capture = none := by simp [view, Face.view, held]
      simp [free, Handle.isNull]
  | some region =>
      have capture : s.view.capture = some region.captureWindow := by simp [view, Face.view, held]
      rw [capture] at named ⊢
      rw [surfaced.surface held]
      by_cases same : h = region.captureWindow
      · have known : h.isNull = false := by
          simp only [Handle.isNull, beq_eq_false_iff_ne]
          rintro null
          exact named (by rw [← same]; exact congrArg some null)
        simp [← same, known]
      · simp [same, Ne.symm same]

end Scene

end GuestSeat
