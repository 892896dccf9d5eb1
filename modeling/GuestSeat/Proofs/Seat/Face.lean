import GuestSeat.Proofs.Seat.Deeds

/-!
What a grab and a release do to a seat besides what becomes of the clip. The face of a scene is what a
clip shows in and what it leaves alone: the clock, the cursor and where it is shown, and the window
table. Each primitive operation is pinned down by its effect on the face, so that a grab comes down to
five cases and a release to two.
-/

namespace GuestSeat

structure Display where
  tracker : CursorTracker
  realizer : Realizer
  shown : List (HostWindow × Option HostCursor)

namespace Display

def showing (d : Display) (w : HostWindow) (cursor : Option CursorId) : Display :=
  match cursor with
  | none => { d with shown := d.shown ++ [(w, none)] }
  | some c =>
    { d with
      realizer := (d.realizer.realize c).1
      shown := d.shown ++ [(w, (d.realizer.realize c).2)] }

def above (d : Display) (h : Handle) : Display := { d with tracker := { d.tracker with window := h } }

def captured (d : Display) (again : Bool) (w : HostWindow) (h : Handle) : Display :=
  (if again then d else d.showing w d.tracker.cursor).above h

def visiting (d : Display) (now interval : Nat) (h : Handle) (host : Option HostWindow) : Display :=
  let (tracker, renewed) := d.tracker.enter h now interval
  match renewed, host with
  | true, some w => { d with tracker }.showing w tracker.cursor
  | _, _ => { d with tracker }

end Display

structure Face extends Display where
  tick : Nat
  clipResetAt : Option Nat
  windows : OrderedMap Handle HostedWindow
  nextHandle : UInt64
  /-- The capture surface, or the host window that it would be. -/
  surface : HostWindow
  carried : List (Handle × Option CursorId)

namespace Face

variable (f : Face)

def withCapture (h : Handle) (thread : ThreadId) : Face :=
  let info := { WindowInfo.plain h WindowStyle.popup ⟨0, 0, 0, 0⟩ with thread }
  { f with
    windows := f.windows.insert h { info }
    nextHandle := max (f.nextHandle + 2) (h.id + 1) }

def without (h : Handle) : Face :=
  { f with windows := if f.windows.contains h then f.windows.erase h else f.windows }

def display (g : Display → Display) : Face := { f with toDisplay := g f.toDisplay }

def clock : Nat × Option Nat := (f.tick, f.clipResetAt)

@[simp] theorem clock_withCapture (h : Handle) (thread : ThreadId) :
    (f.withCapture h thread).clock = f.clock := rfl

@[simp] theorem clock_without (h : Handle) : (f.without h).clock = f.clock := rfl

@[simp] theorem clock_display (g : Display → Display) : (f.display g).clock = f.clock := rfl

end Face

namespace Scene

def display (s : Scene) : Display where
  tracker := s.seat.tracker
  realizer := s.seat.realizer
  shown := s.env.outlook.shown

def face (s : Scene) : Face where
  toDisplay := s.display
  tick := s.env.tick
  clipResetAt := s.seat.input.clipResetAt
  windows := s.env.windows
  nextHandle := s.env.nextHandle
  surface := s.seat.input.captureSurface.getD s.env.outlook.surface
  carried := s.env.outlook.carried

variable (s : Scene)

theorem face_request {r : HostRequest} (hr : r.shown? = none) : (s.request r).face = s.face := by
  have shown : (s.request r).env.outlook.shown = s.env.outlook.shown := by
    simp [request, act, Environment.request, Environment.outlook, hr]
  simp only [face, display, shown]
  rfl

theorem face_tell {h : Handle} {message : GuestMessage}
    (hc : Delivered.carried? ⟨h, message, false⟩ = none) : (s.tell h message).face = s.face := by
  unfold tell act Environment.tell Environment.post
  dsimp only
  split
  · next hd =>
      unfold Environment.deliver at hd
      split at hd
      · cases hd
      · cases hd
        simp [face, display, Environment.note, Environment.outlook, hc]
  · rfl

theorem face_reportOwner (source target : Handle) : (s.reportOwner source target).face = s.face := by
  unfold reportOwner
  split
  · rfl
  · exact s.face_tell rfl

theorem face_disableRaw : s.disableRaw.face = s.face := by
  unfold disableRaw
  split
  · exact s.face_request (r := .disableRawMotion) rfl
  · rfl

theorem face_enableRaw : s.enableRaw.1.face = s.face := by
  have asked := s.face_request (r := .enableRawMotion) rfl
  unfold enableRaw
  split
  · rfl
  · rfl
  all_goals
    dsimp only
    split <;> exact asked

theorem face_useSurface : s.useSurface.1.face = s.face := by
  unfold useSurface
  cases held : s.seat.input.captureSurface with
  | some w => rfl
  | none =>
      unfold Environment.useCaptureSurface
      cases supported : s.env.captureSupported with
      | false => simp [face, display, edit, held]
      | true =>
          cases known : s.env.captureSurface with
          | none => simp [face, display, edit, held, known, Environment.takeHost, Environment.outlook]
          | some w => simp [face, display, edit, held, known, Environment.outlook]

/-- The surface that is used is the one that was expected. -/
theorem useSurface_eq {w : HostWindow} (used : s.useSurface.2 = some w) :
    s.useSurface.1.seat.input.captureSurface = some w ∧ w = s.face.surface := by
  have kept : s.useSurface.1.seat.input.captureSurface = s.useSurface.2 := by
    unfold useSurface
    cases held : s.seat.input.captureSurface with
    | some w => exact held
    | none => rfl
  rw [used] at kept
  refine ⟨kept, ?_⟩
  rw [← s.face_useSurface]
  simp [face, kept]

theorem face_showCursor (w : HostWindow) (cursor : Option CursorId) :
    (s.showCursor w cursor).face = s.face.display fun d => d.showing w cursor := by
  unfold showCursor realize Face.display Display.showing
  cases cursor with
  | none =>
      simp [face, display, request, act, Environment.request, Environment.outlook, HostRequest.shown?]
  | some c =>
      simp [face, display, request, act, Environment.request, Environment.outlook, HostRequest.shown?]

theorem face_visit (h : Handle) (host : Option HostWindow) : (s.visit h host).face =
    s.face.display fun d => d.visiting s.env.tick s.cursorInterval h host := by
  have tracker : s.face.tracker.enter h s.env.tick s.cursorInterval =
      s.seat.tracker.enter h s.env.tick s.cursorInterval := rfl
  unfold visit enterWindow Face.display Display.visiting
  dsimp only
  rw [tracker]
  cases s.seat.tracker.enter h s.env.tick s.cursorInterval with
  | mk tracker renewed =>
      cases renewed with
      | false => cases host <;> rfl
      | true =>
          cases host with
          | none => rfl
          | some w => exact face_showCursor _ w _

theorem face_destroyWindow (h : Handle) :
    (s.act fun env => env.destroyWindow h).face = s.face.without h := by
  simp only [act, Environment.destroyWindow, Face.without]
  split
  · next known =>
      rw [if_pos (show s.face.windows.contains h = true from known)]
      rfl
  · next absent =>
      rw [if_neg (show ¬ s.face.windows.contains h = true from absent)]

theorem face_showSurface (w : HostWindow) (rect : Rect) : (s.showSurface w rect).face = s.face := by
  unfold showSurface
  rw [face_request _ rfl, face_request _ rfl, face_request _ rfl]

theorem face_establish (w : HostWindow) (region : ClipRegion) :
    (s.establish w region).face =
      s.face.display fun d => d.captured s.seat.input.isClipping w region.captureWindow := by
  unfold establish
  dsimp only
  rw [face_reportOwner]
  cases s.seat.input.isClipping with
  | true => rfl
  | false =>
      have shown := (s.edit fun i => { i with clip := some region }).face_showCursor w
        s.seat.tracker.cursor
      exact congrArg (fun f : Face => f.display fun d => d.above region.captureWindow) shown

theorem face_abandonGrab (w : HostWindow) (capture : Handle) :
    (s.abandonGrab w capture).face = s.face.without capture := by
  have undone : ((((s.request .ungrabPointer).request (.unmap w)).disableRaw.act
      fun env => env.destroyWindow capture).dropClip).face = s.face.without capture := by
    change ((((s.request .ungrabPointer).request (.unmap w)).disableRaw.act
      fun env => env.destroyWindow capture)).face = _
    rw [face_destroyWindow, face_disableRaw, face_request _ rfl, face_request _ rfl]
  unfold abandonGrab
  dsimp only
  split
  · exact undone
  · exact (face_reportOwner _ _ _).trans undone

theorem face_confine (w : HostWindow) (region : ClipRegion) : (s.confine w region).1.face =
    if s.env.grabSucceeds then
      s.face.display fun d => d.captured s.seat.input.isClipping w region.captureWindow
    else s.face.without region.captureWindow := by
  let shown := s.showSurface w region.rect
  let aimed := if s.seat.input.clip.all fun previous => region.rect.restricts previous.rect
    then shown.armWarpFence else shown
  let ready := aimed.request (.grabPointer w)
  have face : ready.face = s.face := by
    have same : aimed.face = shown.face := by
      dsimp only [aimed]
      split <;> rfl
    exact (aimed.face_request rfl).trans (same.trans (s.face_showSurface w region.rect))
  have clipping : ready.seat.input.isClipping = s.seat.input.isClipping := by
    dsimp only [ready, aimed]
    split <;> rfl
  have succeeds : ready.env.grabSucceeds = s.env.grabSucceeds := by
    dsimp only [ready, aimed]
    split <;> rfl
  change (if ready.env.grabSucceeds then (ready.establish w region, true)
    else (ready.abandonGrab w region.captureWindow, false)).1.face = _
  rw [succeeds]
  split
  · rw [face_establish, face, clipping]
  · rw [face_abandonGrab, face]

theorem face_release (report : Bool) : (s.release report).face =
    match s.seat.input.clip with
    | none => s.face
    | some region => s.face.without region.captureWindow := by
  have closing : ∀ (t : Scene) (h : Handle), t.face = s.face →
      (if report then (t.disableRaw.act fun env => env.destroyWindow h).reportOwner h .null
        else t.disableRaw.act fun env => env.destroyWindow h).face = s.face.without h := by
    intro t h same
    have closed : (t.disableRaw.act fun env => env.destroyWindow h).face = s.face.without h := by
      rw [face_destroyWindow, face_disableRaw, same]
    split
    · rw [face_reportOwner, closed]
    · exact closed
  unfold release
  cases s.seat.input.clip with
  | none => rfl
  | some region =>
      apply closing
      have freed : (s.dropClip.request .ungrabPointer).face = s.face := face_request _ rfl
      split
      · exact freed
      · exact (face_request _ rfl).trans freed

end Scene

end GuestSeat
