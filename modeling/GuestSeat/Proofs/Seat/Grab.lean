import GuestSeat.Proofs.Clip.Validity
import GuestSeat.Proofs.Seat.Face

/-!
What an attempt to confine the pointer comes to, as seen from outside: nothing, a new clip, another
rectangle for the one in force, or its end. The clock stands still meanwhile.
-/

namespace GuestSeat.Scene

variable {s t : Scene} {kind : ClipKind}

inductive Grabbed (kind : ClipKind) (s t : Scene) : Prop
  | kept (clip : t.seat.input.clip = s.seat.input.clip) (face : t.face = s.face)
  /-- A window to stand for a new clip was created and destroyed again. -/
  | declined (free : s.seat.input.clip = none) (clip : t.seat.input.clip = none)
      (face : t.face = (s.face.withCapture s.standing.fresh s.env.thread).without s.standing.fresh)
  | opened (rect : Rect) (free : s.seat.input.clip = none)
      (clip : t.seat.input.clip = some ⟨rect, s.standing.fresh, kind⟩)
      (face : t.face = (s.face.withCapture s.standing.fresh s.env.thread).display
        fun d => d.captured false s.face.surface s.standing.fresh)
  | moved (rect : Rect) (old : ClipRegion) (held : s.seat.input.clip = some old)
      (clip : t.seat.input.clip = some ⟨rect, old.captureWindow, kind⟩)
      (face : t.face = s.face.display fun d => d.above old.captureWindow)
  | ended (old : ClipRegion) (held : s.seat.input.clip = some old) (clip : t.seat.input.clip = none)
      (face : t.face = s.face.without old.captureWindow)

/-- Another rectangle for the clip in force, or its end. -/
theorem confine_grabbed {w : HostWindow} {old : ClipRegion} (rect : Rect)
    (held : s.seat.input.clip = some old) :
    Grabbed kind s (s.confine w ⟨rect, old.captureWindow, kind⟩).1 := by
  have clipping : s.seat.input.isClipping = true := by simp [InputState.isClipping, held]
  obtain ⟨clip, -⟩ := s.confine_answer w ⟨rect, old.captureWindow, kind⟩
  have face := s.face_confine w ⟨rect, old.captureWindow, kind⟩
  rw [clipping] at face
  cases succeeds : s.env.grabSucceeds with
  | true =>
      rw [succeeds, if_pos rfl] at clip face
      exact .moved rect old held clip face
  | false =>
      rw [succeeds, if_neg Bool.false_ne_true] at clip face
      exact .ended old held clip face

/-- A new clip on the surface that was expected, or none. -/
theorem beginClip_grabbed (rect : Rect) (free : s.seat.input.clip = none) :
    Grabbed kind s (s.beginClip s.face.surface rect kind).1 := by
  let created : Scene := { s with env := s.env.createCaptureWindow.1 }
  have face : created.enableRaw.1.face = s.face.withCapture s.standing.fresh s.env.thread :=
    created.face_enableRaw
  obtain ⟨-, kept, -⟩ := created.enableRaw_answer
  have unclipped : created.enableRaw.1.seat.input.clip = none := kept.trans free
  cases raw : created.enableRaw with
  | mk v on =>
      rw [raw] at face unclipped
      rw [s.beginClip_eq _ rect kind raw]
      cases on with
      | false =>
          rw [if_neg Bool.false_ne_true]
          refine .declined free unclipped ?_
          rw [← face]
          exact v.face_destroyWindow s.standing.fresh
      | true =>
          let ready := v.request (.unmap s.face.surface)
          have hface : ready.face = s.face.withCapture s.standing.fresh s.env.thread :=
            (v.face_request rfl).trans face
          have idle : ready.seat.input.isClipping = false := by
            simp only [InputState.isClipping, Option.isSome_eq_false_iff, Option.isNone_iff_eq_none]
            exact unclipped
          obtain ⟨clip, -⟩ := ready.confine_answer s.face.surface ⟨rect, s.standing.fresh, kind⟩
          have confined := ready.face_confine s.face.surface ⟨rect, s.standing.fresh, kind⟩
          rw [idle, hface] at confined
          rw [if_pos rfl]
          cases succeeds : ready.env.grabSucceeds with
          | true =>
              rw [succeeds, if_pos rfl] at clip confined
              exact .opened rect free clip confined
          | false =>
              rw [succeeds, if_neg Bool.false_ne_true] at clip confined
              exact .declined free clip confined

/-- To take the capture surface makes no difference to a grab. -/
theorem Grabbed.of_useSurface (h : Grabbed kind s.useSurface.1 t) : Grabbed kind s t := by
  have face := s.face_useSurface
  obtain ⟨-, clip, -⟩ := s.useSurface_answer
  have fresh : s.useSurface.1.standing.fresh = s.standing.fresh := by
    unfold useSurface
    split
    · rfl
    · dsimp only
      unfold Environment.useCaptureSurface
      split
      · split <;> rfl
      · rfl
  have thread : s.useSurface.1.env.thread = s.env.thread :=
    congrArg (fun g : Ground => g.thread) s.ground_useSurface
  cases h with
  | kept hclip hface => exact .kept (hclip.trans clip) (hface.trans face)
  | declined free hclip hface =>
      rw [face, fresh, thread] at hface
      exact .declined (clip.symm.trans free) hclip hface
  | opened rect free hclip hface =>
      rw [face, fresh, thread] at hface
      rw [fresh] at hclip
      exact .opened rect (clip.symm.trans free) hclip hface
  | moved rect old held hclip hface =>
      rw [face] at hface
      exact .moved rect old (clip.symm.trans held) hclip hface
  | ended old held hclip hface =>
      rw [face] at hface
      exact .ended old (clip.symm.trans held) hclip hface

theorem grab_grabbed (s : Scene) (rect : Rect) (kind : ClipKind) :
    Grabbed kind s (s.grab rect kind).1 := by
  have used := fun w => s.useSurface_eq (w := w)
  have face := s.face_useSurface
  obtain ⟨-, clip, -⟩ := s.useSurface_answer
  have taken : ∀ t, Grabbed kind s.useSurface.1 t → Grabbed kind s t := fun _ => .of_useSurface
  unfold grab
  split
  · exact .kept rfl rfl
  split
  · exact .kept rfl rfl
  cases hu : s.useSurface with
  | mk u surface =>
      rw [hu] at used face clip taken
      cases surface with
      | none => exact .kept clip face
      | some w =>
          obtain ⟨-, rfl⟩ := used w rfl
          dsimp only
          split
          · next free =>
              have begun : Grabbed kind u (u.beginClip u.face.surface rect kind).1 :=
                beginClip_grabbed rect free
              rw [face] at begun
              exact taken _ begun
          · next old held => exact taken _ (confine_grabbed rect held)

/-- To confine the pointer takes no time, and is no reset. -/
theorem Grabbed.clock (h : Grabbed kind s t) : t.face.clock = s.face.clock := by
  cases h with
  | kept _ face | declined _ _ face | opened _ _ _ face | moved _ _ _ _ face | ended _ _ _ face =>
      simp [face]

end GuestSeat.Scene
