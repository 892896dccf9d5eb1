import GuestSeat.Proofs.Clip.Standing

/-!
What can become of a clip. A grab and a release change the standing of a scene in one of the ways that
`Scene.Outcome` lists, and in no other. The number counts the handles that an outcome may use up, and
the rectangles that are put in force come from a given set.
-/

namespace GuestSeat

open Environment (desktop)

/-- To take the capture surface tells nobody and touches no window of the guest. -/
theorem Environment.useCaptureSurface_frame (env : Environment) :
    env.useCaptureSurface.1.journal = env.journal ∧
      env.useCaptureSurface.1.threadOf? = env.threadOf? ∧
      env.useCaptureSurface.1.thread = env.thread := by
  unfold useCaptureSurface
  split
  · split <;> exact ⟨rfl, rfl, rfl⟩
  · exact ⟨rfl, rfl, rfl⟩

/-- The area of the root that the capture surface of a clip covers. -/
def Scene.area (s : Scene) (rect : Rect) : Rect := (s.env.map.rectToRoot rect).atLeastUnit

namespace Standing

variable (st : Standing)

def prepared (thread : ThreadId) : Standing := (st.withWindow thread).asked .enabled

def declined (thread : ThreadId) : Standing :=
  ((st.withWindow thread).asked .unavailable).withoutWindow st.fresh

def refused (thread : ThreadId) (w : HostWindow) (area : Rect) : Standing :=
  (st.prepared thread).closed (.unmap w :: grabWork w area) st.fresh

def opened (thread : ThreadId) (w : HostWindow) (area rect : Rect) (kind : ClipKind)
    (native : Option HostCursor) : Standing :=
  (doing { st.prepared thread with clip := some ⟨rect, st.fresh, kind⟩ }
    (.unmap w :: grabWork w area ++ [.defineCursor w native])).reporting .null st.fresh

def moved (capture : Handle) (w : HostWindow) (area rect : Rect) (kind : ClipKind) : Standing :=
  (doing { st with clip := some ⟨rect, capture, kind⟩ } (grabWork w area)).reporting capture capture

/-- A clip ended, after requests that tried to keep it. -/
def ended (tries : List HostRequest) (capture : Handle) (report : Bool) : Standing :=
  if report then (st.closed tries capture).reporting capture .null else st.closed tries capture

end Standing

/-- What a clip may go through: the rectangles that may come into force, and whether one may end without
a report. -/
structure Permit where
  rect : Rect → Prop
  silence : Prop

namespace Scene

inductive Outcome (R : Permit) : Nat → Scene → Scene → Prop
  | quiet {n : Nat} {s t : Scene} (h : s.Quiet t) : Outcome R n s t
  /-- The capture surface was created. -/
  | surfaced {n : Nat} {s t : Scene} (w : HostWindow) (ground : t.ground = s.ground)
      (bare : s.standing.surface = none)
      (standing : t.standing = { s.standing with surface := some w }) : Outcome R n s t
  | declined {n : Nat} {s t : Scene} (ground : t.ground = s.ground) (free : s.standing.clip = none)
      (plain : s.standing.registry = none)
      (standing : t.standing = s.standing.declined s.env.thread) : Outcome R (n + 1) s t
  | refused {n : Nat} {s t : Scene} (w : HostWindow) (area : Rect) (ground : t.ground = s.ground)
      (free : s.standing.clip = none) (plain : s.standing.registry = none)
      (surface : s.standing.surface = some w)
      (standing : t.standing = s.standing.refused s.env.thread w area) : Outcome R (n + 1) s t
  | opened {n : Nat} {s t : Scene} (w : HostWindow) (rect : Rect) (kind : ClipKind)
      (native : Option HostCursor) (hR : R.rect rect) (ground : t.ground = s.ground)
      (free : s.standing.clip = none) (plain : s.standing.registry = none)
      (surface : s.standing.surface = some w)
      (standing : t.standing = s.standing.opened s.env.thread w (s.area rect) rect kind native) :
      Outcome R (n + 1) s t
  | moved {n : Nat} {s t : Scene} (w : HostWindow) (rect : Rect) (kind : ClipKind)
      (old : ClipRegion) (hR : R.rect rect) (ground : t.ground = s.ground)
      (held : s.standing.clip = some old) (surface : s.standing.surface = some w)
      (standing : t.standing = s.standing.moved old.captureWindow w (s.area rect) rect kind) :
      Outcome R n s t
  /-- The clip ended, because of a release or because the host refused it another rectangle. -/
  | ended {n : Nat} {s t : Scene} (tries : List HostRequest) (old : ClipRegion) (report : Bool)
      (told : report = true ∨ R.silence)
      (ground : t.ground = s.ground) (held : s.standing.clip = some old)
      (tried : tries = [] ∨ ∃ w area, s.standing.surface = some w ∧ tries = grabWork w area)
      (standing : t.standing = s.standing.ended tries old.captureWindow report) : Outcome R n s t

namespace Outcome

variable {R : Permit} {n : Nat} {s t : Scene}

theorem ground (h : Outcome R n s t) : t.ground = s.ground := by
  cases h with
  | quiet h => exact h.ground
  | surfaced _ ground | declined ground | refused _ _ ground | opened _ _ _ _ _ ground
  | moved _ _ _ _ _ ground | ended _ _ _ _ ground => exact ground

/-- A seat without a registry never gets one. -/
theorem registry (h : Outcome R n s t) (hs : s.standing.registry = none) :
    t.standing.registry = none := by
  cases h with
  | quiet h => exact h.registry.trans hs
  | surfaced _ _ _ standing | declined _ _ _ standing | refused _ _ _ _ _ _ standing =>
      rw [standing]
      exact hs
  | opened _ _ _ _ _ _ _ _ _ standing | moved _ _ _ _ _ _ _ _ standing =>
      rw [standing]
      exact Standing.registry_reporting _ hs _ _
  | ended _ _ report _ _ _ _ standing =>
      rw [standing]
      cases report with
      | false => exact hs
      | true => exact Standing.registry_reporting _ hs _ _

/-- Handles are used up in order, and no more of them than there is room for. -/
theorem nextHandle {m : Nat} (h : Outcome R m s t)
    (room : s.standing.nextHandle.toNat + 2 * (m + n) < UInt64.size) :
    s.standing.nextHandle.toNat ≤ t.standing.nextHandle.toNat ∧
      t.standing.nextHandle.toNat + 2 * n < UInt64.size := by
  have kept : t.standing.nextHandle = s.standing.nextHandle →
      s.standing.nextHandle.toNat ≤ t.standing.nextHandle.toNat ∧
        t.standing.nextHandle.toNat + 2 * n < UInt64.size := by
    intro eq
    rw [eq]
    omega
  have spent : ∀ k, m = k + 1 →
      t.standing.nextHandle = (s.standing.withWindow s.env.thread).nextHandle →
      s.standing.nextHandle.toNat ≤ t.standing.nextHandle.toNat ∧
        t.standing.nextHandle.toNat + 2 * n < UInt64.size := by
    intro k hk eq
    rw [eq, s.standing.nextHandle_withWindow (by omega)]
    omega
  cases h with
  | quiet h => exact kept h.env.nextHandle
  | surfaced _ _ _ standing | moved _ _ _ _ _ _ _ _ standing =>
      exact kept (congrArg Standing.nextHandle standing :)
  | ended _ _ report _ _ _ _ standing =>
      refine kept ((congrArg Standing.nextHandle standing).trans ?_)
      cases report <;> rfl
  | declined _ _ _ standing | refused _ _ _ _ _ _ standing | opened _ _ _ _ _ _ _ _ _ standing =>
      exact spent _ rfl (congrArg Standing.nextHandle standing :)

/-- The windows that came before stay as they are, but for the one that stands for the clip. -/
theorem threads (h : Outcome R n s t) {k : Handle} (known : k.id.toNat < s.standing.nextHandle.toNat)
    (other : ∀ region, s.standing.clip = some region → region.captureWindow ≠ k) :
    t.standing.threads k = s.standing.threads k := by
  have new : k ≠ s.standing.fresh := by
    rintro rfl
    exact Nat.lt_irrefl _ known
  cases h with
  | quiet h => exact congrFun h.env.threads k
  | surfaced _ _ _ standing => rw [standing]
  | moved _ _ _ _ _ _ _ _ standing =>
      rw [standing]
      rfl
  | declined _ _ _ standing | refused _ _ _ _ _ _ standing | opened _ _ _ _ _ _ _ _ _ standing =>
      rw [standing]
      simp [Standing.declined, Standing.refused, Standing.opened, Standing.reporting,
        Standing.prepared, Standing.closed, Standing.withoutRaw, Standing.doing, Standing.asked,
        Standing.withWindow, Standing.withoutWindow, new]
  | ended _ old report _ _ held _ standing =>
      rw [standing]
      have apart : k ≠ old.captureWindow := fun eq => other old held eq.symm
      cases report <;> simp [Standing.ended, Standing.reporting, Standing.closed,
        Standing.withoutRaw, Standing.doing, Standing.withoutWindow, apart]

end Outcome

variable (R : Permit) (s : Scene)

/-- A release ends the clip, if there is one. -/
theorem release_outcome (n : Nat) {report : Bool} (told : report = true ∨ R.silence) :
    Outcome R n s (s.release report) := by
  cases h : s.seat.input.clip with
  | none =>
      have unchanged : s.release report = s := by simp [release, h]
      rw [unchanged]
      exact .quiet (.refl s)
  | some region =>
      exact .ended [] region report told (s.ground_release report) h (Or.inl rfl)
        (s.release_of_clip report h)

theorem ground_useSurface : s.useSurface.1.ground = s.ground := by
  unfold useSurface
  split
  · rfl
  · dsimp only
    unfold Environment.useCaptureSurface
    split
    · split <;> rfl
    · rfl

/-- A capture surface that is there is used again; otherwise it is created, unless the host refuses. -/
theorem useSurface_outcome :
    Outcome R 0 s s.useSurface.1 ∧ s.useSurface.1.standing.registry = s.standing.registry ∧
      s.useSurface.1.standing.surface = s.useSurface.2 := by
  have ground := s.ground_useSurface
  unfold useSurface at ground ⊢
  cases h : s.seat.input.captureSurface with
  | some w => exact ⟨.quiet (.refl s), rfl, h⟩
  | none =>
      simp only [h] at ground ⊢
      cases hw : s.env.useCaptureSurface with
      | mk env surface =>
          rw [hw] at ground
          refine ⟨?_, rfl, rfl⟩
          unfold Environment.useCaptureSurface at hw
          split at hw
          · split at hw
            · cases hw
              exact .surfaced _ ground h rfl
            · cases hw
              exact .surfaced _ ground h rfl
          · cases hw
            exact .quiet { Quiet.refl s with captureSurface := h.symm }

/-- The scene in which the host decides on a grab. -/
theorem confine_cases (w : HostWindow) (region : ClipRegion) : ∃ t : Scene,
    t.standing = s.standing.doing (grabWork w (s.area region.rect)) ∧ t.ground = s.ground ∧
      s.confine w region = if s.env.grabSucceeds then (t.establish w region, true)
        else (t.abandonGrab w region.captureWindow, false) := by
  let shown := s.showSurface w region.rect
  let aimed := if s.seat.input.clip.all fun previous => region.rect.restricts previous.rect
    then shown.armWarpFence else shown
  refine ⟨aimed.request (.grabPointer w), ?_, ?_, ?_⟩
  · have haimed : aimed.standing = shown.standing := by
      dsimp only [aimed]
      split <;> rfl
    rw [standing_request, haimed]
    simp only [shown, showSurface, standing_request, Standing.doing_doing]
    rfl
  · dsimp only [aimed]
    split <;> rfl
  · have hgrab : (aimed.request (.grabPointer w)).env.grabSucceeds = s.env.grabSucceeds := by
      dsimp only [aimed]
      split <;> rfl
    rw [← hgrab]
    rfl

/-- A clip in force passes to another rectangle, or ends because the host refuses. -/
theorem confine_outcome {n : Nat} {w : HostWindow} {rect : Rect} {old : ClipRegion}
    (kind : ClipKind) (hR : R.rect rect) (held : s.standing.clip = some old)
    (surface : s.standing.surface = some w) :
    Outcome R n s (s.confine w ⟨rect, old.captureWindow, kind⟩).1 := by
  obtain ⟨t, standing, ground, hconfine⟩ := s.confine_cases w ⟨rect, old.captureWindow, kind⟩
  have htclip : t.seat.input.clip = some old := by
    rw [← held, show t.seat.input.clip = t.standing.clip from rfl, standing]
    rfl
  have htsurface : t.seat.input.captureSurface = some w := by
    rw [← surface, show t.seat.input.captureSurface = t.standing.surface from rfl, standing]
    rfl
  rw [hconfine]
  cases s.env.grabSucceeds with
  | true =>
      refine .moved w rect kind old hR ((ground_establish ..).trans ground) held surface ?_
      have established := t.standing_establish w ⟨rect, old.captureWindow, kind⟩
      simp only [htclip] at established
      simp only [if_true]
      rw [established, standing]
      rfl
  | false =>
      refine .ended (grabWork w (s.area rect)) old true (Or.inl rfl)
        ((ground_abandonGrab ..).trans ground) held (Or.inr ⟨w, s.area rect, surface, rfl⟩) ?_
      have abandoned := t.standing_abandonGrab old.captureWindow htsurface
      simp only [htclip] at abandoned
      simp only [Bool.false_eq_true, if_false]
      rw [abandoned, standing, Standing.closed_doing]
      rfl

/-- The host decides on a new clip that was made ready. -/
theorem decided_outcome {n : Nat} {t : Scene} {w : HostWindow} {rect : Rect} (kind : ClipKind)
    (hR : R.rect rect) (free : s.standing.clip = none) (plain : s.standing.registry = none)
    (surface : s.standing.surface = some w) (ground : t.ground = s.ground) (standing : t.standing =
      (s.standing.prepared s.env.thread).doing (.unmap w :: grabWork w (s.area rect))) :
    Outcome R (n + 1) s (t.establish w ⟨rect, s.standing.fresh, kind⟩) ∧
      Outcome R (n + 1) s (t.abandonGrab w s.standing.fresh) := by
  have htclip : t.seat.input.clip = none := by
    rw [← free, show t.seat.input.clip = t.standing.clip from rfl, standing]
    rfl
  have htsurface : t.seat.input.captureSurface = some w := by
    rw [← surface, show t.seat.input.captureSurface = t.standing.surface from rfl, standing]
    rfl
  constructor
  · have established := t.standing_establish w ⟨rect, s.standing.fresh, kind⟩
    simp only [htclip] at established
    obtain ⟨native, established⟩ := established
    refine .opened w rect kind native hR ((ground_establish ..).trans ground) free plain surface ?_
    rw [established, standing]
    unfold Standing.opened
    congr 1
    simp [Standing.doing]
  · have abandoned := t.standing_abandonGrab s.standing.fresh htsurface
    simp only [htclip] at abandoned
    refine .refused w (s.area rect) ((ground_abandonGrab ..).trans ground) free plain surface ?_
    rw [abandoned, standing, Standing.closed_doing]
    rfl

/-- A clip begins with a capture window and raw motion, without which it is given up. -/
theorem beginClip_eq (s : Scene) (w : HostWindow) (rect : Rect) (kind : ClipKind) {v : Scene}
    {on : Bool}
    (h : ({ s with env := s.env.createCaptureWindow.1 } : Scene).enableRaw = (v, on)) :
    s.beginClip w rect kind =
      if on then (v.request (.unmap w)).confine w ⟨rect, s.standing.fresh, kind⟩
      else (v.act fun env => (env.destroyWindow s.standing.fresh).resetGuestClip, true) := by
  unfold beginClip
  dsimp only
  rw [h]
  cases on <;> rfl

/-- A new clip begins, or the host refuses it. -/
theorem beginClip_outcome {n : Nat} {w : HostWindow} {rect : Rect} (kind : ClipKind) (hR : R.rect rect)
    (free : s.standing.clip = none) (plain : s.standing.registry = none)
    (surface : s.standing.surface = some w) : Outcome R (n + 1) s (s.beginClip w rect kind).1 := by
  let created : Scene := { s with env := s.env.createCaptureWindow.1 }
  have hcreated : created.standing = s.standing.withWindow s.env.thread :=
    s.standing_createCaptureWindow
  obtain ⟨status, asked, ground, answer⟩ := created.standing_enableRaw
  rw [hcreated] at asked
  cases hraw : created.enableRaw with
  | mk v on =>
      rw [s.beginClip_eq w rect kind hraw]
      simp only [hraw] at asked ground answer
      replace ground : v.ground = s.ground := ground
      rcases answer with ⟨rfl, rfl⟩ | ⟨rfl, rfl⟩
      · obtain ⟨t, standing, hground, hconfine⟩ :=
          (v.request (.unmap w)).confine_cases w ⟨rect, s.standing.fresh, kind⟩
        have harea : (v.request (.unmap w)).area rect = s.area rect :=
          congrArg (fun g : Ground => (g.map.rectToRoot rect).atLeastUnit) ground
        rw [standing_request, asked, Standing.doing_doing, harea] at standing
        obtain ⟨established, abandoned⟩ :=
          s.decided_outcome R kind hR free plain surface (n := n) (hground.trans ground) standing
        rw [if_pos rfl, hconfine]
        split
        · exact established
        · exact abandoned
      · rw [if_neg (by simp)]
        refine .declined ?_ free plain ?_
        · exact (ground_destroyWindow v s.standing.fresh).trans ground
        · exact (standing_destroyWindow v s.standing.fresh).trans (by rw [asked]; rfl)

theorem registry_of_member (h : s.onDesktopThread = false) : s.standing.registry = none := by
  unfold onDesktopThread at h
  simp only [Bool.or_eq_false_iff] at h
  show s.seat.registry = none
  simpa using h.1

/-- A grab may create the capture surface; then it begins a clip, moves one or ends it. -/
theorem grab_outcome {n : Nat} {rect : Rect} (kind : ClipKind) (hR : R.rect rect) :
    ∃ t, Outcome R 0 s t ∧ Outcome R (n + 1) t (s.grab rect kind).1 := by
  unfold grab
  split
  · exact ⟨s, .quiet (.refl s), .quiet (.refl s)⟩
  next member =>
  split
  · exact ⟨s, .quiet (.refl s), .quiet (.refl s)⟩
  have plain : s.standing.registry = none := s.registry_of_member (by simpa using member)
  obtain ⟨used, hregistry, hsurface⟩ := s.useSurface_outcome R
  cases hu : s.useSurface with
  | mk t surface =>
      rw [hu] at used hregistry hsurface
      refine ⟨t, used, ?_⟩
      cases surface with
      | none => exact .quiet (.refl t)
      | some w =>
          dsimp only
          split
          · next free => exact t.beginClip_outcome R kind hR free (hregistry.trans plain) hsurface
          · next old held => exact t.confine_outcome R kind hR held hsurface

end Scene

end GuestSeat
