import GuestSeat.Proofs.Clip.Run
import GuestSeat.Seat.Validity

/-!
When the state of a seat is valid. Everything that validity asks of a clip is kept up by every outcome,
except that its rectangle is not empty: a request to put the guest's clip rectangle in force does not
look whether any of it lies on the screen.
-/

namespace GuestSeat

open Environment (desktop)

/-- Surroundings in which a seat that is not the desktop's can work. -/
structure Environment.Hosts (env : Environment) : Prop where
  member : env.threadOf? desktop ≠ some env.thread
  visible : env.primaryMonitor.isEmpty = false
  onScreen : env.primaryMonitor.isWithin env.virtualScreen = true
  past : desktop.id.toNat < env.nextHandle.toNat

namespace Scene

structure Backed (screen : Rect) (s : Scene) (region : ClipRegion) : Prop where
  onScreen : region.rect.isWithin screen = true
  named : desktop.id.toNat < region.captureWindow.id.toNat
  surfaced : s.standing.surface.isSome = true
  tracked : s.standing.rawStatus = .enabled

/-- What a seat that is not the desktop's keeps up, with room for some handles yet. -/
structure Sound (screen : Rect) (n : Nat) (s : Scene) : Prop where
  plain : s.standing.registry = none
  hosts : s.env.Hosts
  fixed : s.env.virtualScreen = screen
  room : s.standing.nextHandle.toNat + 2 * n < UInt64.size
  backed : ∀ region, s.standing.clip = some region → Backed screen s region

variable {R : Permit} {screen : Rect} {m n : Nat} {s t : Scene}

theorem Backed.congr {region : ClipRegion} (h : Backed screen s region)
    (surface : t.standing.surface = s.standing.surface)
    (rawStatus : t.standing.rawStatus = s.standing.rawStatus) : Backed screen t region :=
  ⟨h.onScreen, h.named, by rw [surface]; exact h.surfaced, by rw [rawStatus]; exact h.tracked⟩

theorem Outcome.backed (h : Outcome R m s t) (hR : ∀ r, R.rect r → r.isWithin screen = true)
    (hs : s.Sound screen n) {region : ClipRegion} (held : t.standing.clip = some region) :
    Backed screen t region := by
  cases h with
  | quiet h =>
      have same : s.standing.clip = some region := h.clip.symm.trans held
      exact (hs.backed region same).congr h.captureSurface h.rawStatus
  | surfaced w _ bare standing =>
      rw [standing] at held
      have surfaced := (hs.backed region held).surfaced
      simp [bare] at surfaced
  | declined _ free _ standing =>
      rw [standing] at held
      exact absurd (free.symm.trans held) (by simp)
  | refused _ _ _ _ _ _ standing =>
      rw [standing] at held
      cases held
  | opened w rect kind _ rectR _ _ _ surface standing =>
      rw [standing] at held
      cases held
      refine ⟨hR rect rectR, hs.hosts.past, ?_, ?_⟩
      · rw [standing]
        exact Option.isSome_of_mem surface
      · rw [standing]
        rfl
  | moved w rect kind old rectR _ before surface standing =>
      rw [standing] at held
      cases held
      have backed := hs.backed old before
      refine ⟨hR rect rectR, backed.named, ?_, ?_⟩
      · rw [standing]
        exact backed.surfaced
      · rw [standing]
        exact backed.tracked
  | ended _ _ report _ _ _ _ standing =>
      rw [standing] at held
      cases report <;> cases held

/-- A clip stays sound if it only gets rectangles on the screen. -/
theorem Outcome.sound (h : Outcome R m s t) (hR : ∀ r, R.rect r → r.isWithin screen = true)
    (hs : s.Sound screen (m + n)) : t.Sound screen n := by
  obtain ⟨grown, room⟩ := h.nextHandle hs.room
  have setting := h.ground
  simp only [Scene.ground, Ground.mk.injEq, Setting.mk.injEq] at setting
  obtain ⟨⟨-, -, hscreen, hmonitor, hthread⟩, -⟩ := setting
  have apart : ∀ region, s.standing.clip = some region → region.captureWindow ≠ desktop := by
    rintro region held eq
    have named := (hs.backed region held).named
    rw [eq] at named
    exact Nat.lt_irrefl _ named
  have desktopKept : t.env.threadOf? desktop = s.env.threadOf? desktop :=
    h.threads hs.hosts.past apart
  refine ⟨h.registry hs.plain, ⟨?_, ?_, ?_, ?_⟩, hscreen.trans hs.fixed, room,
    fun region held => h.backed hR hs held⟩
  · rw [desktopKept, hthread]
    exact hs.hosts.member
  · rw [hmonitor]
    exact hs.hosts.visible
  · rw [hmonitor, hscreen]
    exact hs.hosts.onScreen
  · exact Nat.lt_of_lt_of_le hs.hosts.past grown

theorem Sound.mono (h : s.Sound screen (m + n)) : s.Sound screen n :=
  ⟨h.plain, h.hosts, h.fixed, by have := h.room; omega, h.backed⟩

theorem Sound.rests (h : s.Sound screen n) (standing : t.standing = s.standing)
    (setting : t.ground.toSetting = s.ground.toSetting) : t.Sound screen n := by
  simp only [Scene.ground, Setting.mk.injEq] at setting
  obtain ⟨-, -, hscreen, hmonitor, hthread⟩ := setting
  have threads : t.env.threadOf? = s.env.threadOf? := congrArg Standing.threads standing
  have nextHandle : t.env.nextHandle = s.env.nextHandle := congrArg Standing.nextHandle standing
  refine ⟨by rw [standing]; exact h.plain, ⟨?_, ?_, ?_, ?_⟩, hscreen.trans h.fixed,
    by rw [standing]; exact h.room, ?_⟩
  · rw [threads, hthread]
    exact h.hosts.member
  · rw [hmonitor]
    exact h.hosts.visible
  · rw [hmonitor, hscreen]
    exact h.hosts.onScreen
  · rw [nextHandle]
    exact h.hosts.past
  · intro region held
    rw [standing] at held
    exact (h.backed region held).congr (by rw [standing]) (by rw [standing])

/-- In sound surroundings an empty rectangle is all that can be wrong between events. -/
theorem Sound.violation_eq (h : s.Sound screen n) (idle : s.seat.input.inFlight = none) :
    s.violation? =
      (s.seat.input.clip.filter fun region => region.rect.isEmpty).map fun region =>
        .emptyClip region.rect := by
  unfold Scene.violation? InputState.idleViolation? InputState.violation?
  rw [if_neg (by simp [InputState.isHandling, idle])]
  cases hc : s.seat.input.clip with
  | none => rfl
  | some region =>
      have backed := h.backed region hc
      have surfaced : s.seat.input.captureSurface.isSome = true := backed.surfaced
      have tracked : s.seat.input.raw.status = .enabled := backed.tracked
      have named : region.captureWindow.isNull = false := by
        by_contra null
        have eq : region.captureWindow = Handle.null := by simpa [Handle.isNull] using null
        have named := backed.named
        rw [eq] at named
        exact Nat.not_lt_zero _ named
      have onScreen : region.rect.isWithin s.env.virtualScreen = true := by
        rw [h.fixed]
        exact backed.onScreen
      have member : (s.env.threadOf? desktop == some s.env.thread) = false := by
        simpa using h.hosts.member
      unfold InputState.clipViolation?
      cases empty : region.rect.isEmpty <;>
        simp [Option.filter, empty, onScreen, named, Option.isNone_eq_false_iff.mpr surfaced,
          Accumulator.isEnabled, tracked, member]

variable (s) in
def grantsRaw : Bool :=
  match s.seat.input.raw.status with
  | .enabled => true
  | .unavailable => false
  | .unknown | .disabled => s.env.rawSession.isSome

variable (s) in
def grants : Bool :=
  s.env.grabSucceeds && (s.seat.input.isClipping ||
    (s.seat.input.captureSurface.isSome || s.env.captureSupported) && s.grantsRaw)

theorem enableRaw_answer (s : Scene) : s.enableRaw.2 = s.grantsRaw ∧
    s.enableRaw.1.seat.input.clip = s.seat.input.clip ∧
      s.enableRaw.1.env.grabSucceeds = s.env.grabSucceeds := by
  unfold enableRaw grantsRaw
  cases s.seat.input.raw.status with
  | enabled | unavailable => exact ⟨rfl, rfl, rfl⟩
  | unknown | disabled =>
      have session : (s.request .enableRawMotion).env.rawSession = s.env.rawSession := rfl
      simp only [session]
      cases s.env.rawSession <;> exact ⟨rfl, rfl, rfl⟩

theorem useSurface_answer (s : Scene) :
    s.useSurface.2.isSome = (s.seat.input.captureSurface.isSome || s.env.captureSupported) ∧
      s.useSurface.1.seat.input.clip = s.seat.input.clip ∧
      s.useSurface.1.env.grabSucceeds = s.env.grabSucceeds ∧
      s.useSurface.1.grantsRaw = s.grantsRaw := by
  unfold useSurface Environment.useCaptureSurface
  cases s.seat.input.captureSurface with
  | some w => exact ⟨rfl, rfl, rfl, rfl⟩
  | none =>
      cases supported : s.env.captureSupported with
      | false => exact ⟨rfl, rfl, rfl, rfl⟩
      | true => cases s.env.captureSurface <;> exact ⟨rfl, rfl, rfl, rfl⟩

theorem clip_abandonGrab (s : Scene) (w : HostWindow) (capture : Handle) :
    (s.abandonGrab w capture).seat.input.clip = none := by
  unfold abandonGrab
  dsimp only
  split
  · rfl
  · exact congrArg Standing.clip (standing_reportOwner _ _ _)

theorem clip_release (s : Scene) (report : Bool) : (s.release report).seat.input.clip = none := by
  cases h : s.seat.input.clip with
  | none => simp [release, h]
  | some region =>
      refine (congrArg Standing.clip (s.release_of_clip report h)).trans ?_
      split <;> rfl

theorem clip_establish (s : Scene) (w : HostWindow) (region : ClipRegion) :
    (s.establish w region).seat.input.clip = some region := by
  have established := s.standing_establish w region
  cases h : s.seat.input.clip with
  | none =>
      simp only [h] at established
      obtain ⟨native, standing⟩ := established
      exact congrArg Standing.clip standing
  | some old =>
      simp only [h] at established
      exact congrArg Standing.clip established

theorem confine_answer (s : Scene) (w : HostWindow) (region : ClipRegion) :
    (s.confine w region).1.seat.input.clip = (if s.env.grabSucceeds then some region else none) ∧
      (s.confine w region).2 = s.env.grabSucceeds := by
  obtain ⟨t, -, -, hconfine⟩ := s.confine_cases w region
  rw [hconfine]
  cases s.env.grabSucceeds with
  | true => exact ⟨t.clip_establish w region, rfl⟩
  | false => exact ⟨t.clip_abandonGrab w region.captureWindow, rfl⟩

theorem beginClip_answer (s : Scene) (w : HostWindow) (rect : Rect) (kind : ClipKind)
    (free : s.seat.input.clip = none) : (s.beginClip w rect kind).1.seat.input.clip =
      (if s.env.grabSucceeds && s.grantsRaw then some ⟨rect, s.standing.fresh, kind⟩ else none) ∧
      (s.env.grabSucceeds = true → (s.beginClip w rect kind).2 = true) := by
  let created : Scene := { s with env := s.env.createCaptureWindow.1 }
  obtain ⟨answer, kept, succeeds⟩ := created.enableRaw_answer
  have hraw : created.grantsRaw = s.grantsRaw := rfl
  have hsucceeds : created.env.grabSucceeds = s.env.grabSucceeds := rfl
  rw [hraw] at answer
  rw [hsucceeds] at succeeds
  cases he : created.enableRaw with
  | mk v on =>
      rw [s.beginClip_eq w rect kind he]
      rw [he] at answer kept succeeds
      dsimp only at answer kept succeeds
      subst answer
      cases hg : s.grantsRaw with
      | false =>
          rw [Bool.and_false, if_neg (by simp)]
          exact ⟨kept.trans free, fun _ => rfl⟩
      | true =>
          obtain ⟨clip, granted⟩ :=
            (v.request (.unmap w)).confine_answer w ⟨rect, s.standing.fresh, kind⟩
          rw [Bool.and_true, ← succeeds]
          exact ⟨clip, granted.trans⟩

/-- A seat off the desktop's thread gets the clip that it asks for if the host grants it. -/
theorem grab_of_grants (s : Scene) (rect : Rect) (kind : ClipKind)
    (member : s.onDesktopThread = false)
    (surfaced : s.seat.input.clip.isSome = true → s.seat.input.captureSurface.isSome = true)
    (granted : s.grants = true) :
    ∃ capture, (s.grab rect kind).1.seat.input.clip = some ⟨rect, capture, kind⟩ ∧
      (s.grab rect kind).2 = true := by
  obtain ⟨surface, kept, succeeds, raw⟩ := s.useSurface_answer
  simp only [grants, Bool.and_eq_true, Bool.or_eq_true] at granted
  obtain ⟨hgrab, granted⟩ := granted
  unfold grab
  rw [if_neg (by simp [member])]
  split
  · next same =>
      obtain ⟨region, held, same⟩ := Option.any_eq_true _ _ |>.mp same
      simp only [Bool.and_eq_true, beq_iff_eq] at same
      refine ⟨region.captureWindow, held.trans ?_, rfl⟩
      rw [← same.1, ← same.2]
  cases hu : s.useSurface with
  | mk u w =>
      rw [hu] at surface kept succeeds raw
      dsimp only at surface kept succeeds raw
      cases w with
      | none =>
          -- a clip in force has a surface already, and otherwise one can be had
          simp only [Option.isSome_none, Bool.false_eq, Bool.or_eq_false_iff] at surface
          rcases granted with clipping | ⟨usable | usable, -⟩
          · simp [surface.1] at surfaced
            simp [InputState.isClipping, surfaced] at clipping
          · simp [surface.1] at usable
          · simp [surface.2] at usable
      | some w =>
          dsimp only
          rw [hgrab] at succeeds
          split
          · next free =>
              have unclipped : s.seat.input.isClipping = false := by
                simp [InputState.isClipping, ← kept, free]
              rcases granted with clipping | ⟨-, hraw⟩
              · simp [unclipped] at clipping
              · obtain ⟨clip, answer⟩ := u.beginClip_answer w rect kind free
                refine ⟨u.standing.fresh, clip.trans ?_, answer succeeds⟩
                simp [succeeds, raw, hraw]
          · next old held =>
              obtain ⟨clip, answer⟩ := u.confine_answer w ⟨rect, old.captureWindow, kind⟩
              rw [succeeds] at clip answer
              exact ⟨old.captureWindow, clip, answer⟩

/-- A seat to which the host does not grant a clip keeps the one it has or ends up with none. -/
theorem clip_grab_of_not_grants (s : Scene) (rect : Rect) (kind : ClipKind)
    (refused : s.grants = false) :
    (s.grab rect kind).1.seat.input.clip = s.seat.input.clip ∨
      (s.grab rect kind).1.seat.input.clip = none := by
  obtain ⟨surface, kept, succeeds, raw⟩ := s.useSurface_answer
  unfold grab
  split
  · exact Or.inl rfl
  split
  · exact Or.inl rfl
  cases hu : s.useSurface with
  | mk u w =>
      rw [hu] at surface kept succeeds raw
      dsimp only at surface kept succeeds raw
      cases w with
      | none => exact Or.inl kept
      | some w =>
          right
          have usable : (s.seat.input.captureSurface.isSome || s.env.captureSupported) = true :=
            surface.symm
          simp only [grants, usable, Bool.true_and] at refused
          dsimp only
          split
          · next free =>
              refine (u.beginClip_answer w rect kind free).1.trans (if_neg ?_)
              rw [succeeds, raw]
              intro granted
              simp only [Bool.and_eq_true] at granted
              simp [granted.1, granted.2] at refused
          · next old held =>
              have clipping : s.seat.input.isClipping = true := by
                simp [InputState.isClipping, ← kept, held]
              refine (u.confine_answer w _).1.trans (if_neg ?_)
              rw [succeeds]
              intro granted
              simp [granted, clipping] at refused

/-- A request to put the guest's clip rectangle in force strands the pointer if no part of the rectangle
lies on the screen and the host grants the clip all the same. -/
def Strands (s : Scene) : Turn → Prop
  | .call (.message h .clipRequest) =>
    h = s.env.foreground ∧ h ≠ desktop ∧ s.seat.config.pointer.grabPointer = true ∧
      (s.env.guestClip.clampTo s.env.virtualScreen).isEmpty = true ∧ s.grants = true
  | _ => False

/-- A seat without a registry is the desktop's only on the thread of the desktop window. -/
theorem onDesktopThread_of_apart (plain : s.seat.registry = none)
    (apart : s.env.threadOf? desktop ≠ some s.env.thread) : s.onDesktopThread = false := by
  unfold onDesktopThread
  simp only [Environment.threadOf?, Environment.owner?, plain] at apart ⊢
  cases hi : s.env.info? desktop with
  | none => rfl
  | some info =>
      rw [hi] at apart
      simpa using apart

theorem Sound.member (h : s.Sound screen n) : s.onDesktopThread = false :=
  onDesktopThread_of_apart h.plain h.hosts.member

theorem Sound.surfaced (h : s.Sound screen n) (clipping : s.seat.input.clip.isSome = true) :
    s.seat.input.captureSurface.isSome = true := by
  obtain ⟨region, held⟩ := Option.isSome_iff_exists.mp clipping
  exact (h.backed region held).surfaced

/-- On a screen of some size, a rectangle with no part on it restricts the pointer. -/
theorem restricts_of_clampTo_isEmpty {r outer inner : Rect} (visible : inner.isEmpty = false)
    (within : inner.isWithin outer = true) (empty : (r.clampTo outer).isEmpty = true) :
    r.restricts outer = true := by
  simp only [Rect.isEmpty, Rect.isWithin, Rect.restricts, Bool.or_eq_true, Bool.or_eq_false_iff,
    Bool.and_eq_true, decide_eq_true_eq, decide_eq_false_iff_not] at visible within empty ⊢
  simp only [Rect.clampTo] at empty
  omega

/-- The clip that a stranding request puts in force is empty. -/
theorem Sound.stranded (hs : s.Sound screen n) {turn : Turn} (strands : s.Strands turn)
    (taken : s.take? turn = some t) :
    ∃ region, t.seat.input.clip = some region ∧ region.rect.isEmpty = true := by
  unfold Strands at strands
  split at strands
  · next h =>
      obtain ⟨rfl, hdesktop, hgrab, empty, granted⟩ := strands
      cases taken
      have restricts := restricts_of_clampTo_isEmpty hs.hosts.visible hs.hosts.onScreen empty
      obtain ⟨capture, clip, answer⟩ := s.grab_of_grants
        (s.env.guestClip.clampTo s.env.virtualScreen) .explicit hs.member hs.surfaced granted
      refine ⟨⟨s.env.guestClip.clampTo s.env.virtualScreen, capture, .explicit⟩, ?_, empty⟩
      change (s.reapplyClip s.env.foreground).1.seat.input.clip = _
      unfold reapplyClip
      rw [if_neg (by simp [hdesktop]), if_pos (by simp [hgrab, restricts])]
      cases hg : s.grab (s.env.guestClip.clampTo s.env.virtualScreen) .explicit with
      | mk u granted =>
          rw [hg] at clip answer
          dsimp only at clip answer
          subst answer
          exact clip
  · exact strands.elim

def Settled (before : Option ClipRegion) (s : Scene) : Prop :=
  s.standing.clip = before ∨ ∀ region, s.standing.clip = some region → region.rect.isEmpty = false

theorem Outcome.settled {before : Option ClipRegion} (h : Outcome R m s t)
    (hR : ∀ r, R.rect r → r.isEmpty = false) (hs : Settled before s) : Settled before t := by
  have unclipped : t.standing.clip = none → Settled before t := fun clip =>
    Or.inr fun region held => absurd (clip.symm.trans held) (by simp)
  have filled : ∀ rect capture kind, R.rect rect → t.standing.clip = some ⟨rect, capture, kind⟩ →
      Settled before t := by
    intro rect capture kind rectR clip
    refine Or.inr fun region held => ?_
    obtain rfl : ⟨rect, capture, kind⟩ = region := Option.some.inj (clip.symm.trans held)
    exact hR rect rectR
  have same : t.standing.clip = s.standing.clip → Settled before t := fun clip => by
    unfold Settled
    rw [clip]
    exact hs
  cases h with
  | quiet h => exact same h.clip
  | surfaced _ _ _ standing => exact same (congrArg Standing.clip standing :)
  | declined _ _ _ standing => exact same (congrArg Standing.clip standing :)
  | refused _ _ _ _ _ _ standing => exact unclipped (congrArg Standing.clip standing :)
  | opened _ rect kind _ rectR _ _ _ _ standing =>
      exact filled rect _ kind rectR (congrArg Standing.clip standing :)
  | moved _ rect kind _ rectR _ _ _ standing =>
      exact filled rect _ kind rectR (congrArg Standing.clip standing :)
  | ended _ _ report _ _ _ _ standing =>
      refine unclipped ((congrArg Standing.clip standing).trans ?_)
      cases report <;> rfl

theorem Course.settled (h : Course R m s t) (hR : ∀ r, R.rect r → r.isEmpty = false) :
    Settled s.standing.clip t := by
  refine h.preserves (P := fun _ u => Settled s.standing.clip u) (fun h hu => h.settled hR hu) id ?_
    0 (Or.inl rfl)
  intro n u v standing _ hu
  unfold Settled
  rw [standing]
  exact hu

/-- A request that does not strand the pointer keeps the clip, or puts in force one that is not
empty. -/
theorem Sound.settled_clipRequest (hs : s.Sound screen n) (h : Handle)
    (safe : ¬ s.Strands (.call (.message h .clipRequest))) :
    Settled s.standing.clip (s.reapplyClip h).1 := by
  let filled : Permit := ⟨fun r => r.isEmpty = false, True⟩
  by_cases empty : (s.env.guestClip.clampTo s.env.virtualScreen).isEmpty = true
  · -- a request that is heard and not refused would strand the pointer
    unfold reapplyClip
    split
    · exact Or.inl rfl
    next listening =>
    simp only [Bool.or_eq_true, beq_iff_eq, bne_iff_ne, not_or, not_not] at listening
    split
    · next wanted =>
        simp only [Bool.and_eq_true] at wanted
        have refused : s.grants = false := by
          by_contra granted
          exact safe ⟨listening.2, listening.1, wanted.1, empty, by simpa using granted⟩
        have clip := s.clip_grab_of_not_grants
          (s.env.guestClip.clampTo s.env.virtualScreen) .explicit refused
        have unclipped : ∀ u : Scene, u.standing.clip = none → Settled s.standing.clip u :=
          fun u hu => Or.inr fun region held => absurd (hu.symm.trans held) (by simp)
        cases hg : s.grab (s.env.guestClip.clampTo s.env.virtualScreen) .explicit with
        | mk u granted =>
            rw [hg] at clip
            cases granted with
            | true => exact clip.elim Or.inl (unclipped u)
            | false => exact unclipped _ (u.clip_release true)
    · have deeds := s.clipFullscreen_deeds (L := filled.lax) h false nofun hs.hosts.visible
      exact deeds.course.settled fun r hr => hr
  · have deeds := s.reapplyClip_deeds (L := filled.lax) h trivial hs.hosts.visible
      (fun _ => Bool.eq_false_iff.mpr empty)
    exact deeds.course.settled fun r hr => hr

/-- Turns that a seat off the desktop's thread may see: a call must not run the counter of handles over,
and the surroundings stay such that the seat can work in them on the same screen. -/
def Hosted (s : Scene) : Turn → Prop
  | .call _ => s.env.nextHandle.toNat + 2 * s.appetite < UInt64.size
  | .change env => env.Hosts ∧ env.virtualScreen = s.env.virtualScreen

structure Steady (screen : Rect) (s : Scene) : Prop where
  sound : s.Sound screen 0
  idle : s.seat.input.inFlight = none

theorem Steady.take {turn : Turn} (hs : s.Steady screen) (ok : s.Hosted turn)
    (taken : s.take? turn = some t) : t.Steady screen := by
  cases turn with
  | call call =>
      have hscreen := hs.sound.fixed
      have onScreen := hs.sound.hosts.onScreen
      rw [hscreen] at onScreen
      obtain ⟨course, hflight⟩ := s.call_course (R := ⟨fun r => r.isWithin screen = true, True⟩) taken
        (fun _ _ within => by rwa [hscreen] at within) onScreen
        (fun _ _ => by rw [hscreen]; exact isWithin_clampTo _ screen) (fun _ => trivial)
        (fun _ _ _ _ => hs.sound.plain)
      have roomy : s.Sound screen (s.appetite + 0) :=
        ⟨hs.sound.plain, hs.sound.hosts, hscreen, ok, hs.sound.backed⟩
      have sound := course.preserves (P := fun n u => u.Sound screen n)
        (fun h hu => h.sound (fun _ hr => hr) hu) Sound.mono
        (fun standing setting hu => hu.rests standing setting) 0 roomy
      exact ⟨sound, hflight.trans hs.idle⟩
  | change env =>
      cases taken
      exact ⟨⟨hs.sound.plain, ok.1, ok.2.trans hs.sound.fixed, env.nextHandle.toNat_lt,
        fun region held => (hs.sound.backed region held).congr rfl rfl⟩, hs.idle⟩

theorem Steady.settled {turn : Turn} (hs : s.Steady screen) (safe : ¬ s.Strands turn)
    (taken : s.take? turn = some t) : Settled s.standing.clip t := by
  cases turn with
  | call call =>
      by_cases asks : ∃ h, call = .message h .clipRequest
      · obtain ⟨h, rfl⟩ := asks
        cases taken
        exact hs.sound.settled_clipRequest h safe
      · obtain ⟨course, -⟩ := s.call_course (R := ⟨fun r => r.isEmpty = false, True⟩) taken
          (fun _ filled _ => filled) hs.sound.hosts.visible (fun asks' => absurd asks' asks)
          (fun _ => trivial) (fun _ _ _ _ => hs.sound.plain)
        exact course.settled fun _ hr => hr
  | change env =>
      cases taken
      exact Or.inl rfl

theorem Run.steady {start : Scene} (fresh : Fresh start) (hosts : start.env.Hosts)
    (run : Run Hosted start s) : s.Steady start.env.virtualScreen := by
  refine run.preserves (P := fun u => u.Steady start.env.virtualScreen) ?_
    (fun hu ok taken => hu.take ok taken)
  exact ⟨⟨fresh.registry, hosts, rfl, start.env.nextHandle.toNat_lt,
    fun region held => absurd (fresh.clip_eq_none.symm.trans held) (by simp)⟩,
    congrArg InputState.inFlight fresh.input⟩

theorem Steady.violation_eq_none_iff (hs : s.Steady screen) : s.violation? = none ↔
    ∀ region, s.seat.input.clip = some region → region.rect.isEmpty = false := by
  rw [hs.sound.violation_eq hs.idle]
  cases s.seat.input.clip with
  | none => simp
  | some region => cases empty : region.rect.isEmpty <;> simp [Option.filter, empty]

theorem Steady.eq_emptyClip (hs : s.Steady screen) {violation : Violation}
    (invalid : s.violation? = some violation) : ∃ region, s.seat.input.clip = some region ∧
      region.rect.isEmpty = true ∧ violation = .emptyClip region.rect := by
  rw [hs.sound.violation_eq hs.idle] at invalid
  obtain ⟨region, held, rfl⟩ := Option.map_eq_some_iff.mp invalid
  obtain ⟨held, empty⟩ := Option.filter_eq_some_iff.mp held
  exact ⟨region, held, empty, rfl⟩

/-- A turn leaves a clip invalid just if it strands the pointer, or the clip was invalid and has
stayed. -/
theorem Steady.invalid_iff {turn : Turn} (hs : s.Steady screen) (ok : s.Hosted turn)
    (taken : s.take? turn = some t) : t.violation? ≠ none ↔
      s.Strands turn ∨ s.violation? ≠ none ∧ t.seat.input.clip = s.seat.input.clip := by
  have ht := hs.take ok taken
  rw [ne_eq, ne_eq, hs.violation_eq_none_iff, ht.violation_eq_none_iff]
  constructor
  · intro invalid
    by_contra neither
    rw [not_or] at neither
    rcases hs.settled neither.1 taken with same | filled
    · have same : t.seat.input.clip = s.seat.input.clip := same
      rw [same] at invalid
      exact neither.2 ⟨invalid, same⟩
    · exact invalid filled
  · rintro (strands | ⟨invalid, same⟩) valid
    · obtain ⟨region, held, empty⟩ := hs.sound.stranded strands taken
      simp [valid region held] at empty
    · rw [same] at valid
      exact invalid valid

/-- A run that never strands the pointer puts no empty clip in force. -/
theorem Run.filled {start : Scene} (fresh : Fresh start) (hosts : start.env.Hosts)
    (run : Run (fun s turn => s.Hosted turn ∧ ¬ s.Strands turn) start s) :
    s.Steady start.env.virtualScreen ∧
      ∀ region, s.seat.input.clip = some region → region.rect.isEmpty = false := by
  induction run with
  | start =>
      exact ⟨Run.start.steady fresh hosts, fun region held =>
        absurd (fresh.clip_eq_none.symm.trans held) (by simp)⟩
  | turn _ ok taken ih =>
      obtain ⟨hs, filled⟩ := ih
      refine ⟨hs.take ok.1 taken, ?_⟩
      rcases hs.settled ok.2 taken with same | filled'
      · exact fun region held => filled region (same.symm.trans held)
      · exact filled'

/-- When the state of a seat is valid. All along a run that never strands the pointer it is. In any run,
a turn leaves it invalid just if it strands the pointer, or if the state was invalid before and the clip
is still the same. And all that is ever wrong is that the rectangle of the clip is empty. -/
theorem invalid_iff_stranded {start : Scene} (fresh : Fresh start) (hosts : start.env.Hosts) :
    (∀ s, Run (fun s turn => s.Hosted turn ∧ ¬ s.Strands turn) start s → s.violation? = none) ∧
    (∀ s turn t, Run Hosted start s → s.Hosted turn → s.take? turn = some t →
      (t.violation? ≠ none ↔ s.Strands turn ∨
        s.violation? ≠ none ∧ t.seat.input.clip = s.seat.input.clip)) ∧
    ∀ s violation, Run Hosted start s → s.violation? = some violation →
      ∃ region, s.seat.input.clip = some region ∧ region.rect.isEmpty = true ∧
        violation = .emptyClip region.rect := by
  refine ⟨?safe, ?turn, ?shape⟩
  case safe =>
    intro s run
    obtain ⟨hs, filled⟩ := run.filled fresh hosts
    exact hs.violation_eq_none_iff.mpr filled
  case turn =>
    intro s turn t run ok taken
    exact (run.steady fresh hosts).invalid_iff ok taken
  case shape =>
    intro s violation run invalid
    exact (run.steady fresh hosts).eq_emptyClip invalid

/-- A visible window in the foreground of a screen, with the guest's clip rectangle beside the screen. -/
def besideScreen : Scene :=
  let s := alone ⟨0, 0, 1920, 1080⟩
  let env := (s.env.createWindow WindowStyle.visible ⟨0, 0, 800, 600⟩).1
  { s with env := { env with foreground := ⟨0x20000⟩, guestClip := ⟨2000, 0, 2400, 400⟩ } }

/-- Asked for the clip of the window in the foreground, the seat confines the pointer to nothing. -/
theorem besideScreen_stranded :
    (besideScreen.driverMessage ⟨0x20000⟩ .clipRequest).1.violation? =
      some (.emptyClip ⟨2000, 0, 1920, 400⟩) := by
  have hosts : besideScreen.env.Hosts := ⟨by decide, by decide, by decide, by decide⟩
  have fresh : Fresh besideScreen := ⟨rfl, rfl⟩
  obtain ⟨-, turns, shape⟩ := invalid_iff_stranded fresh hosts
  have room : besideScreen.env.nextHandle.toNat + 2 * besideScreen.appetite < UInt64.size := by decide
  have ok : besideScreen.Hosted (.call (.message ⟨0x20000⟩ .clipRequest)) := room
  have strands : besideScreen.Strands (.call (.message ⟨0x20000⟩ .clipRequest)) :=
    ⟨by decide, by decide, by decide, by decide, by decide⟩
  have invalid := (turns _ _ _ .start ok rfl).mpr (Or.inl strands)
  obtain ⟨violation, found⟩ := Option.ne_none_iff_exists'.mp invalid
  obtain ⟨region, held, -, rfl⟩ := shape _ violation (.turn .start ok rfl) found
  obtain rfl : region = ⟨⟨2000, 0, 1920, 400⟩, ⟨0x20002⟩, .explicit⟩ :=
    Option.some.inj (held.symm.trans (by decide))
  exact found

end Scene

end GuestSeat
