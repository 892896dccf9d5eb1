import GuestSeat.Proofs.Clip.Validity

/-!
What a guest's request for a rectangle comes to. A request that leaves the pointer as free as it is ends
the clip. Any other is left to the window in the foreground if that belongs to another thread; it is met
already if the clip in force is the one that is asked for; and else the host decides, and the seat ends
up with just this clip or with none. The guest is told that all went well in any case.
-/

namespace GuestSeat

namespace Scene

open Environment (desktop)

variable (s : Scene)

/-- Whether a rectangle is one that the seat would confine the pointer to. -/
structure Confines (rect : Rect) : Prop where
  enabled : s.seat.config.pointer.grabPointer = true
  visible : rect.isEmpty = false
  restricts : rect.restricts s.env.virtualScreen = true

/-- Whether the window in the foreground belongs to another thread of this process. -/
structure ForegroundElsewhere : Prop where
  named : s.env.foreground.isNull = false
  owned : ∃ owner, s.env.owner? s.env.foreground = some owner ∧ owner.inProcess = true ∧
    owner.thread ≠ s.env.thread

/-- Whether the pointer is confined to a rectangle at the request of the guest. -/
def ConfinedTo (rect : Rect) : Prop :=
  ∃ capture, s.seat.input.clip = some ⟨rect, capture, .explicit⟩

/-- The ways in which a clip that is asked for cannot be had. Raw motion is on already while there is a
clip. -/
inductive LacksGrab : Prop
  | surface (bare : s.seat.input.captureSurface = none) (unsupported : s.env.captureSupported = false)
  | raw (free : s.seat.input.clip = none) (untracked : s.grantsRaw = false)
  | pointer (refused : s.env.grabSucceeds = false)

/-- The window that stands for the next clip: that of the clip in force, or a new one. -/
def nextCapture : Handle :=
  match s.seat.input.clip with
  | some region => region.captureWindow
  | none => ⟨s.env.nextHandle⟩

/-- The scene after the window in the foreground was asked to put the guest's clip in force. -/
def leftToForeground : Scene :=
  s.act fun env => env.note fun j =>
    { j with messages := j.messages ++ [⟨env.foreground, .clipRequest, false⟩] }

variable {s}

theorem forwardClip_of_elsewhere (elsewhere : s.ForegroundElsewhere) :
    s.forwardClip? = some s.leftToForeground := by
  obtain ⟨owner, owned, inProcess, apart⟩ := elsewhere.owned
  obtain ⟨info, known, -⟩ := Option.map_eq_some_iff.mp owned
  obtain ⟨hosted, there, -⟩ := Option.map_eq_some_iff.mp known
  have present : s.env.windows.contains s.env.foreground = true := by
    simp [OrderedMap.contains, there]
  have reached : (s.env.foreground.isNull || !s.env.windows.contains s.env.foreground) = false := by
    simp [elsewhere.named, present]
  have foreign : (owner.inProcess && owner.thread != s.env.thread && !s.env.foreground.isNull) = true := by
    simp [inProcess, apart, elsewhere.named]
  unfold forwardClip?
  dsimp only
  rw [owned]
  dsimp only
  rw [if_pos foreign]
  unfold Environment.post Environment.deliver
  rw [if_neg (by simp [reached])]
  rfl

theorem forwardClip_of_not_elsewhere (here : ¬ s.ForegroundElsewhere) : s.forwardClip? = none := by
  unfold forwardClip?
  dsimp only
  split
  · rfl
  next owner owned =>
  apply if_neg
  intro foreign
  simp only [Bool.and_eq_true, bne_iff_ne, ne_eq, Bool.not_eq_true'] at foreign
  exact here ⟨foreign.2, owner, owned, foreign.1.1, foreign.1.2⟩

theorem nextHandle_useSurface (s : Scene) : s.useSurface.1.env.nextHandle = s.env.nextHandle := by
  unfold useSurface Environment.useCaptureSurface
  cases s.seat.input.captureSurface with
  | some w => rfl
  | none =>
      cases s.env.captureSupported with
      | false => rfl
      | true => cases s.env.captureSurface <;> rfl

/-- A request that is not met yet goes to the host, if there is a surface to grab the pointer on. -/
theorem grab_eq (rect : Rect) (member : s.onDesktopThread = false) (unmet : ¬ s.ConfinedTo rect) :
    s.grab rect .explicit =
      match s.useSurface with
      | (t, none) => (t, false)
      | (t, some w) =>
        match t.seat.input.clip with
        | none => t.beginClip w rect .explicit
        | some previous => t.confine w ⟨rect, previous.captureWindow, .explicit⟩ := by
  have fresh : ¬ (s.seat.input.clip.any fun r => r.rect == rect && r.kind == .explicit) = true := by
    intro met
    obtain ⟨region, held, same⟩ := (Option.any_eq_true _ _).mp met
    simp only [Bool.and_eq_true, beq_iff_eq] at same
    apply unmet
    refine ⟨region.captureWindow, held.trans ?_⟩
    rw [← same.1, ← same.2]
  unfold grab
  refine (if_neg (by simp [member])).trans ?_
  exact if_neg fresh

/-- What the host refuses leaves no clip, or is given up by the seat. -/
theorem grab_of_lacks (rect : Rect) (member : s.onDesktopThread = false) (unmet : ¬ s.ConfinedTo rect)
    (lacks : s.LacksGrab) :
    (s.grab rect .explicit).2 = false ∨ (s.grab rect .explicit).1.seat.input.clip = none := by
  obtain ⟨surface, kept, succeeds, raw⟩ := s.useSurface_answer
  rw [grab_eq rect member unmet]
  cases hu : s.useSurface with
  | mk t found =>
      rw [hu] at surface kept succeeds raw
      dsimp only at surface kept succeeds raw
      cases found with
      | none => exact Or.inl rfl
      | some w =>
          right
          dsimp only
          cases held : t.seat.input.clip with
          | none =>
              obtain ⟨clip, -⟩ := t.beginClip_answer w rect .explicit held
              refine clip.trans (if_neg ?_)
              rw [succeeds, raw]
              cases lacks with
              | surface bare unsupported => simp [bare, unsupported] at surface
              | raw free untracked => simp [untracked]
              | pointer refused => simp [refused]
          | some previous =>
              obtain ⟨clip, -⟩ := t.confine_answer w ⟨rect, previous.captureWindow, .explicit⟩
              refine clip.trans (if_neg ?_)
              rw [succeeds]
              cases lacks with
              | surface bare unsupported => simp [bare, unsupported] at surface
              | raw free untracked => exact absurd (held.symm.trans (kept.trans free)) (by simp)
              | pointer refused => simp [refused]

/-- What the host does not refuse is in force afterwards. -/
theorem grab_of_not_lacks (rect : Rect) (member : s.onDesktopThread = false)
    (unmet : ¬ s.ConfinedTo rect) (able : ¬ s.LacksGrab) :
    (s.grab rect .explicit).2 = true ∧
      (s.grab rect .explicit).1.seat.input.clip = some ⟨rect, s.nextCapture, .explicit⟩ := by
  obtain ⟨surface, kept, succeeds, raw⟩ := s.useSurface_answer
  have handle := s.nextHandle_useSurface
  have granted : s.env.grabSucceeds = true := by
    by_contra refused
    exact able (.pointer (eq_false_of_ne_true refused))
  rw [grab_eq rect member unmet]
  cases hu : s.useSurface with
  | mk t found =>
      rw [hu] at surface kept succeeds raw handle
      dsimp only at surface kept succeeds raw handle
      rw [granted] at succeeds
      cases found with
      | none =>
          simp only [Option.isSome_none, Bool.false_eq, Bool.or_eq_false_iff,
            Option.isSome_eq_false_iff, Option.isNone_iff_eq_none] at surface
          exact absurd (.surface surface.1 surface.2) able
      | some w =>
          dsimp only
          cases held : t.seat.input.clip with
          | none =>
              have free : s.seat.input.clip = none := kept.symm.trans held
              have tracked : s.grantsRaw = true := by
                by_contra untracked
                exact able (.raw free (eq_false_of_ne_true untracked))
              have capture : s.nextCapture = t.standing.fresh := by
                unfold nextCapture
                rw [free]
                exact congrArg Handle.mk handle.symm
              obtain ⟨clip, answer⟩ := t.beginClip_answer w rect .explicit held
              refine ⟨answer succeeds, clip.trans ?_⟩
              rw [succeeds, raw, tracked, capture]
              rfl
          | some previous =>
              have capture : s.nextCapture = previous.captureWindow := by
                unfold nextCapture
                rw [← kept, held]
              obtain ⟨clip, answer⟩ := t.confine_answer w ⟨rect, previous.captureWindow, .explicit⟩
              rw [capture]
              exact ⟨answer.trans succeeds, clip.trans (if_pos succeeds)⟩

/-- A request that is met already changes nothing. -/
theorem grab_of_confinedTo {rect : Rect} (met : s.ConfinedTo rect) :
    s.grab rect .explicit = (s, true) := by
  obtain ⟨capture, held⟩ := met
  unfold grab
  split
  · rfl
  · rw [if_pos (by simp [held])]

/-- The guest is told the same whatever comes of its request. -/
theorem answerClip_told (s : Scene) (rect : Option Rect) : (s.answerClip rect).2 = true := by
  unfold answerClip
  dsimp only
  split
  · split
    · rfl
    · split <;> rfl
  · rfl

theorem confines_iff (rect : Rect) :
    (s.seat.config.pointer.grabPointer && !rect.isEmpty && rect.restricts s.env.virtualScreen) = true ↔
      s.Confines rect := by
  simp only [Bool.and_eq_true, Bool.not_eq_true']
  constructor
  · rintro ⟨⟨enabled, visible⟩, restricts⟩
    exact ⟨enabled, visible, restricts⟩
  · rintro ⟨enabled, visible, restricts⟩
    exact ⟨⟨enabled, visible⟩, restricts⟩

theorem clipCursor_of_not_confines {rect : Option Rect} (roomy : ¬ s.Confines (s.wantedArea rect)) :
    s.clipCursor rect = s.release true :=
  congrArg Prod.fst (if_neg (mt (confines_iff (s.wantedArea rect)).mp roomy))

theorem clipCursor_of_elsewhere {rect : Option Rect} (confines : s.Confines (s.wantedArea rect))
    (elsewhere : s.ForegroundElsewhere) : s.clipCursor rect = s.leftToForeground := by
  refine (congrArg Prod.fst (if_pos ((confines_iff (s.wantedArea rect)).mpr confines))).trans ?_
  rw [forwardClip_of_elsewhere elsewhere]

/-- A request that is not left to another thread is one for a grab, and what is not granted is given
up. -/
theorem clipCursor_of_not_elsewhere {rect : Option Rect} (confines : s.Confines (s.wantedArea rect))
    (here : ¬ s.ForegroundElsewhere) :
    s.clipCursor rect =
      if (s.grab (s.wantedArea rect) .explicit).2 then (s.grab (s.wantedArea rect) .explicit).1
      else (s.grab (s.wantedArea rect) .explicit).1.release true := by
  refine (congrArg Prod.fst (if_pos ((confines_iff (s.wantedArea rect)).mpr confines))).trans ?_
  rw [forwardClip_of_not_elsewhere here]
  unfold wantedArea
  dsimp only
  obtain ⟨t, granted⟩ := s.grab _ .explicit
  cases granted <;> rfl

/-- What the guest's request for a rectangle comes to, on a seat that is not the desktop's. -/
theorem answerClip_resolved (plain : s.seat.registry = none)
    (member : s.env.threadOf? desktop ≠ some s.env.thread) (rect : Option Rect) :
    (s.answerClip rect).2 = true ∧
      (s.Confines (s.wantedArea rect) →
        (s.ForegroundElsewhere → (s.answerClip rect).1 = s.leftToForeground) ∧
        (¬ s.ForegroundElsewhere → s.ConfinedTo (s.wantedArea rect) → (s.answerClip rect).1 = s) ∧
        (¬ s.ForegroundElsewhere → ¬ s.ConfinedTo (s.wantedArea rect) → s.LacksGrab →
          (s.answerClip rect).1.seat.input.clipState = .unclipped) ∧
        (¬ s.ForegroundElsewhere → ¬ s.ConfinedTo (s.wantedArea rect) → ¬ s.LacksGrab →
          (s.answerClip rect).1.seat.input.clip =
            some ⟨s.wantedArea rect, s.nextCapture, .explicit⟩)) ∧
      (¬ s.Confines (s.wantedArea rect) →
        (s.answerClip rect).1.seat.input.clipState = .unclipped) := by
  have off : s.onDesktopThread = false := onDesktopThread_of_apart plain member
  have unclipped : ∀ t : Scene, t.seat.input.clip = none →
      t.seat.input.clipState = .unclipped := by
    intro t free
    unfold InputState.clipState
    rw [free]
    rfl
  refine ⟨s.answerClip_told rect, ?confining, ?freeing⟩
  case freeing =>
    intro roomy
    apply unclipped
    exact (congrArg (·.seat.input.clip) (clipCursor_of_not_confines roomy)).trans
      (s.clip_release true)
  case confining =>
    intro confines
    refine ⟨fun elsewhere => clipCursor_of_elsewhere confines elsewhere, ?_, ?_, ?_⟩
    · intro here met
      refine (clipCursor_of_not_elsewhere confines here).trans ?_
      rw [grab_of_confinedTo met]
      rfl
    · intro here unmet lacks
      apply unclipped
      refine (congrArg (·.seat.input.clip) (clipCursor_of_not_elsewhere confines here)).trans ?_
      rcases grab_of_lacks (s.wantedArea rect) off unmet lacks with refused | free
      · rw [refused]
        exact clip_release _ true
      · split
        · exact free
        · exact clip_release _ true
    · intro here unmet able
      obtain ⟨granted, clip⟩ := grab_of_not_lacks (s.wantedArea rect) off unmet able
      refine (congrArg (·.seat.input.clip) (clipCursor_of_not_elsewhere confines here)).trans ?_
      rw [granted]
      exact clip

/-- A request past the edges of an empty screen is met within them, by a new clip. The same request by
another thread than that of the window in the foreground is left to that window, which is told once. -/
theorem answerClip_past_edges :
    let s := alone ⟨0, 0, 1920, 1080⟩
    let apart := { s with env := { (s.env.createWindow WindowStyle.visible ⟨0, 0, 800, 600⟩).1 with
      foreground := ⟨0x20000⟩, thread := ⟨2⟩ } }
    (s.answerClip (some ⟨-50, -50, 400, 300⟩)).1.seat.input.clip =
        some ⟨⟨0, 0, 400, 300⟩, ⟨0x20000⟩, .explicit⟩ ∧
      (apart.answerClip (some ⟨-50, -50, 400, 300⟩)).1.env.journal.messages =
        [⟨⟨0x20000⟩, .clipRequest, false⟩] := by
  intro s apart
  have area : s.wantedArea (some ⟨-50, -50, 400, 300⟩) = ⟨0, 0, 400, 300⟩ := rfl
  constructor
  · have here : ¬ s.ForegroundElsewhere := fun elsewhere => absurd elsewhere.named (by decide)
    have unmet : ¬ s.ConfinedTo (s.wantedArea (some ⟨-50, -50, 400, 300⟩)) := nofun
    have able : ¬ s.LacksGrab := nofun
    obtain ⟨-, confining, -⟩ :=
      answerClip_resolved (s := s) rfl (by decide) (some ⟨-50, -50, 400, 300⟩)
    exact (confining ⟨rfl, by decide, by decide⟩).2.2.2 here unmet able
  · have elsewhere : apart.ForegroundElsewhere := ⟨rfl, _, rfl, rfl, by decide⟩
    obtain ⟨-, confining, -⟩ :=
      answerClip_resolved (s := apart) rfl (by decide) (some ⟨-50, -50, 400, 300⟩)
    rw [(confining ⟨rfl, by decide, by decide⟩).1 elsewhere]
    rfl

end Scene

end GuestSeat
