import GuestSeat.Proofs.Clip.Outcome
import GuestSeat.Proofs.Seat.Routine

/-!
What a seat does, in deeds. Besides its routine a seat does only a few things that matter later: it lets
a window show the cursor, grabs and releases the pointer, and notes when a clip was reset from outside.
Every action is a chain of such deeds, so what each deed preserves every action preserves.
-/

namespace GuestSeat

open Environment (desktop)

/-- What a seat may do: what its clip may go through, whether the guest may ask it for a rectangle,
whether it may take the primary output without a look at what stands in the way, and whether the pointer
may come to another window. -/
structure Licence extends Permit where
  asked : Prop
  direct : Prop
  roams : Prop

def Permit.lax (R : Permit) : Licence :=
  { R with asked := True, direct := True, roams := True }

def Environment.Meets (env : Environment) (h : Handle) : Prop :=
  h = desktop ∨ ∃ w, env.lookup? w = some h

namespace Scene

def visit (s : Scene) (h : Handle) (host : Option HostWindow) : Scene :=
  match (s.enterWindow h).2, host with
  | true, some w => (s.enterWindow h).1.syncCursor w
  | _, _ => (s.enterWindow h).1

theorem visit_some (s : Scene) (h : Handle) (w : HostWindow) : s.visit h (some w) =
    if (s.enterWindow h).2 then (s.enterWindow h).1.syncCursor w else (s.enterWindow h).1 := by
  unfold visit
  cases (s.enterWindow h).2 <;> rfl

inductive Deed (L : Licence) : Nat → Scene → Scene → Prop
  | routine {n : Nat} {s t : Scene} (h : s.Routine t) : Deed L n s t
  /-- The pointer is over the capture surface. -/
  | touch {n : Nat} {s : Scene} (region : ClipRegion) (w : HostWindow)
      (held : s.seat.input.clip = some region) (surface : s.seat.input.captureSurface = some w) :
      Deed L n s (s.visit region.captureWindow (some w))
  /-- The pointer is over a window. -/
  | visit {n : Nat} {s : Scene} (h : Handle) (info : WindowInfo) (roams : L.roams)
      (met : s.env.Meets h) (known : s.env.info? h = some info) : Deed L n s (s.visit h info.host)
  /-- The guest's rectangle is to be put in force. -/
  | confine {n : Nat} {s : Scene} (rect : Rect) (asked : L.asked) (hR : L.rect rect) :
      Deed L (n + 1) s (s.grab rect .explicit).1
  /-- The primary output is to be put in force. Unless the guest wanted so, the seat looks first: the last
  reset lies back long enough and there is no clip. -/
  | cover {n : Nat} {s : Scene} (t : Scene) (since : s.Routine t)
      (guard : L.direct ∨ s.seat.input.isDebounced s.env.tick
        s.seat.config.pointer.clipResetDebounce = true ∧ s.seat.input.clip = none)
      (hR : L.rect t.env.primaryMonitor) :
      Deed L (n + 1) s (t.grab t.env.primaryMonitor .fullscreen).1
  | release {n : Nat} {s : Scene} (report : Bool) (told : report = true ∨ L.silence) :
      Deed L n s (s.release report)
  | mark {n : Nat} {s : Scene} : Deed L n s s.markReset

inductive Deeds (L : Licence) : Nat → Scene → Scene → Prop
  | one {n : Nat} {s t : Scene} (h : Deed L n s t) : Deeds L n s t
  | trans {m n : Nat} {s t u : Scene} (first : Deeds L m s t) (second : Deeds L n t u) :
      Deeds L (m + n) s u

variable {L : Licence}

namespace Deeds

variable {m n : Nat} {s t u : Scene}

theorem routine (h : s.Routine t) : Deeds L n s t := .one (.routine h)

theorem refl (s : Scene) : Deeds L n s s := .routine (.refl s)

theorem mono (h : Deeds L m s t) (le : m ≤ n) : Deeds L n s t := by
  have padded : Deeds L (m + (n - m)) s t := h.trans (refl t)
  rwa [Nat.add_sub_cancel' le] at padded

theorem after (first : s.Routine t) (second : Deeds L n t u) : Deeds L n s u := by
  have chained : Deeds L (0 + n) s u := (routine first).trans second
  rwa [Nat.zero_add] at chained

theorem before (first : Deeds L n s t) (second : t.Routine u) : Deeds L n s u :=
  first.trans (n := 0) (routine second)

/-- What every deed preserves while it uses up handles, every chain of deeds preserves. -/
theorem preserves {P : Nat → Scene → Prop}
    (step : ∀ {m n : Nat} {s t : Scene}, Deed L m s t → P (m + n) s → P n t)
    (h : Deeds L m s t) : ∀ n, P (m + n) s → P n t := by
  induction h with
  | one h => exact fun n hs => step h hs
  | trans _ _ first second =>
      intro n hs
      rw [Nat.add_assoc] at hs
      exact second n (first _ hs)

/-- What every deed preserves without regard to handles, every chain of deeds preserves. -/
theorem keeps {P : Scene → Prop} (step : ∀ {n : Nat} {s t : Scene}, Deed L n s t → P s → P t)
    (h : Deeds L m s t) (hs : P s) : P t :=
  h.preserves (P := fun _ u => P u) (fun deed hu => step deed hu) 0 hs

end Deeds

variable (s : Scene)

/-- To let a window show the cursor is quiet. -/
theorem quiet_visit (h : Handle) (host : Option HostWindow) : s.Quiet (s.visit h host) := by
  have entered := s.quiet_enterWindow h
  unfold visit
  split
  · exact entered.trans (quiet_syncCursor _ _)
  · exact entered

/-- A grab passes through the outcomes of a clip. -/
theorem ground_grab (rect : Rect) (kind : ClipKind) : (s.grab rect kind).1.ground = s.ground := by
  let anything : Permit := ⟨fun _ => True, True⟩
  obtain ⟨t, used, decided⟩ := s.grab_outcome anything (n := 0) kind (show anything.rect rect from trivial)
  exact decided.ground.trans used.ground

theorem Deed.ground {n : Nat} {s t : Scene} (h : Deed L n s t) : t.ground = s.ground := by
  cases h with
  | routine h => exact h.toQuiet.ground
  | touch region w => exact (s.quiet_visit region.captureWindow (some w)).ground
  | visit h info => exact (s.quiet_visit h info.host).ground
  | confine rect => exact s.ground_grab rect .explicit
  | cover t since => exact (t.ground_grab t.env.primaryMonitor .fullscreen).trans since.toQuiet.ground
  | release report => exact s.ground_release report
  | mark => exact s.quiet_markReset.ground

theorem Deeds.ground {n : Nat} {s t : Scene} (h : Deeds L n s t) : t.ground = s.ground :=
  h.keeps (P := fun u => u.ground = s.ground) (fun deed hu => deed.ground.trans hu) rfl

theorem resetClipping_deeds : Deeds L 0 s s.resetClipping := by
  unfold resetClipping
  split
  · exact (Deeds.one (.release true (Or.inl rfl))).before (routine_resetGuestClip _)
  · exact .refl s

theorem routine_forwardClip {t : Scene} (h : s.forwardClip? = some t) : s.Routine t := by
  unfold forwardClip? at h
  dsimp only at h
  split at h
  · cases h
  · split at h
    · split at h
      · next hd =>
          cases h
          exact .ofEnv (s.env.routine_deliver rfl rfl hd)
      · cases h
    · cases h

theorem isWithin_clampTo (r bounds : Rect) : (r.clampTo bounds).isWithin bounds = true := by
  simp only [Rect.isWithin, Bool.and_eq_true, decide_eq_true_eq]
  simp only [Rect.clampTo]
  omega

/-- The part of the screen that the guest asks to confine the pointer to. -/
def wantedArea (rect : Option Rect) : Rect :=
  (rect.map fun r => r.clampTo s.env.virtualScreen).getD s.env.virtualScreen

theorem isWithin_wantedArea (rect : Option Rect) :
    (s.wantedArea rect).isWithin s.env.virtualScreen = true := by
  cases rect with
  | none => simp [wantedArea, Rect.isWithin]
  | some r => exact isWithin_clampTo r s.env.virtualScreen

/-- A guest's rectangle that the host refuses leaves no clip. -/
theorem confineOrRelease_deeds {rect : Rect} (asked : L.asked) (hR : L.rect rect) {t : Scene}
    {granted : Bool}
    (hg : s.grab rect .explicit = (t, granted)) : Deeds L 1 s t ∧ Deeds L 1 s (t.release true) := by
  have grabbed : Deeds L 1 s t := by
    have deed := Deeds.one (.confine (n := 0) (s := s) rect asked hR)
    rwa [hg] at deed
  exact ⟨grabbed, grabbed.trans (n := 0) (.one (.release true (Or.inl rfl)))⟩

theorem clipCursor_deeds (rect : Option Rect) (asked : L.asked)
    (hR : ∀ r : Rect, r.isEmpty = false → r.isWithin s.env.virtualScreen = true → L.rect r) :
    Deeds L 1 s (s.clipCursor rect) := by
  have within := s.isWithin_wantedArea rect
  unfold clipCursor answerClip
  dsimp only
  change Deeds L 1 s (if _ && !(s.wantedArea rect).isEmpty && (s.wantedArea rect).restricts _ then _
    else _ : Scene × Bool).1
  split
  · next wanted =>
      simp only [Bool.and_eq_true, Bool.not_eq_true'] at wanted
      have allowed := hR (s.wantedArea rect) wanted.1.2 within
      split
      · next t hf => exact .routine (s.routine_forwardClip hf)
      split
      · next t hg => exact (s.confineOrRelease_deeds asked allowed hg).1
      · next t hg => exact (s.confineOrRelease_deeds asked allowed hg).2
  · exact .one (.release true (Or.inl rfl))

theorem routine_queryOwner : s.Routine s.queryOwner.1 := by
  unfold queryOwner
  split
  · exact .refl s
  · have sent := s.env.routine_sendWithin (h := desktop) s.seat.config.focus.probeTimeout
      (show GuestMessage.queryClipOwner.isOwnership = false from rfl)
    split
    · next h => rw [h] at sent; exact .ofEnv sent
    · next h => rw [h] at sent; exact .ofEnv sent

theorem clipToOutput_deeds {t : Scene} (since : s.Routine t)
    (guard : L.direct ∨ s.seat.input.isDebounced s.env.tick
      s.seat.config.pointer.clipResetDebounce = true ∧ s.seat.input.clip = none)
    (hR : L.rect t.env.primaryMonitor) : Deeds L 1 s t.clipToOutput.1 := by
  unfold clipToOutput
  dsimp only
  split
  · exact .routine since
  · exact .one (.cover t since guard hR)

theorem clipFullscreen_deeds (h : Handle) (reset : Bool) (direct : reset = true → L.direct)
    (hR : L.rect s.env.primaryMonitor) : Deeds L 1 s (s.clipFullscreen h reset).1 := by
  unfold clipFullscreen
  split
  · exact .refl s
  split
  · next wanted => exact s.clipToOutput_deeds (.refl s) (Or.inl (direct wanted)) hR
  split
  · exact .refl s
  next free =>
  simp only [Bool.or_eq_true, Bool.not_eq_true', not_or, Bool.not_eq_false, InputState.isClipping,
    Bool.not_eq_true, Option.isSome_eq_false_iff, Option.isNone_iff_eq_none] at free
  have asked := s.routine_queryOwner
  cases hq : s.queryOwner with
  | mk t owner =>
      rw [hq] at asked
      dsimp only
      split
      · refine s.clipToOutput_deeds asked (Or.inr free) ?_
        rw [asked.env.primaryMonitor]
        exact hR
      · exact .routine asked

theorem routine_canGrab : s.Routine s.canGrab.1 := by
  unfold canGrab
  split
  · exact .refl s
  · exact s.routine_request rfl rfl

/-- The clip rectangle of the guest comes into force only if it restricts the pointer. -/
theorem reapplyClip_deeds (h : Handle) (asked : L.asked) (hmonitor : L.rect s.env.primaryMonitor)
    (hguest : s.env.guestClip.restricts s.env.virtualScreen = true →
      L.rect (s.env.guestClip.clampTo s.env.virtualScreen)) :
    Deeds L 1 s (s.reapplyClip h).1 := by
  unfold reapplyClip
  split
  · exact .refl s
  split
  · next wanted =>
      simp only [Bool.and_eq_true] at wanted
      have allowed := hguest wanted.2
      cases hg : s.grab (s.env.guestClip.clampTo s.env.virtualScreen) .explicit with
      | mk t granted =>
          cases granted with
          | true => exact (s.confineOrRelease_deeds asked allowed hg).1
          | false => exact (s.confineOrRelease_deeds asked allowed hg).2
  · exact s.clipFullscreen_deeds h false nofun hmonitor

theorem takeReset_deeds (h : Handle) (silence : L.silence) : Deeds L 0 s (s.takeReset h).1 := by
  unfold takeReset
  split
  · exact .refl s
  · have released : Deeds L 0 s (s.release false) := .one (.release false (Or.inr silence))
    exact (released.before (routine_resetGuestClip _)).trans (n := 0) (.one .mark)

/-- A message from another seat, unless it is a report to the registry or brings a cursor. -/
theorem driverMessage_deeds (h : Handle) (message : GuestMessage)
    (hreport : ∀ source target, message = .clipOwnerChanged source target → s.seat.registry = none)
    (hcursor : ∀ cursor, message ≠ .setCursor cursor)
    (hreset : message = .clipReset → L.silence) (hasked : message = .clipRequest → L.asked)
    (hmonitor : L.rect s.env.primaryMonitor)
    (hguest : message = .clipRequest → s.env.guestClip.restricts s.env.virtualScreen = true →
      L.rect (s.env.guestClip.clampTo s.env.virtualScreen)) :
    Deeds L 1 s (s.driverMessage h message).1 := by
  cases message with
  | clipOwnerChanged source target =>
      simp only [driverMessage, takeOwnerReport, hreport source target rfl]
      exact .refl s
  | clipReset => exact (s.takeReset_deeds h (hreset rfl)).mono (Nat.zero_le 1)
  | clipRequest => exact s.reapplyClip_deeds h (hasked rfl) hmonitor (hguest rfl)
  | releaseCursor => exact s.resetClipping_deeds.mono (Nat.zero_le 1)
  | queryClipOwner => exact .refl s
  | setCursor cursor => exact absurd rfl (hcursor cursor)
  | sysCommand _ | close | cancelMode | mouseActivate _ _ | enableWindow _ | redraw _ => exact .refl s

end Scene

end GuestSeat
