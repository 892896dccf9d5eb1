import GuestSeat.Proofs.Clip.Validity

/-!
The clip of a window that loses focus. That the window in the foreground lost it can be told by the host
or by the client that the window is embedded in. The host's word ends the clip before anything else is
looked at. The embedder's word takes the same window out of the foreground, but leaves the pointer
confined for it.
-/

namespace GuestSeat.Scene

open Environment (desktop)

variable {s : Scene} {event : EventRecord} {w : Handle}

def deprived (env : Environment) (h : Handle) : Handle :=
  if (env.ancestorRoot h).isNull then h else env.ancestorRoot h

/-- The host says that a window lost focus, and not only that of the pointer. -/
def LostByHost (s : Scene) (event : EventRecord) (w : Handle) : Prop :=
  ∃ focus, event.kind = .focusOut focus ∧ focus.detail ≠ .pointer ∧ target s.env event = w

/-- An embedder says that a window or one inside it lost focus, or that the window is not active any
more. -/
def LostByEmbedder (s : Scene) (event : EventRecord) (w : Handle) : Prop :=
  ∃ e message time, event.kind = .clientMessage e ∧ e.format = 32 ∧
    e.message = .embed message time ∧ (message = .focusOut ∨ message = .windowDeactivate) ∧
    (target s.env event).isNull = false ∧ deprived s.env (target s.env event) = w

/-- A loss of focus on a virtual desktop counts only if it is the desktop's own. -/
def yieldsDesktop (s : Scene) (w : Handle) : Bool :=
  !s.env.composing && s.seat.config.window.virtualDesktop && w == desktop

theorem clip_resetClipping (s : Scene) : s.resetClipping.seat.input.clip = none := by
  unfold resetClipping
  cases h : s.seat.input.clip with
  | none => simp [InputState.isClipping, h]
  | some region =>
      rw [if_pos (by simp [InputState.isClipping, h])]
      exact s.clip_release true

/-- The seat goes on without focus, and with its clip unless the whole desktop lost focus. -/
theorem clip_loseFocus (s : Scene) (w : Handle) : (s.loseFocus w).seat.input.clip =
    if s.yieldsDesktop w then none else s.seat.input.clip := by
  let noted := s.edit fun i => { i with lastFocus := w }
  have handed : noted.Quiet ((noted.notify w .cancelMode).handOver w) :=
    ((noted.routine_notify rfl).trans (routine_handOver _ w)).toQuiet
  have lost : s.loseFocus w =
      if s.env.composing then s
      else if s.seat.config.window.virtualDesktop then
        if w == desktop then noted.resetClipping else noted
      else if w != s.env.foreground then noted
      else (noted.notify w .cancelMode).handOver w := rfl
  rw [lost]
  split
  · next composing => simp [yieldsDesktop, composing]
  next attentive =>
  split
  · next virtual =>
      split
      · next whole =>
          rw [noted.clip_resetClipping, if_pos]
          simp [yieldsDesktop, attentive, virtual, whole]
      · next part =>
          rw [if_neg (by simp [yieldsDesktop, part])]
          rfl
  · next real =>
      have stays : ¬ s.yieldsDesktop w = true := by simp [yieldsDesktop, real]
      rw [if_neg stays]
      split
      · rfl
      · exact handed.clip

/-- A window that lost focus does not stay in the foreground, unless it is the desktop. -/
theorem foreground_handOver (s : Scene) (kept : w ≠ desktop) :
    (s.handOver w).env.foreground ≠ w := by
  unfold handOver
  split
  · next top found =>
      obtain ⟨found, -⟩ := Option.filter_eq_some_iff.mp found
      obtain ⟨-, other⟩ := Option.filter_eq_some_iff.mp found
      simp only [Bool.and_eq_true, bne_iff_ne] at other
      exact other.2
  · split
    · exact kept.symm
    · next elsewhere => exact fun same => elsewhere (by rw [same, beq_self_eq_true])

theorem lastFocus_handOver (s : Scene) (w : Handle) :
    (s.handOver w).seat.input.lastFocus = s.seat.input.lastFocus := by
  unfold handOver
  split
  · rfl
  · split <;> rfl

/-- A loss of focus that counts is noted, and another window comes to the foreground. -/
theorem loseFocus_noted (s : Scene) (attentive : s.env.composing = false)
    (real : s.seat.config.window.virtualDesktop = false) (front : w = s.env.foreground) :
    (s.loseFocus w).seat.input.lastFocus = w ∧
      (w ≠ desktop → (s.loseFocus w).env.foreground ≠ w) := by
  have lost : s.loseFocus w =
      ((s.edit fun i => { i with lastFocus := w }).notify w .cancelMode).handOver w := by
    simp [loseFocus, attentive, edit, real, front]
  rw [lost]
  exact ⟨lastFocus_handOver _ w, fun kept => foreground_handOver _ kept⟩

/-- The host's word ends the clip first. What follows depends on the event's mode and on who has focus
now, but begins no clip. -/
theorem dispatch_of_host (s : Scene) (lost : LostByHost s event w) (front : w = s.env.foreground)
    (named : w.isNull = false) : (s.dispatch event).1.seat.input.clip = none := by
  obtain ⟨focus, kind, detail, rfl⟩ := lost
  have handled : ((s.receiving event).handle (target s.env event) event).1 =
      ((s.receiving event).focusOut (target s.env event) event focus).1 := by
    simp only [handle, kind]
  have free : ((s.receiving event).release true).seat.input.clip = none :=
    (s.receiving event).clip_release true
  have front : (target s.env event == (s.receiving event).env.foreground) = true :=
    beq_iff_eq.mpr front
  rw [s.fst_dispatch handled, focusOut, if_neg detail, if_neg (by simp [named])]
  simp only [front, if_true]
  split
  · exact free
  · refine (clip_loseFocus _ _).trans ?_
    split
    · rfl
    · exact free

/-- The embedder's word is a loss of focus and nothing more. -/
theorem dispatch_of_embedder (s : Scene) (lost : LostByEmbedder s event w) : (s.dispatch event).1 =
    ((s.receiving event).loseFocus w).edit fun i => { i with inFlight := s.seat.input.inFlight } := by
  obtain ⟨e, message, time, kind, format, embed, which, named, rfl⟩ := lost
  refine s.fst_dispatch ?_
  simp only [handle, kind, clientMessage, format, embed, named]
  rcases which with rfl | rfl <;> rfl

/-- Two ways to lose focus. If the host takes focus from the window in the foreground, the clip ends,
whatever the event's details. If an embedder does, the clip stays as it was, unless it is a virtual
desktop that lost focus; and it stays although the seat takes the window for the one that lost focus and
out of the foreground. -/
theorem clip_after_focus_loss (s : Scene) (event : EventRecord) (w : Handle) :
    (LostByHost s event w → w = s.env.foreground → w.isNull = false →
      (s.dispatch event).1.seat.input.clip = none) ∧
    (LostByEmbedder s event w → (s.dispatch event).1.seat.input.clip =
      if s.yieldsDesktop w then none else s.seat.input.clip) ∧
    (LostByEmbedder s event w → w = s.env.foreground → s.env.composing = false →
      s.seat.config.window.virtualDesktop = false →
      (s.dispatch event).1.seat.input.lastFocus = w ∧
        (w ≠ desktop → (s.dispatch event).1.env.foreground ≠ w)) := by
  refine ⟨fun lost front named => s.dispatch_of_host lost front named, fun lost => ?_,
    fun lost front attentive real => ?_⟩
  · rw [s.dispatch_of_embedder lost]
    exact clip_loseFocus _ w
  · rw [s.dispatch_of_embedder lost]
    exact loseFocus_noted _ attentive real front

/-- A window in the foreground to which the pointer is confined. -/
def heldPointer : Scene :=
  let s := alone ⟨0, 0, 1920, 1080⟩
  let env := (s.env.createWindow WindowStyle.visible ⟨0, 0, 800, 600⟩).1
  { s with env := { env with foreground := ⟨0x20000⟩ } }.clipCursor (some ⟨0, 0, 800, 600⟩)

def hostLoss : EventRecord :=
  { serial := ⟨0⟩, window := ⟨0x04000001⟩, kind := .focusOut { detail := .nonlinear, mode := .normal } }

def embedderLoss : EventRecord :=
  { serial := ⟨0⟩, window := ⟨0x04000001⟩,
    kind := .clientMessage { format := 32, message := .embed .focusOut 0, data := default } }

/-- An embedder takes focus from the window in the foreground, and the pointer stays confined for it;
when the host takes focus, the pointer is free. -/
theorem heldPointer_after_focus_loss :
    (heldPointer.dispatch hostLoss).1.seat.input.clip = none ∧
      (heldPointer.dispatch embedderLoss).1.seat.input.clip =
        some ⟨⟨0, 0, 800, 600⟩, ⟨0x20002⟩, .explicit⟩ ∧
      (heldPointer.dispatch embedderLoss).1.env.foreground ≠ ⟨0x20000⟩ := by
  have byHost : LostByHost heldPointer hostLoss ⟨0x20000⟩ := ⟨_, rfl, by decide, by decide⟩
  have byEmbedder : LostByEmbedder heldPointer embedderLoss ⟨0x20000⟩ :=
    ⟨_, _, _, rfl, rfl, rfl, Or.inl rfl, by decide, by decide⟩
  obtain ⟨ended, -, -⟩ := clip_after_focus_loss heldPointer hostLoss ⟨0x20000⟩
  obtain ⟨-, kept, noted⟩ := clip_after_focus_loss heldPointer embedderLoss ⟨0x20000⟩
  refine ⟨ended byHost (by decide) (by decide), (kept byEmbedder).trans (by decide), ?_⟩
  exact (noted byEmbedder (by decide) (by decide) (by decide)).2 (by decide)

end GuestSeat.Scene
