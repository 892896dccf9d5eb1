import GuestSeat.Proofs.Clip.Run
import GuestSeat.Proofs.Seat.Upshot

/-!
Events that are tried again. An event that brings or offers focus while another client holds the pointer
goes back on the queue, once, and until then nothing came of it that a second try would repeat: windows
were asked, and one was told to let go of the pointer.
-/

namespace GuestSeat

def Journal.releases (j : Journal) : List Delivered :=
  j.messages.filter fun d => d.message == .releaseCursor

namespace Scene

open Environment (desktop)

/-- The event went back on the queue and `holder`, if there is such a window, was told to let go of the
pointer. Foreground, focus, clip, raw motion, the windows and the wait for a warp are as before. -/
structure Retried (s : Scene) (event : EventRecord) (holder : Handle) (t : Scene) : Prop where
  resent : t.env.journal.resent = s.env.journal.resent ++ [event]
  released : t.env.journal.releases = s.env.journal.releases ++
    if holder.isNull || !s.env.windows.contains holder then []
    else [⟨holder, .releaseCursor, false⟩]
  foreground : t.env.foreground = s.env.foreground
  active : t.env.active = s.env.active
  inputFocus : t.env.inputFocus = s.env.inputFocus
  clip : t.seat.input.clip = s.seat.input.clip
  raw : t.seat.input.raw = s.seat.input.raw
  windows : t.seat.windows = s.seat.windows
  warpFence : t.seat.input.warpFence = s.seat.input.warpFence

variable {s t u : Scene} {holder : Handle} {event : EventRecord}

theorem retryAfterRelease_retried (s : Scene) (holder : Handle) (event : EventRecord) :
    s.Retried event holder (s.retryAfterRelease holder event) := by
  rw [retryAfterRelease_eq]
  split
  · next lost =>
      refine ⟨rfl, ?_, rfl, rfl, rfl, rfl, rfl, rfl, rfl⟩
      rw [if_pos lost, List.append_nil]
      rfl
  · next there =>
      refine ⟨rfl, ?_, rfl, rfl, rfl, rfl, rfl, rfl, rfl⟩
      rw [if_neg there]
      simp [Journal.releases, act, Environment.note, Environment.resend]

/-- Questions before it make no difference. -/
theorem Retried.after (asked : s.Asked t) (retried : t.Retried event holder u) :
    s.Retried event holder u where
  resent := by rw [retried.resent, Journal.resent_eq asked.env.docket]
  released := by
    have releases : t.env.journal.releases = s.env.journal.releases := by
      refine asked.env.messages.filter_eq fun d question => ?_
      obtain ⟨k, m, sync⟩ := d
      cases m <;> simp [Delivered.isQuestion] at question ⊢
    rw [retried.released, releases, asked.env.windows]
  foreground := retried.foreground.trans asked.env.foreground
  active := retried.active.trans (asked.env.keeps Environment.active fun _ => rfl)
  inputFocus := retried.inputFocus.trans (asked.env.keeps Environment.inputFocus fun _ => rfl)
  clip := retried.clip.trans (congrArg (fun seat : Seat => seat.input.clip) asked.seat)
  raw := retried.raw.trans (congrArg (fun seat : Seat => seat.input.raw) asked.seat)
  windows := retried.windows.trans (congrArg Seat.windows asked.seat)
  warpFence := retried.warpFence.trans (congrArg (fun seat : Seat => seat.input.warpFence) asked.seat)

theorem Corrected.resent {front : Handle → Prop} {h : Handle} (corrected : Corrected front h s t) :
    t.env.journal.resent = s.env.journal.resent := by
  cases corrected with
  | none errands => exact Journal.resent_eq errands.docket
  | commanded errands command sync done =>
      obtain ⟨-, rfl⟩ := Environment.deliver_eq_ok done
      have same : _ = s.env.journal.resent := Journal.resent_eq errands.docket
      exact same
  | placed errands rect flags =>
      have same : _ = s.env.journal.resent := Journal.resent_eq errands.docket
      exact same

/-- An event is tried again at most once, and only if it brings or offers focus. If it is, the holder of
the pointer was told to let go of it, which is the desktop when focus was brought and the window in front
when it was offered, and all else is as it was before the event. -/
theorem resent_dispatch (s : Scene) (event : EventRecord) :
    (s.dispatch event).1.env.journal.resent = s.env.journal.resent ∨
      ∃ holder, s.Retried event holder (s.dispatch event).1 ∧
        (event.BringsFocus ∧ holder = desktop ∨ event.OffersFocus ∧ holder = s.env.foreground) := by
  obtain ⟨t, upshot, ended⟩ := s.dispatch_upshot event
  rw [ended]
  cases upshot with
  | done corrected => exact .inl corrected.resent
  | @putOff holder whose u keyboard asked =>
      have retried := Retried.after asked (u.retryAfterRelease_retried holder event)
      -- what is on record while the event is handled is no part of what is compared
      refine .inr ⟨holder, { retried with }, ?_⟩
      cases whose with
      | ofBrought brings => exact .inl ⟨brings, rfl⟩
      | ofOffered offers => exact .inr ⟨offers, rfl⟩

/-- Focus comes to the only window while another client holds the pointer. -/
def contendedFocus : Scene × EventRecord :=
  let s := alone ⟨0, 0, 1920, 1080⟩
  let env := (s.env.createWindow WindowStyle.visible ⟨10, 10, 110, 60⟩).1
  ({ s with env := { env with probeSucceeds := false } },
    { serial := ⟨1⟩
      window := ⟨0x04000001⟩
      kind := .focusIn { detail := .nonlinear, mode := .normal } })

/-- The event is put back once, and the holder is asked once to let go of the pointer. -/
theorem resent_contendedFocus :
    let (s, event) := contendedFocus
    s.Retried event desktop (s.dispatch event).1 ∧ (s.dispatch event).1.env.journal.resent = [event] ∧
      (s.dispatch event).1.env.journal.releases = [⟨desktop, .releaseCursor, false⟩] := by
  dsimp only
  rcases resent_dispatch contendedFocus.1 contendedFocus.2 with same | ⟨holder, retried, brings | offers⟩
  · exact absurd same (by decide)
  · obtain ⟨-, rfl⟩ := brings
    exact ⟨retried, retried.resent, retried.released⟩
  · obtain ⟨⟨e, time, kind, -⟩, -⟩ := offers
    cases kind

end Scene

end GuestSeat
