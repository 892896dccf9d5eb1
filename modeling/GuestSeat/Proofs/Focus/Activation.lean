import GuestSeat.Proofs.Clip.Run
import GuestSeat.Proofs.Seat.Upshot

/-!
Who comes to the foreground. A window does so if it may be activated, and on the host's focus or an offer
of it only if it does not decline. Two windows come there without being asked whether they can: the one
that lost focus last, when focus is offered to the desktop, and one that is brought back from its icon.
-/

namespace GuestSeat.Scene

open Environment (desktop)

variable {s t : Scene} {h : Handle} {event : EventRecord}

theorem Corrected.foreground {front : Handle → Prop} (corrected : Corrected front h s t) :
    t.env.foreground = s.env.foreground ∨ front t.env.foreground := by
  cases corrected with
  | none errands => exact errands.foreground
  | commanded errands command sync done =>
      obtain ⟨-, rfl⟩ := Environment.deliver_eq_ok done
      exact errands.foreground
  | placed errands rect flags => exact errands.foreground

/-- The foreground is left alone, or it is taken by a window that may. -/
theorem Upshot.foreground (upshot : s.Upshot h event t) :
    t.env.foreground = s.env.foreground ∨ s.MayFront h event t.env.foreground := by
  cases upshot with
  | done corrected => exact corrected.foreground
  | putOff whose keyboard asked =>
      rw [retryAfterRelease_eq]
      split <;> exact .inl asked.env.foreground

/-- The only windows that come to the foreground without being able to. -/
theorem MayFront.reason {k : Handle} (may : s.MayFront h event k) (changed : k ≠ s.env.foreground) :
    k = desktop ∨ canActivate s.env k = true ∨
      (event.OffersFocus ∧ h = desktop ∧ k = s.seat.input.lastFocus) ∨
      (event.TellsOfWmState ∧ h = k ∧ ∃ info, s.env.info? k = some info ∧
        info.style.isMinimized = true ∧ info.style.isVisible = true) := by
  cases may with
  | kept => exact absurd rfl changed
  | base => exact .inl rfl
  | able can consents => exact .inr (.inl can)
  | former offers about => exact .inr (.inr (.inl ⟨offers, about, rfl⟩))
  | restored tells known minimized visible =>
      exact .inr (.inr (.inr ⟨tells, rfl, _, known, minimized, visible⟩))

/-- A window that declines is passed over where it is asked. -/
theorem MayFront.consents {k : Handle} (may : s.MayFront h event k) (changed : k ≠ s.env.foreground)
    (takes : event.TakesVetoes h) (other : k ≠ desktop) : ¬ s.env.Declines k := by
  cases may with
  | kept => exact absurd rfl changed
  | base => exact absurd rfl other
  | able can consents => exact consents takes
  | former offers about =>
      obtain ⟨e, time, kind, -⟩ := offers
      simp [EventRecord.TakesVetoes, EventRecord.BringsFocus, kind, about] at takes
  | restored tells known minimized visible =>
      obtain ⟨e, kind, -⟩ := tells
      simp [EventRecord.TakesVetoes, EventRecord.BringsFocus, EventRecord.OffersFocus, kind] at takes

/-- The window that an event brings to the foreground is the desktop, or can be activated, or lost
focus last and is offered it by way of the desktop, or is shown by the host and minimized for the
guest. If the event brings or offers focus, the window does not decline it. -/
theorem foreground_dispatch (s : Scene) (event : EventRecord) {h : Handle}
    (now : (s.dispatch event).1.env.foreground = h) (changed : h ≠ s.env.foreground) :
    (h = desktop ∨ canActivate s.env h = true ∨
      (event.OffersFocus ∧ target s.env event = desktop ∧ h = s.seat.input.lastFocus) ∨
      (event.TellsOfWmState ∧ target s.env event = h ∧ ∃ info, s.env.info? h = some info ∧
        info.style.isMinimized = true ∧ info.style.isVisible = true)) ∧
    (event.BringsFocus ∨ event.OffersFocus ∧ target s.env event ≠ desktop →
      h ≠ desktop → ¬ s.env.Declines h) := by
  obtain ⟨t, upshot, ended⟩ := s.dispatch_upshot event
  rw [ended] at now
  subst now
  have may := upshot.foreground.resolve_left changed
  exact ⟨may.reason changed, may.consents changed⟩

/-- A seat with two windows. The first declines focus; the second lost it last. -/
def courted : Scene :=
  let s := alone ⟨0, 0, 1920, 1080⟩
  let one := s.env.createWindow WindowStyle.visible ⟨10, 10, 110, 60⟩
  let two := one.1.createWindow WindowStyle.visible ⟨200, 10, 300, 60⟩
  let probe := GuestMessage.mouseActivate one.2.1 .menu
  { seat := { s.seat with input := { s.seat.input with lastFocus := two.2.1 } }
    env := { two.1 with replies := OrderedMap.ofList [((one.2.1, probe), .activate .noActivate)] } }

/-- Focus that is offered to the first window goes to the second. -/
theorem foreground_courted :
    let offer : EventRecord :=
      { serial := ⟨1⟩
        window := ⟨0x04000001⟩
        kind := .clientMessage { format := 32, message := .wmProtocols .takeFocus 0 } }
    (courted.dispatch offer).1.env.foreground = ⟨0x20002⟩ ∧ courted.env.foreground ≠ ⟨0x20002⟩ ∧
      canActivate courted.env ⟨0x20000⟩ = true ∧ courted.env.Declines ⟨0x20000⟩ ∧
      ¬ courted.env.Declines ⟨0x20002⟩ := by
  intro offer
  have now : (courted.dispatch offer).1.env.foreground = ⟨0x20002⟩ := by decide +kernel
  have offered : offer.OffersFocus := ⟨_, 0, rfl, rfl, rfl⟩
  have about : target courted.env offer ≠ desktop := by decide +kernel
  have taken := foreground_dispatch courted offer now (by decide +kernel)
  have declined : courted.env.Declines ⟨0x20000⟩ := ⟨by decide +kernel, .inl (by decide +kernel)⟩
  refine ⟨now, by decide +kernel, by decide +kernel, declined, ?_⟩
  exact taken.2 (.inr ⟨offered, about⟩) (by decide)

end GuestSeat.Scene
