import GuestSeat.Proofs.Seat.Upshot

/-!
One correction for one event. Commands of system menus and placements taken together, at most one comes
of an event, whatever it is about, and it is for the window that the event concerns. The guest and the
window manager come to terms step by step, each step with an event of its own.
-/

namespace GuestSeat

structure Journal.Gains (a b : Journal) (sent : List Delivered)
    (placed : List (Handle × Rect × PlacementFlags)) : Prop where
  commands : b.commands = a.commands ++ sent
  placements : b.placements = a.placements ++ placed

/-- At most one command or placement was added, and it is for a given window. -/
def Journal.CorrectsOnce (h : Handle) (a b : Journal) : Prop :=
  ∃ sent placed, a.Gains b sent placed ∧ sent.length + placed.length ≤ 1 ∧
    (∀ d ∈ sent, d.window = h) ∧ ∀ p ∈ placed, p.1 = h

namespace Journal.CorrectsOnce

variable {a b c : Journal} {h : Handle}

theorem none (commands : b.commands = a.commands) (placements : b.placements = a.placements) :
    CorrectsOnce h a b := by
  refine ⟨[], [], ⟨?_, ?_⟩, by simp, by simp, by simp⟩
  · rw [List.append_nil, commands]
  · rw [List.append_nil, placements]

theorem after (same : b.docket = a.docket) (once : CorrectsOnce h b c) : CorrectsOnce h a c := by
  obtain ⟨sent, placed, gains, bound⟩ := once
  refine ⟨sent, placed, ⟨?_, ?_⟩, bound⟩
  · rw [gains.commands, commands_eq same]
  · rw [gains.placements, placements_eq same]

end Journal.CorrectsOnce

namespace Scene

variable {s t : Scene} {h : Handle}

/-- A command adds itself and a placement adds itself. -/
theorem Corrected.once {front : Handle → Prop} (corrected : Corrected front h s t) :
    Journal.CorrectsOnce h s.env.journal t.env.journal := by
  cases corrected with
  | none errands => exact .none (Journal.commands_eq errands.docket) (Journal.placements_eq errands.docket)
  | commanded errands command sync done =>
      refine .after errands.docket ?_
      obtain ⟨-, rfl⟩ := Environment.deliver_eq_ok done
      refine ⟨[⟨h, .sysCommand command, sync⟩], [], ⟨?_, ?_⟩, by simp, by simp, by simp⟩
      · simp [Journal.commands, Environment.note, GuestMessage.isCommand]
      · simp [Environment.note]
  | placed errands rect flags =>
      refine .after errands.docket ?_
      refine ⟨[], [(h, rect, flags)], ⟨?_, rfl⟩, by simp, by simp, by simp⟩
      simp [Journal.commands, act, Environment.placeWindow, Environment.note,
        Environment.editInfo, Environment.editWindow]

/-- A request to let go of the pointer is no command. -/
theorem Upshot.once {event : EventRecord} (upshot : s.Upshot h event t) :
    Journal.CorrectsOnce h s.env.journal t.env.journal := by
  cases upshot with
  | done corrected => exact corrected.once
  | putOff whose keyboard asked =>
      refine .after asked.env.docket ?_
      rw [retryAfterRelease_eq]
      split
      · exact .none rfl rfl
      · refine .none ?_ rfl
        simp [Journal.commands, act, Environment.note, Environment.resend, GuestMessage.isCommand]

/-- An event brings the guest at most one command or placement, for the window that the event is
about. -/
theorem correctsOnce_dispatch (s : Scene) (event : EventRecord) :
    Journal.CorrectsOnce (target s.env event) s.env.journal (s.dispatch event).1.env.journal := by
  obtain ⟨t, upshot, ended⟩ := s.dispatch_upshot event
  rw [ended]
  exact upshot.once

end Scene

end GuestSeat
