import GuestSeat.Proofs.Clip.Refinement

/-!
Who owns the clip. Seats claim, keep, lose and give up clips while reports and resets are under way, in
whatever order they arrive. Once nothing is in flight any more, the registry knows the one seat that
clips.
-/

namespace GuestSeat

namespace Session

variable {staff : Staff} {start s t : Session}

/-- The seats of a process none of which has acted yet, each on a thread of its own; the desktop's has an
empty registry. -/
structure Fresh (s : Session) (staff : Staff) : Prop where
  inputs : ∀ (seat : Nat) (member : Member), s.members[seat]? = some member →
    member.seat.input = (Seat.ofConfig member.seat.config).input
  desk : ∃ member : Member, s.members[staff.desk]? = some member ∧ member.seat.registry = some {}
  plain : ∀ (seat : Nat) (member : Member), seat ≠ staff.desk → s.members[seat]? = some member →
    member.seat.registry = none
  apart : ∀ i j, i < s.members.length → j < s.members.length → staff.thread i = staff.thread j → i = j
  desktop : s.env.threadOf? Environment.desktop = some (staff.thread staff.desk)
  past : Environment.desktop.id.toNat < s.env.nextHandle.toNat
  silent : s.env.journal.messages = []

inductive Run (staff : Staff) (allowed : Session → Turn → Prop) (start : Session) : Session → Prop
  | start : Run staff allowed start start
  | turn {s t : Session} {turn : Turn} (run : Run staff allowed start s) (ok : allowed s turn)
      (taken : s.take? staff turn = some t) : Run staff allowed start t

structure Kept (s : Session) (staff : Staff) : Prop where
  housed : s.Housed staff
  orderly : (s.ledger staff).Orderly

theorem Fresh.clip?_eq_none (fresh : Fresh s staff) (seat : Nat) : s.clip? seat = none := by
  unfold clip?
  cases hm : s.members[seat]? with
  | none => rfl
  | some member =>
      change member.seat.input.clip = none
      rw [fresh.inputs seat member hm]
      rfl

theorem Fresh.owner_eq (fresh : Fresh s staff) : s.owner staff = .null := by
  obtain ⟨desk, hdesk, hregistry⟩ := fresh.desk
  simp [Session.owner, hdesk, Seat.registryOwner, hregistry]

theorem Fresh.kept (fresh : Fresh s staff) : s.Kept staff := by
  obtain ⟨desk, hdesk, hregistry⟩ := fresh.desk
  have free : desk.seat.input.clip = none := by
    simpa [clip?, hdesk] using fresh.clip?_eq_none staff.desk
  refine ⟨⟨⟨desk, _, hdesk, hregistry, free⟩, fresh.plain, fresh.apart, fresh.desktop, fresh.past, ?_,
    ?_⟩, ?_⟩
  · intro seat region held
    simp [fresh.clip?_eq_none] at held
  · simp [fresh.silent]
  · have captures : ∀ seat, (s.ledger staff).captures seat = none := by
      simp [ledger, fresh.clip?_eq_none]
    have notices : (s.ledger staff).notices = [] := by simp [ledger, fresh.silent]
    have owner : (s.ledger staff).owner = .null := fresh.owner_eq
    have positive : 0 < (s.ledger staff).horizon := Nat.lt_of_le_of_lt (Nat.zero_le _) fresh.past
    refine ⟨positive, ?_, ?_, ?_, ?_, ?_⟩
    · simp [captures]
    · simp [captures]
    · rw [owner]
      exact positive
    · simp [notices]
    · simp [captures]

/-- A permitted turn keeps up the agreement of the session with its ledger. -/
theorem Kept.take {turn : Turn} (hs : s.Kept staff) (ok : s.Permitted turn)
    (ht : s.take? staff turn = some t) : t.Kept staff := by
  obtain ⟨housed, orderly⟩ := hs
  cases turn with
  | call seat call =>
      obtain ⟨housed', acts⟩ := take_call housed orderly ok ht
      exact ⟨housed', acts.orderly orderly⟩
  | change env =>
      cases ht
      obtain ⟨housed', acts⟩ := take_change housed ok
      exact ⟨housed', acts.orderly orderly⟩
  | deliver position =>
      obtain ⟨d, hd, -⟩ := deliver_cases ht
      cases notice : d.notice? with
      | none =>
          obtain ⟨housed', acts⟩ := deliver_silent housed orderly ok hd notice ht
          exact ⟨housed', acts.orderly orderly⟩
      | some n =>
          obtain ⟨housed', delivery⟩ := deliver_notice housed orderly hd notice ht
          exact ⟨housed', delivery.orderly (notices_of_notice hd notice) orderly⟩

theorem Run.kept {allowed : Session → Turn → Prop} (fresh : Fresh start staff)
    (run : Run staff allowed start s) (permitted : ∀ s turn, allowed s turn → s.Permitted turn) :
    s.Kept staff := by
  induction run with
  | start => exact fresh.kept
  | turn _ ok taken ih => exact ih.take (permitted _ _ ok) taken

def AtRest (s : Session) : Prop := ∀ d ∈ s.env.journal.messages, d.isInFlight = false

instance (s : Session) : Decidable s.AtRest :=
  inferInstanceAs (Decidable (∀ d ∈ s.env.journal.messages, d.isInFlight = false))

theorem AtRest.notices_eq_nil (rest : s.AtRest) : (s.ledger staff).notices = [] := by
  refine List.filterMap_eq_nil_iff.mpr fun d member => ?_
  have landed := rest d member
  obtain ⟨window, message, sync⟩ := d
  cases sync with
  | true => cases message <;> rfl
  | false => cases message <;> first | rfl | cases landed

/-- Clip ownership is exclusive. Whatever the seats of a process do and in whatever order messages are
delivered, once none is in flight the capture window of every clip is the one that the registry takes
for the owner, and so at most one seat clips. -/
theorem clip_exclusive_at_rest (fresh : Fresh start staff)
    (run : Run staff Permitted start s) (rest : s.AtRest) :
    (∀ seat region, s.clip? seat = some region → region.captureWindow = s.owner staff) ∧
      ∀ i j, (s.clip? i).isSome = true → (s.clip? j).isSome = true → i = j := by
  obtain ⟨-, orderly⟩ := run.kept fresh fun _ _ ok => ok
  have owned : ∀ seat region, s.clip? seat = some region →
      region.captureWindow = s.owner staff := by
    intro seat region held
    have captured : (s.ledger staff).captures seat = some region.captureWindow := by
      simp [ledger, held]
    exact orderly.owner_eq rest.notices_eq_nil captured
  refine ⟨owned, fun i j hi hj => ?_⟩
  obtain ⟨mine, hmine⟩ := Option.isSome_iff_exists.mp hi
  obtain ⟨other, hother⟩ := Option.isSome_iff_exists.mp hj
  refine orderly.apart i j (s.owner staff) ?_ ?_
  · simp [ledger, hmine, owned i mine hmine]
  · simp [ledger, hother, owned j other hother]

/-- The desktop's seat and two others, on a screen with no window but the desktop's. -/
def trio (screen : Rect) : Session where
  members :=
    [⟨{ Seat.ofConfig {} with registry := some {} }, false⟩, ⟨.ofConfig {}, false⟩,
      ⟨.ofConfig {}, false⟩]
  env := .ofScreen screen

end Session

/-- Three seats on the threads of their numbers, the first one the desktop's. -/
def Staff.three : Staff := { thread := fun seat => ⟨seat.toUInt32⟩, desk := 0 }

namespace Session

theorem fresh_trio (screen : Rect) : Fresh (trio screen) .three := by
  refine ⟨?_, ⟨_, rfl, rfl⟩, ?_, ?_, rfl, ?_, rfl⟩
  · rintro (_ | _ | _ | seat) member present <;> cases present <;> rfl
  · rintro (_ | _ | _ | seat) member other present
    · exact absurd rfl other
    all_goals cases present <;> rfl
  · have apart : ∀ i < 3, ∀ j < 3, Staff.three.thread i = Staff.three.thread j → i = j := by decide
    exact fun i j hi hj => apart i hi j hj
  · change Environment.desktop.id.toNat < (0x20000 : UInt64).toNat
    decide

theorem Permitted.clip {s : Session} (seat : Nat) (rect : Rect)
    (room : s.env.nextHandle.toNat + 2 * (s.env.queue.length + 1) < UInt64.size) :
    s.Permitted (.call seat (.clipCursor (some rect))) := ⟨nofun, room⟩

theorem Permitted.deliver {s : Session} (position : Nat)
    (room : s.env.nextHandle.toNat + 2 < UInt64.size) : s.Permitted (.deliver position) := room

/-- Of two seats that clip one after the other, the second is left with the clip. -/
theorem clip_exclusive_of_second :
    ∃ s, Run .three Permitted (trio ⟨0, 0, 1920, 1080⟩) s ∧ s.AtRest ∧ s.clip? 1 = none ∧
      ∃ region, s.clip? 2 = some region ∧ region.captureWindow = s.owner .three := by
  have first : Run .three Permitted (trio ⟨0, 0, 1920, 1080⟩) _ :=
    .turn .start (.clip 1 ⟨0, 0, 800, 600⟩ (by decide)) rfl
  have second : Run .three Permitted _ _ := .turn first (.clip 2 ⟨0, 0, 400, 300⟩ (by decide)) rfl
  have heard : Run .three Permitted _ _ := .turn second (.deliver 0 (by decide)) rfl
  have ruled : Run .three Permitted _ _ := .turn heard (.deliver 0 (by decide)) rfl
  have evicted : Run .three Permitted _ _ := .turn ruled (.deliver 0 (by decide)) rfl
  obtain ⟨s, run, rest, free, held⟩ : ∃ s, Run .three Permitted (trio ⟨0, 0, 1920, 1080⟩) s ∧
      s.AtRest ∧ s.clip? 1 = none ∧ s.clip? 2 = some ⟨⟨0, 0, 400, 300⟩, ⟨0x20002⟩, .explicit⟩ :=
    ⟨_, evicted, by decide, by decide, by decide⟩
  obtain ⟨owned, -⟩ := clip_exclusive_at_rest (fresh_trio _) run rest
  exact ⟨s, run, rest, free, _, held, owned 2 _ held⟩

end Session

end GuestSeat
