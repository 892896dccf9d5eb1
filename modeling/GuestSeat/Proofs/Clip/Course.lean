import GuestSeat.Proofs.Seat.Calls

/-!
What the clip goes through during a whole call of a seat. Every deed takes it through outcomes; what
becomes of the queue and of the event on record concerns nothing that a clip rests on.
-/

namespace GuestSeat

namespace Scene

open Environment (desktop)

variable {R : Permit}

/-- The seat went from `s` to `t` with at most `n` handles used up, whatever became of the queue. -/
inductive Course (R : Permit) : Nat → Scene → Scene → Prop
  | one {n : Nat} {s t : Scene} (h : Outcome R n s t) : Course R n s t
  | aside {n : Nat} {s t : Scene} (standing : t.standing = s.standing)
      (setting : t.ground.toSetting = s.ground.toSetting) : Course R n s t
  | trans {m n : Nat} {s t u : Scene} (first : Course R m s t) (second : Course R n t u) :
      Course R (m + n) s u

namespace Course

variable {m n : Nat} {s t u : Scene}

theorem quiet (h : s.Quiet t) : Course R n s t := .one (.quiet h)

theorem refl (s : Scene) : Course R n s s := .quiet (.refl s)

theorem mono (h : Course R m s t) (le : m ≤ n) : Course R n s t := by
  have padded : Course R (m + (n - m)) s t := h.trans (refl t)
  rwa [Nat.add_sub_cancel' le] at padded

theorem after (first : Course R 0 s t) (second : Course R n t u) : Course R n s u := by
  have chained : Course R (0 + n) s u := first.trans second
  rwa [Nat.zero_add] at chained

/-- What every outcome preserves while it uses up handles, every course preserves, provided that it
depends on no more than the standing and the setting. -/
theorem preserves {P : Nat → Scene → Prop}
    (step : ∀ {m n : Nat} {s t : Scene}, Outcome R m s t → P (m + n) s → P n t)
    (weaken : ∀ {m n : Nat} {s : Scene}, P (m + n) s → P n s)
    (rests : ∀ {n : Nat} {s t : Scene}, t.standing = s.standing →
      t.ground.toSetting = s.ground.toSetting → P n s → P n t)
    (h : Course R m s t) : ∀ n, P (m + n) s → P n t := by
  induction h with
  | one h => exact fun n hs => step h hs
  | aside standing setting => exact fun n hs => rests standing setting (weaken hs)
  | trans _ _ first second =>
      intro n hs
      rw [Nat.add_assoc] at hs
      exact second n (first _ hs)

end Course

/-- A deed takes the clip through outcomes. -/
theorem Deed.course {L : Licence} {n : Nat} {s t : Scene} (h : Deed L n s t) :
    Course L.toPermit n s t := by
  have grabbed : ∀ {m : Nat} (s : Scene) (rect : Rect) (kind : ClipKind), L.rect rect →
      Course L.toPermit (m + 1) s (s.grab rect kind).1 := by
    intro m s rect kind hR
    obtain ⟨t, used, decided⟩ := s.grab_outcome L.toPermit kind hR (n := m)
    exact Course.after (.one used) (.one decided)
  cases h with
  | routine h => exact .quiet h.toQuiet
  | touch region w => exact .quiet (s.quiet_visit region.captureWindow (some w))
  | visit h info => exact .quiet (s.quiet_visit h info.host)
  | confine rect asked hR => exact grabbed s rect .explicit hR
  | cover t since guard hR =>
      exact .after (.quiet since.toQuiet) (grabbed t t.env.primaryMonitor .fullscreen hR)
  | release report told => exact .one (s.release_outcome L.toPermit n told)
  | mark => exact .quiet s.quiet_markReset

theorem Deeds.course {L : Licence} {n : Nat} {s t : Scene} (h : Deeds L n s t) :
    Course L.toPermit n s t := by
  induction h with
  | one h => exact h.course
  | trans _ _ first second => exact first.trans second

theorem Doings.course {L : Licence} {n : Nat} {s t : Scene} (h : Doings L n s t) :
    Course L.toPermit n s t := by
  induction h with
  | deeds h => exact h.course
  | aside queue inFlight => exact .aside rfl rfl
  | trans _ _ first second => exact first.trans second

variable (s : Scene)

/-- A message from another seat takes the clip through outcomes, unless it is a report to the
registry. -/
theorem driverMessage_course (h : Handle) (message : GuestMessage)
    (hreport : ∀ source target, message = .clipOwnerChanged source target → s.seat.registry = none)
    (hreset : message = .clipReset → R.silence) (hmonitor : R.rect s.env.primaryMonitor)
    (hguest : message = .clipRequest → s.env.guestClip.restricts s.env.virtualScreen = true →
      R.rect (s.env.guestClip.clampTo s.env.virtualScreen)) :
    Course R 1 s (s.driverMessage h message).1 ∧ (s.driverMessage h message).1.ground = s.ground := by
  by_cases shows : ∃ cursor, message = .setCursor cursor
  · obtain ⟨cursor, rfl⟩ := shows
    have shown := s.quiet_defineCursor h cursor
    exact ⟨.quiet shown, shown.ground⟩
  · have deeds := s.driverMessage_deeds (L := R.lax) h message hreport
      (fun cursor eq => shows ⟨cursor, eq⟩) hreset (fun _ => trivial) hmonitor hguest
    exact ⟨deeds.course, deeds.ground⟩

/-- A call that is no report to the registry takes the clip through outcomes. -/
theorem call_course {t : Scene} {call : Call} (ht : s.call? call = some t)
    (hscreen : ∀ r : Rect, r.isEmpty = false → r.isWithin s.env.virtualScreen = true → R.rect r)
    (hmonitor : R.rect s.env.primaryMonitor)
    (hguest : (∃ h, call = .message h .clipRequest) →
      s.env.guestClip.restricts s.env.virtualScreen = true →
      R.rect (s.env.guestClip.clampTo s.env.virtualScreen))
    (hreset : (∃ h, call = .message h .clipReset) → R.silence)
    (hreport : ∀ h source target, call = .message h (.clipOwnerChanged source target) →
      s.seat.registry = none) :
    Course R s.appetite s t ∧ t.ground.inFlight = s.ground.inFlight := by
  have idle : ∀ u, s.Quiet u → Course R s.appetite s u ∧ u.ground.inFlight = s.ground.inFlight :=
    fun u h => ⟨.quiet h, by rw [h.ground]⟩
  by_cases ordinary : call.IsOrdinary
  · obtain ⟨doings, hflight⟩ := s.call_doings (L := R.lax) ht ordinary hscreen hmonitor hguest
      hreset (fun _ => trivial) (fun _ => trivial) fun _ => trivial
    exact ⟨doings.course, hflight⟩
  cases call with
  | setCursor cursor => cases ht; exact idle _ (s.quiet_setCursor cursor)
  | destroyCursor cursor => cases ht; exact idle _ (s.quiet_destroyCursor cursor)
  | message h message =>
      cases ht
      obtain ⟨course, hground⟩ := s.driverMessage_course h message
        (fun source target eq => hreport h source target (by rw [eq]))
        (fun eq => hreset ⟨h, by rw [eq]⟩) hmonitor (fun eq => hguest ⟨h, by rw [eq]⟩)
      exact ⟨course.mono (Nat.le_add_left 1 _), by rw [hground]⟩
  | _ => exact absurd trivial ordinary

/-- No call gives a registry to a seat that has none. -/
theorem registry_call {t : Scene} {call : Call} (ht : s.call? call = some t)
    (plain : s.seat.registry = none) : t.seat.registry = none := by
  obtain ⟨course, -⟩ := s.call_course (R := ⟨fun _ => True, True⟩) ht (fun _ _ _ => trivial) trivial
    (fun _ _ => trivial) (fun _ => trivial) fun _ _ _ _ => plain
  exact course.preserves (P := fun _ u => u.standing.registry = none)
    (fun outcome hu => outcome.registry hu) id (fun standing _ hu => by rwa [standing]) 0 plain

end Scene

end GuestSeat
