import GuestSeat.Proofs.Windows.Correction
import GuestSeat.Proofs.Windows.Fullscreen

/-!
The window manager repeats itself. As long as it reports the same state of a window, the first
notification is read, the second brings the icon flag in line if the first did not, and all later ones
change nothing, whatever the guest does with the styles of the window. One command at most comes of them
all.
-/

namespace GuestSeat

namespace ManagedState

/-- What a new value of the state property makes of what is known of a window, and what the guest window
is asked for. -/
def notice (m : ManagedState) (reported : Option WmState) (style : WindowStyle) (net : NetState) :
    ManagedState × Correction :=
  let (seen, telling) := m.observe .newValue reported
  if telling then seen.correct style net else (seen, .none)

def HasRead (m : ManagedState) (reported : Option WmState) : Prop :=
  ∀ v, reported = some v → m.wmState = v

def Fits (m : ManagedState) : Prop :=
  (m.wmState = .normal → m.iconic = false) ∧ (m.wmState = .iconic → m.iconic = true)

variable {m : ManagedState} {reported : Option WmState} (style : WindowStyle) (net : NetState)

theorem wmState_correct : (m.correct style net).1.wmState = m.wmState := by
  unfold correct
  split <;> rfl

theorem fits_correct : (m.correct style net).1.Fits := by
  obtain ⟨iconic, wmState⟩ := m
  unfold correct Fits
  cases iconic <;> cases wmState <;> simp

theorem correct_of_fits (fits : m.Fits) : m.correct style net = (m, .none) := by
  unfold correct
  split
  · next iconic normal =>
      rw [fits.1 normal] at iconic
      cases iconic
  · next flag iconic =>
      rw [fits.2 iconic] at flag
      cases flag
  · rfl

theorem hasRead_observe : (m.observe .newValue reported).1.HasRead reported := by
  intro v told
  rw [told]
  rfl

/-- A state that is known already is looked at again. -/
theorem observe_of_hasRead (read : m.HasRead reported) : m.observe .newValue reported = (m, true) := by
  cases told : reported with
  | none => rfl
  | some v =>
      have known : m.wmState = v := read v told
      subst known
      simp [observe]

theorem hasRead_notice : (m.notice reported style net).1.HasRead reported := by
  have read : (m.observe .newValue reported).1.HasRead reported := hasRead_observe
  unfold notice
  dsimp only
  split
  · intro v told
    rw [wmState_correct]
    exact read v told
  · exact read

theorem fits_notice (read : m.HasRead reported) : (m.notice reported style net).1.Fits := by
  unfold notice
  rw [observe_of_hasRead read]
  exact fits_correct style net

/-- The first notification leaves the guest window alone or brings the icon flag in line. -/
theorem silent_or_fits_notice (m : ManagedState) (reported : Option WmState) :
    (m.notice reported style net).2 = .none ∨ (m.notice reported style net).1.Fits := by
  unfold notice
  dsimp only
  split
  · exact .inr (fits_correct style net)
  · exact .inl rfl

theorem notice_of_fits (read : m.HasRead reported) (fits : m.Fits) :
    m.notice reported style net = (m, .none) := by
  unfold notice
  rw [observe_of_hasRead read]
  exact correct_of_fits style net fits

structure Progress (m : ManagedState) (reported : Option WmState) (n : Nat) (sent : List Delivered) :
    Prop where
  fresh : n = 0 → sent = []
  read : n ≠ 0 → m.HasRead reported
  fits : 2 ≤ n ∨ sent ≠ [] → m.Fits
  once : sent.length ≤ 1

variable {n : Nat} {sent added : List Delivered}

theorem Progress.start (m : ManagedState) (reported : Option WmState) : m.Progress reported 0 [] where
  fresh := fun _ => rfl
  read := fun later => absurd rfl later
  fits := by simp
  once := Nat.zero_le 1

/-- One more report of a state keeps up the progress of a series. -/
theorem Progress.notice (progress : m.Progress reported n sent) (bound : added.length ≤ 1)
    (silent : (m.notice reported style net).2 = .none → added = []) :
    (m.notice reported style net).1.Progress reported (n + 1) (sent ++ added) := by
  by_cases settled : m.HasRead reported ∧ m.Fits
  · rw [notice_of_fits style net settled.1 settled.2] at silent ⊢
    rw [silent rfl, List.append_nil]
    exact ⟨nofun, fun _ => settled.1, fun _ => settled.2, progress.once⟩
  · -- a command would have settled it before
    have unsent : sent = [] := by
      by_contra some
      have later : n ≠ 0 := fun zero => some (progress.fresh zero)
      exact settled ⟨progress.read later, progress.fits (.inr some)⟩
    subst unsent
    rw [List.nil_append]
    refine ⟨nofun, fun _ => hasRead_notice style net, ?_, bound⟩
    rintro (twice | commanded)
    · exact fits_notice style net (progress.read (by omega))
    · exact (silent_or_fits_notice style net m reported).resolve_left (mt silent commanded)

end ManagedState

namespace Scene

/-- Whether a window is managed, on the screen and reported to be in a state. -/
def Stands (s : Scene) (h : Handle) (reported : Option WmState) : Prop :=
  ∃ info w, s.env.info? h = some info ∧ info.managed = true ∧ info.mapped = true ∧
    info.host = some w ∧ s.env.wmState? w = reported

/-- Whether an event tells of a new value of the state property of a window. -/
def TellsOfNewState (s : Scene) (h : Handle) (event : EventRecord) : Prop :=
  s.Concerns h event ∧ ∃ e, event.kind = .property e ∧ e.atom = .wmState ∧ e.change = .newValue

/-- Notifications of the state property of a window while the host reports the same state. `sent` are the
commands that came of them. From one to the next anything may change but what is known of the window. -/
inductive Series (h : Handle) (reported : Option WmState) (start : Scene) :
    Nat → List Delivered → Scene → Prop
  | start : Series h reported start 0 [] start
  | notified {n : Nat} {sent added : List Delivered} {s u : Scene} {event : EventRecord}
      (series : Series h reported start n sent s)
      (same : u.seat.windows.get? h = s.seat.windows.get? h) (stands : u.Stands h reported)
      (tells : u.TellsOfNewState h event)
      (gained : (u.dispatch event).1.env.journal.commands = u.env.journal.commands ++ added) :
      Series h reported start (n + 1) (sent ++ added) (u.dispatch event).1

variable {s : Scene} {h : Handle} {reported : Option WmState} {event : EventRecord}

theorem commands_applyCorrection (s : Scene) (h : Handle) (correction : Correction) : ∃ added,
    (s.applyCorrection h correction).env.journal.commands = s.env.journal.commands ++ added ∧
      added.length ≤ 1 ∧ (correction = .none → added = []) := by
  have corrected : Corrected (fun _ => True) h s (s.applyCorrection h correction) :=
    s.applyCorrection_corrected h correction fun _ => trivial
  obtain ⟨sent, placed, gains, bound, -⟩ := corrected.once
  refine ⟨sent, gains.commands, by omega, ?_⟩
  rintro rfl
  simpa [applyCorrection] using gains.commands

/-- What is known of the window depends on the report alone, and the guest is told what the report
came to. -/
theorem wmStateChanged_eq (stands : s.Stands h reported) : ∃ style net, ∃ u : Scene,
    u.env = s.env ∧
      u.seat.windows.get? h = some ((s.window h).notice reported style net).1 ∧
      s.wmStateChanged h .newValue true =
        u.applyCorrection h ((s.window h).notice reported style net).2 := by
  obtain ⟨info, w, known, managed, mapped, host, state⟩ := stands
  refine ⟨info.style, s.env.netState w, ?_⟩
  unfold wmStateChanged observeWmState ManagedState.notice
  rw [known]
  dsimp only
  rw [host]
  dsimp only
  rw [state]
  cases observed : (s.window h).observe .newValue reported with
  | mk m telling =>
      let seen := s.editWindow h fun _ => m
      cases telling with
      | false => exact ⟨seen, rfl, s.get?_editWindow h _, rfl⟩
      | true =>
          simp only [managed, mapped, Bool.and_self, if_true, window_editWindow]
          exact ⟨seen.editWindow h fun _ => (m.correct info.style (s.env.netState w)).1, rfl,
            seen.get?_editWindow h _, rfl⟩

theorem handle_wmState {e : PropertyEvent} (there : h.isNull = false) (kind : event.kind = .property e)
    (atom : e.atom = .wmState) : (s.handle h event).1 = s.wmStateChanged h e.change true := by
  unfold handle
  rw [kind]
  dsimp only
  rw [if_neg (by simp [there])]
  unfold property
  rw [atom]

theorem dispatch_notice (stands : s.Stands h reported) (tells : s.TellsOfNewState h event) :
    ∃ style net added,
      (s.dispatch event).1.seat.windows.get? h =
        some ((s.window h).notice reported style net).1 ∧
      (s.dispatch event).1.env.journal.commands = s.env.journal.commands ++ added ∧
      added.length ≤ 1 ∧ (((s.window h).notice reported style net).2 = .none → added = []) := by
  obtain ⟨⟨about, there⟩, e, kind, atom, change⟩ := tells
  obtain ⟨style, net, u, env, known, eq⟩ := wmStateChanged_eq (s := s.receiving event) stands
  have handled : ((s.receiving event).handle (target s.env event) event).1 =
      (s.receiving event).wmStateChanged h .newValue true := by
    rw [about, handle_wmState there kind atom, change]
  obtain ⟨added, commands, bound, silent⟩ :=
    u.commands_applyCorrection h (((s.receiving event).window h).notice reported style net).2
  refine ⟨style, net, added, ?_, ?_, bound, silent⟩
  · rw [s.fst_dispatch handled, eq, windows_edit, windows_applyCorrection]
    exact known
  · rw [s.fst_dispatch handled, eq]
    exact commands.trans (by rw [env]; rfl)

theorem Series.progress {start : Scene} {n : Nat} {sent : List Delivered}
    (series : Series h reported start n sent s) : (s.window h).Progress reported n sent := by
  induction series with
  | start => exact .start _ reported
  | @notified n sent added s u event _ same stands tells gained ih =>
      obtain ⟨style, net, more, known, commands, bound, silent⟩ := dispatch_notice stands tells
      obtain rfl : added = more := List.append_cancel_left (gained.symm.trans commands)
      rw [window_get?_congr same] at known silent
      rw [window_of_get? known]
      exact ih.notice style net bound silent

theorem Series.known {start : Scene} {n : Nat} {sent : List Delivered}
    (series : Series h reported start (n + 1) sent s) :
    s.seat.windows.get? h = some (s.window h) := by
  cases series with
  | notified _ _ stands tells _ =>
      obtain ⟨style, net, _, known, -⟩ := dispatch_notice stands tells
      rw [window_of_get? known, known]

/-- However often the host reports one state, at most one command comes of it. Once it has done so
twice, a further report changes nothing in what is known of the window, whose icon flag fits the
state unless the window is withdrawn. -/
theorem series_settles {start : Scene} {n : Nat} {sent : List Delivered}
    (series : Series h reported start n sent s) :
    sent.length ≤ 1 ∧
    (2 ≤ n → ∀ (u : Scene) (event : EventRecord),
      u.seat.windows.get? h = s.seat.windows.get? h → u.Stands h reported →
      u.TellsOfNewState h event →
      (u.dispatch event).1.seat.windows.get? h = u.seat.windows.get? h) ∧
    (2 ≤ n → ∀ v, reported = some v → v ≠ .withdrawn →
      (s.window h).iconic = decide (v = .iconic)) := by
  have progress := series.progress
  refine ⟨progress.once, ?_, ?_⟩
  · intro twice u event same stands tells
    obtain ⟨m, rfl⟩ : ∃ m, n = m + 1 := ⟨n - 1, by omega⟩
    obtain ⟨style, net, _, known, -⟩ := dispatch_notice stands tells
    have settled := ManagedState.notice_of_fits style net (progress.read (by omega))
      (progress.fits (.inl twice))
    rw [known, window_get?_congr same, settled, same, series.known]
  · intro twice v told there
    have state : (s.window h).wmState = v := progress.read (by omega) v told
    have fits := progress.fits (.inl twice)
    cases v with
    | withdrawn => exact absurd rfl there
    | normal => simpa using fits.1 state
    | iconic => simpa using fits.2 state

/-- A window that can be minimized and that the host shows as an icon, which the seat has not heard of. -/
def iconified : Scene :=
  let s := alone ⟨0, 0, 1920, 1080⟩
  let created := s.env.createWindow (WindowStyle.visible ||| WindowStyle.minimizeBox) ⟨10, 10, 110, 60⟩
  { s with env := created.1.editWindow created.2.1 fun hosted => { hosted with wmState := some .iconic } }

/-- Of two notifications the second has the window minimized. A third changes nothing. -/
theorem series_settles_iconified :
    let told : EventRecord :=
      { serial := ⟨1⟩
        window := ⟨0x04000001⟩
        kind := .property { atom := .wmState, change := .newValue } }
    let once := (iconified.dispatch told).1
    let twice := (once.dispatch told).1
    Series ⟨0x20000⟩ (some .iconic) iconified 2 [⟨⟨0x20000⟩, .sysCommand .minimize, true⟩] twice ∧
      (twice.dispatch told).1.seat.windows.get? ⟨0x20000⟩ = twice.seat.windows.get? ⟨0x20000⟩ ∧
      (twice.window ⟨0x20000⟩).iconic = true := by
  intro told once twice
  have stands : ∀ u : Scene, u.env.windows = iconified.env.windows →
      u.Stands ⟨0x20000⟩ (some .iconic) := by
    intro u same
    have first : iconified.Stands ⟨0x20000⟩ (some .iconic) := ⟨_, ⟨0x04000001⟩, rfl, rfl, rfl, rfl, rfl⟩
    unfold Stands Environment.info? Environment.wmState? Environment.hosted?
    rw [same]
    exact first
  have tells : ∀ u : Scene, target u.env told = ⟨0x20000⟩ → u.TellsOfNewState ⟨0x20000⟩ told := by
    intro u about
    exact ⟨⟨about, by decide⟩, _, rfl, rfl, rfl⟩
  have onceStands : once.Stands ⟨0x20000⟩ (some .iconic) := stands once (by decide +kernel)
  have twiceStands : twice.Stands ⟨0x20000⟩ (some .iconic) := stands twice (by decide +kernel)
  have first : Series ⟨0x20000⟩ (some .iconic) iconified 1 [] once :=
    .notified .start rfl (stands iconified rfl) (tells iconified (by decide +kernel))
      (by decide +kernel : _ = _ ++ [])
  have series : Series ⟨0x20000⟩ (some .iconic) iconified 2
      [⟨⟨0x20000⟩, .sysCommand .minimize, true⟩] twice :=
    .notified first rfl onceStands (tells once (by decide +kernel)) (by decide +kernel)
  obtain ⟨-, unchanged, flag⟩ := series_settles series
  refine ⟨series, ?_, ?_⟩
  · exact unchanged (by decide) twice told rfl twiceStands (tells twice (by decide +kernel))
  · exact flag (by decide) .iconic rfl (by decide)

end Scene

end GuestSeat
