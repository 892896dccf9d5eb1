import GuestSeat.Proofs.Windows.Placement
import GuestSeat.Proofs.Windows.Settling

/-!
A window that was withdrawn comes back. Its withdrawal says nothing about the icon flag, and neither does
the first state that is told of afterwards: window managers show a window as normal for a moment when they
map it as an icon. So a window that was an icon counts as one until it is said to be normal once more. As
long as it does, it does not follow its geometry.
-/

namespace GuestSeat

namespace ManagedState

variable (m : ManagedState) (style : WindowStyle) (net : NetState)

/-- Nothing is to be done about a window that is withdrawn. -/
theorem correct_of_withdrawn (gone : m.wmState = .withdrawn) : m.correct style net = (m, .none) := by
  unfold correct
  rw [gone]
  cases m.iconic <;> rfl

/-- The first state after that is only noted. -/
theorem notice_of_withdrawn (gone : m.wmState = .withdrawn) :
    m.notice (some .normal) style net = ({ m with wmState := .normal }, .none) := by
  unfold notice observe
  rw [gone]
  rfl

end ManagedState

namespace Scene

/-- Whether an event tells that a window's state property is gone. -/
def TellsOfWithdrawal (s : Scene) (h : Handle) (event : EventRecord) : Prop :=
  s.Concerns h event ∧ ∃ e, event.kind = .property e ∧ e.atom = .wmState ∧ e.change = .deleted

/-- Whether nothing but its icon flag can keep a window from following an event about its geometry. -/
structure Timely (s : Scene) (h : Handle) (info : WindowInfo) (event : EventRecord) : Prop where
  concerns : s.Concerns h event
  known : s.env.info? h = some info
  mapped : info.mapped = true
  managed : info.managed = true
  honest : event.sent = true → info.foreign = false
  current : (s.window h).configureFence.holdsBack event.serial = false
  settled : (s.window h).pendingFullscreen = false
  agreed : overdue? s.env info = none

variable {s t : Scene} {h : Handle} {info : WindowInfo} {event : EventRecord}
  {reported : Option WmState}

theorem window_dispatch_of_withdrawal (stands : s.Stands h reported)
    (tells : s.TellsOfWithdrawal h event) :
    (s.dispatch event).1.window h = { s.window h with wmState := .withdrawn } := by
  obtain ⟨info, w, known, managed, mapped, host, -⟩ := stands
  obtain ⟨⟨about, there⟩, e, kind, atom, change⟩ := tells
  let u := s.receiving event
  let gone : ManagedState := { s.window h with wmState := .withdrawn }
  let noted := u.editWindow h fun _ => gone
  have changed : u.wmStateChanged h .deleted true = noted.editWindow h fun _ => gone := by
    have left : noted.window h = gone := by
      rw [window_editWindow, if_pos rfl]
    have observed : u.observeWmState h w .deleted = (noted, true) := rfl
    unfold wmStateChanged
    rw [show u.env.info? h = some info from known]
    dsimp only
    rw [host]
    dsimp only
    rw [observed]
    simp only [managed, mapped, Bool.and_self, if_true, left,
      ManagedState.correct_of_withdrawn gone info.style _ rfl]
    rfl
  have handled : (u.handle (target s.env event) event).1 = noted.editWindow h fun _ => gone := by
    rw [about, handle_wmState there kind atom, change]
    exact changed
  rw [s.fst_dispatch handled]
  show (noted.editWindow h fun _ => gone).window h = gone
  rw [window_editWindow, if_pos rfl]

/-- The flag decides whether a window follows an event that nothing else speaks against. -/
theorem Timely.follows_iff (timely : s.Timely h info event) :
    s.Follows h info event ↔ (s.window h).iconic = false := by
  obtain ⟨concerns, known, mapped, managed, honest, current, settled, agreed⟩ := timely
  have plain : (event.sent && info.foreign) = false := by
    cases sent : event.sent with
    | false => rfl
    | true => exact honest sent
  have allowed : followsGeometry info (s.window h) event = !(s.window h).iconic := by
    simp [followsGeometry, mapped, managed, plain, current, settled]
  constructor
  · intro follows
    simpa [allowed] using follows.allowed
  · intro free
    exact ⟨concerns, known, by rw [allowed, free]; rfl, agreed⟩

/-- What notifications of the normal state make of the flag of a window that was withdrawn. -/
theorem Series.iconic {start : Scene} {n : Nat} {sent : List Delivered}
    (series : Series h (some .normal) start n sent t) (gone : (start.window h).wmState = .withdrawn) :
    (t.window h).iconic = (decide (n ≤ 1) && (start.window h).iconic) := by
  have progress := series.progress
  match n with
  | 0 =>
      cases series
      rfl
  | 1 =>
      cases series with
      | notified series same stands tells gained =>
      cases series
      obtain ⟨style, net, added, known, -⟩ := dispatch_notice stands tells
      rw [window_of_get? known, window_get?_congr same, ManagedState.notice_of_withdrawn _ style net gone]
      rfl
  | n + 2 =>
      have normal : (t.window h).wmState = .normal := progress.read (by omega) .normal rfl
      rw [(progress.fits (.inl (by omega))).1 normal]
      rfl

/-- Withdrawal and the first notification afterwards leave the icon flag of a window as it was. From the
second notification on, while the host reports the window as normal, it is no icon. An event about its
geometry that nothing else speaks against is followed if and only if the flag is not set. -/
theorem icon_outlasts_withdrawal {n : Nat} {sent : List Delivered} (stands : s.Stands h reported)
    (gone : s.TellsOfWithdrawal h event)
    (series : Series h (some .normal) (s.dispatch event).1 n sent t) :
    (t.window h).iconic = (decide (n ≤ 1) && (s.window h).iconic) ∧
      ∀ (u : Scene) (info : WindowInfo) (next : EventRecord) (e : ConfigureEvent),
        u.seat.windows.get? h = t.seat.windows.get? h → next.kind = .configure e →
        u.Timely h info next →
          Environment.geometry? (u.dispatch next).1.env h =
            some (if (t.window h).iconic then info.windowRect
              else info.windowRect.broughtTo (configuredRect u.env h next e)) := by
  have withdrawn := window_dispatch_of_withdrawal stands gone
  constructor
  · rw [series.iconic (by rw [withdrawn]), withdrawn]
  · intro u info next e same kind timely
    have flag : (u.window h).iconic = (t.window h).iconic := by rw [window_get?_congr same]
    rw [← flag]
    by_cases icon : (u.window h).iconic = true
    · have ignored : ¬ u.Follows h info next := by
        rw [timely.follows_iff, icon]
        nofun
      have still := backdrop_dispatch_of_not_follows kind timely.concerns timely.known ignored
      have kept : (u.dispatch next).1.env.info? h = some info :=
        (Environment.eq_of_backdrop still (Environment.info? · h) fun _ => rfl).trans timely.known
      unfold Environment.geometry?
      rw [kept, if_pos icon]
      rfl
    · have free := eq_false_of_ne_true icon
      rw [env_dispatch_of_follows kind (timely.follows_iff.mpr free),
        Environment.geometry?_bring _ timely.known, if_pos rfl, if_neg icon]

/-- An event about the state property of the first window. -/
def stateTold (change : PropertyChange) : EventRecord :=
  { serial := ⟨1⟩, window := ⟨0x4000001⟩, kind := .property { atom := .wmState, change } }

/-- The window is an icon, for the host and for the guest. -/
def minimized : Scene :=
  ((iconified.dispatch (stateTold .newValue)).1.dispatch (stateTold .newValue)).1

/-- It was withdrawn, and the host shows it as a normal window again. -/
def mappedAgain : Scene :=
  (minimized.dispatch (stateTold .deleted)).1.act fun env =>
    env.editWindow ⟨0x20000⟩ fun hosted => { hosted with wmState := some .normal }

def enlarged : EventRecord :=
  { serial := ⟨2⟩, window := ⟨0x4000001⟩, kind := .configure ⟨⟨10, 10⟩, 300, 200⟩ }

theorem minimized_stands : minimized.Stands ⟨0x20000⟩ (some .iconic) :=
  ⟨_, ⟨0x4000001⟩, rfl, by decide +kernel, by decide +kernel, by decide +kernel, by decide +kernel⟩

theorem minimized_withdrawal : minimized.TellsOfWithdrawal ⟨0x20000⟩ (stateTold .deleted) :=
  ⟨⟨by decide +kernel, by decide⟩, _, rfl, rfl, rfl⟩

theorem mappedAgain_stands : mappedAgain.Stands ⟨0x20000⟩ (some .normal) :=
  ⟨_, ⟨0x4000001⟩, rfl, by decide +kernel, by decide +kernel, by decide +kernel, by decide +kernel⟩

theorem mappedAgain_told : mappedAgain.TellsOfNewState ⟨0x20000⟩ (stateTold .newValue) :=
  ⟨⟨by decide +kernel, by decide⟩, _, rfl, rfl, rfl⟩

/-- To be told once that the window is normal does not end its being an icon: new geometry of it comes to
nothing. -/
theorem mappedAgain_stays_icon :
    let h : Handle := ⟨0x20000⟩
    let once := (mappedAgain.dispatch (stateTold .newValue)).1
    minimized.Stands h (some .iconic) ∧ minimized.TellsOfWithdrawal h (stateTold .deleted) ∧
      mappedAgain.seat = (minimized.dispatch (stateTold .deleted)).1.seat ∧
      mappedAgain.Stands h (some .normal) ∧ mappedAgain.TellsOfNewState h (stateTold .newValue) ∧
      (once.window h).iconic = true ∧ (∃ info, once.Timely h info enlarged) ∧
      (once.dispatch enlarged).2 = false := by
  intro h once
  have timely : once.Timely h _ enlarged :=
    ⟨⟨by decide +kernel, by decide⟩, rfl, by decide +kernel, by decide +kernel, nofun, by decide +kernel,
      by decide +kernel, by decide +kernel⟩
  refine ⟨minimized_stands, minimized_withdrawal, rfl, mappedAgain_stands, mappedAgain_told, ?_,
    ⟨_, timely⟩, ?_⟩
  · decide +kernel
  · decide +kernel

/-- To be told twice does, and the window follows new geometry. -/
theorem mappedAgain_follows :
    let h : Handle := ⟨0x20000⟩
    let twice := ((mappedAgain.dispatch (stateTold .newValue)).1.dispatch (stateTold .newValue)).1
    (twice.window h).iconic = false ∧
      Environment.geometry? (twice.dispatch enlarged).1.env h = some ⟨10, 10, 310, 210⟩ := by
  intro h twice
  let once := (mappedAgain.dispatch (stateTold .newValue)).1
  have stands : once.Stands h (some .normal) :=
    ⟨_, ⟨0x4000001⟩, rfl, by decide +kernel, by decide +kernel, by decide +kernel, by decide +kernel⟩
  have tells : once.TellsOfNewState h (stateTold .newValue) :=
    ⟨⟨by decide +kernel, by decide⟩, _, rfl, rfl, rfl⟩
  have first : Series h (some .normal) (minimized.dispatch (stateTold .deleted)).1 1 [] once :=
    .notified .start rfl mappedAgain_stands mappedAgain_told (by decide +kernel : _ = _ ++ [])
  have series : Series h (some .normal) (minimized.dispatch (stateTold .deleted)).1 2 [] twice :=
    .notified first rfl stands tells (by decide +kernel : _ = _ ++ [])
  obtain ⟨flag, follows⟩ := icon_outlasts_withdrawal minimized_stands minimized_withdrawal series
  have timely : twice.Timely h _ enlarged :=
    ⟨⟨by decide +kernel, by decide⟩, rfl, by decide +kernel, by decide +kernel, nofun, by decide +kernel,
      by decide +kernel, by decide +kernel⟩
  refine ⟨flag, (follows twice _ enlarged _ rfl rfl timely).trans ?_⟩
  rw [flag]
  decide +kernel

end Scene

end GuestSeat
