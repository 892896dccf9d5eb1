import GuestSeat.Proofs.Clip.Custody
import GuestSeat.Proofs.Clip.Ownership

/-!
Capture windows neither leak nor get used again. Seats act on the same surroundings in any order, while
windows are created and added in between. Whatever they do, the capture windows that are left are those
of the clips in force, one for each, and a new one gets a handle that no window ever had.
-/

namespace GuestSeat

namespace Scene

variable (s : Scene)

/-- The handles that a call gives to capture windows. A handler gives out one at most, so those of the
calls that do nothing but handle events are found one event at a time. -/
def issuedBy (call : Call) : List Handle :=
  match call with
  | .dispatch _ | .drain _ | .waitFor _ _ _ =>
    (s.callTrail call).flatMap fun handled => handled.1.issued (handled.1.dispatch handled.2).1
  | _ => ((s.call? call).map s.issued).getD []

/-- A call that does more than handle events gives out one handle at most, or is a report to the registry,
which has no capture windows. -/
theorem call_single {t : Scene} {call : Call} (taken : s.call? call = some t)
    (single : ¬ call.OnlyHandles) :
    Course ⟨fun _ => True, True⟩ 1 s t ∨ t.standing.custody = s.standing.custody := by
  have deeds : ∀ {n u}, n ≤ 1 → Deeds (Permit.lax ⟨fun _ => True, True⟩) n s u →
      Course ⟨fun _ => True, True⟩ 1 s u ∨ u.standing.custody = s.standing.custody :=
    fun le h => Or.inl (h.course.mono le)
  cases call with
  | dispatch | drain | waitFor => exact absurd trivial single
  | awaitWithdrawal h withdrawn =>
      obtain ⟨⟨u, reached⟩, hu, rfl⟩ := Option.map_eq_some_iff.mp taken
      obtain ⟨doings, -⟩ := s.withdrawalRounds_doings (L := Permit.lax ⟨fun _ => True, True⟩)
        h withdrawn _ _ hu
      exact Or.inl (doings.course.mono (Nat.zero_le 1))
  | message h message =>
      cases taken
      by_cases report : ∃ source target, message = .clipOwnerChanged source target
      · obtain ⟨source, target, rfl⟩ := report
        right
        have special : Special s (.message h (.clipOwnerChanged source target))
            (s.driverMessage h (.clipOwnerChanged source target)).1 := s.special_of_call rfl id
        generalize (s.driverMessage h (.clipOwnerChanged source target)).1 = u at special ⊢
        cases special with
        | ignored | heard => rfl
        | ruled _ _ _ registry evicted =>
            exact (congrArg Standing.custody (standing_tell _ evicted .clipReset)).trans rfl
      · obtain ⟨course, -⟩ := s.driverMessage_course (R := ⟨fun _ => True, True⟩) h message
          (fun source target eq => absurd ⟨source, target, eq⟩ report) (fun _ => trivial) trivial
          (fun _ _ => trivial)
        exact Or.inl course
  | clipCursor rect =>
      cases taken
      exact deeds (Nat.le_refl 1) (s.clipCursor_deeds rect trivial fun _ _ _ => trivial)
  | clipFullscreen h reset =>
      cases taken
      exact deeds (Nat.le_refl 1) (s.clipFullscreen_deeds h reset (fun _ => trivial) trivial)
  | resetClipping => cases taken; exact deeds (Nat.zero_le 1) s.resetClipping_deeds
  | setCursor cursor => cases taken; exact Or.inl (.quiet (s.quiet_setCursor cursor))
  | destroyCursor cursor => cases taken; exact Or.inl (.quiet (s.quiet_destroyCursor cursor))
  | setCursorPos p => cases taken; exact Or.inl (.quiet (s.routine_setCursorPos p).toQuiet)
  | setRawOnly rawOnly => cases taken; exact Or.inl (.quiet { Quiet.refl s with })
  | requestNetState h desired =>
      cases taken
      exact Or.inl (.quiet (s.routine_requestNetState h desired).toQuiet)
  | noteConfigureRequest h =>
      cases taken
      exact Or.inl (.quiet (s.routine_noteConfigureRequest h).toQuiet)
  | forgetWindow h => cases taken; exact Or.inl (.quiet (s.routine_forgetWindow h).toQuiet)

variable {s} {t : Scene} {known captures others : Set Handle}

/-- A call that never ends counts for nothing. -/
theorem issuedBy_eq_nil {call : Call} (never : s.call? call = none) : s.issuedBy call = [] := by
  cases call with
  | dispatch | drain | waitFor => cases never
  | _ => simp [issuedBy, never]

/-- The books balance again after a call when all handles that it gave out are entered. -/
theorem call_balanced {call : Call} (taken : s.call? call = some t)
    (hs : Balanced known captures others s.standing.custody)
    (room : ∀ h ∈ s.issuedBy call, h.id.toNat < handleLimit) :
    Balanced (known ∪ {h | h ∈ s.issuedBy call}) (captures ∪ {h | h ∈ s.issuedBy call}) others
      t.standing.custody ∧ (∀ h ∈ s.issuedBy call, h ∉ known) ∧ (s.issuedBy call).Nodup := by
  by_cases only : call.OnlyHandles
  · let entered (done : List (Scene × EventRecord)) : List Handle :=
      done.flatMap fun handled => handled.1.issued (handled.1.dispatch handled.2).1
    have all : s.issuedBy call = entered (s.callTrail call) := by
      cases call <;> first | rfl | exact only.elim
    rw [all] at room ⊢
    refine s.call_induct (P := fun done u => (∀ h ∈ entered done, h.id.toNat < handleLimit) →
      Balanced (known ∪ {h | h ∈ entered done}) (captures ∪ {h | h ∈ entered done}) others
        u.standing.custody ∧ (∀ h ∈ entered done, h ∉ known) ∧ (entered done).Nodup) ?_ ?_ only taken
      ?_ room
    · intro done u event sofar room
      let more := u.issued (u.dispatch event).1
      have split : entered (done ++ [(u, event)]) = entered done ++ more := by
        simp [entered, more]
      rw [split] at room ⊢
      obtain ⟨balanced, new, distinct⟩ := sofar fun h member =>
        room h (List.mem_append_left _ member)
      obtain ⟨doings, -⟩ := u.dispatch_doings (L := Permit.lax ⟨fun _ => True, True⟩) event trivial
        trivial
      obtain ⟨balanced', new'⟩ := doings.course.balanced balanced fun h member =>
        room h (List.mem_append_right _ member)
      have sets : {h | h ∈ entered done ++ more} = {h | h ∈ entered done} ∪ {h | h ∈ more} := by
        ext h
        simp
      refine ⟨?_, ?_, ?_⟩
      · rwa [sets, ← Set.union_assoc, ← Set.union_assoc]
      · refine List.forall_mem_append.mpr ⟨new, fun h member old => new' h member (Or.inl old)⟩
      · refine List.nodup_append.mpr ⟨distinct, ?_, ?_⟩
        · simp only [more, issued]
          split <;> simp
        · rintro h member k another rfl
          exact new' h another (Or.inr member)
    · intro done u env same sofar room
      rw [same.standing]
      exact sofar room
    · simpa [entered] using hs
  · have all : s.issuedBy call = s.issued t := by
      cases call <;> first | exact absurd trivial only | simp only [issuedBy, taken, Option.map_some,
        Option.getD_some]
    have distinct : (s.issued t).Nodup := by
      simp only [issued]
      split <;> simp
    rw [all] at room ⊢
    rcases s.call_single taken only with course | same
    · obtain ⟨balanced, new⟩ := course.balanced hs room
      exact ⟨balanced, new, distinct⟩
    · have none : s.issued t = [] := by
        simp [issued, show t.env.nextHandle = s.env.nextHandle from congrArg Custody.next same]
      rw [none, same]
      simpa using hs

end Scene

namespace Session

variable (s : Session)

/-- The handles that a call of a seat gives to capture windows. -/
def issuedBy (thread : ThreadId) (seat : Nat) (call : Scene.Call) : List Handle :=
  ((s.scene? seat).map fun scene => (scene.onThread thread).issuedBy call).getD []

def capture? (seat : Nat) : Option Handle := (s.clip? seat).map ClipRegion.captureWindow

def others (seat : Nat) : Set Handle := {h | ∃ other, other ≠ seat ∧ s.capture? other = some h}

/-- The books on capture windows balance: of the handles that were ever used, and those of capture windows
among them, the ones that are there belong to the clips, each to one. -/
structure Accounts (known captures : Set Handle) : Prop where
  below : ∀ h ∈ known, h.id.toNat < s.env.nextHandle.toNat
  table : ∀ h, s.env.windows.contains h = true → h ∈ known
  recorded : captures ⊆ known
  standing : ∀ h ∈ captures, s.env.windows.contains h = true ↔ ∃ seat, s.capture? seat = some h
  held : ∀ seat h, s.capture? seat = some h → h ∈ captures
  apart : ∀ i j h, s.capture? i = some h → s.capture? j = some h → i = j

variable {s} {seat : Nat} {scene : Scene} {known captures : Set Handle}

theorem custody_onThread (hscene : s.scene? seat = some scene) (thread : ThreadId) :
    ∃ member, s.members[seat]? = some member ∧ (scene.onThread thread).standing.custody =
      ⟨s.capture? seat, s.env.windows.contains, s.env.nextHandle⟩ := by
  obtain ⟨member, present, standing⟩ := standing_onThread hscene thread
  refine ⟨member, present, ?_⟩
  rw [standing]
  simp only [Standing.custody, capture?, clip?, present, Option.bind_some, Custody.mk.injEq, true_and,
    and_true]
  funext h
  simp [Environment.threadOf?, Environment.info?, OrderedMap.contains]

namespace Accounts

/-- The books from the view of one seat. -/
theorem balanced (h : s.Accounts known captures) (hscene : s.scene? seat = some scene)
    (thread : ThreadId) :
    Balanced known captures (s.others seat) (scene.onThread thread).standing.custody := by
  obtain ⟨member, -, custody⟩ := custody_onThread hscene thread
  rw [custody]
  refine ⟨h.below, h.table, h.recorded, ?_, ?_, ?_⟩
  · intro k member
    rw [h.standing k member]
    constructor
    · rintro ⟨holder, held⟩
      by_cases same : holder = seat
      · exact Or.inl (same ▸ held)
      · exact Or.inr ⟨holder, same, held⟩
    · rintro (held | ⟨holder, -, held⟩)
      · exact ⟨seat, held⟩
      · exact ⟨holder, held⟩
  · intro k held
    refine ⟨h.held seat k held, ?_⟩
    rintro ⟨holder, other, held'⟩
    exact other (h.apart holder seat k held' held)
  · rintro k ⟨holder, -, held⟩
    exact h.held holder k held

/-- The books balance for all seats when they do for the one that acted. -/
theorem put (h : s.Accounts known captures) {member : Member} (present : s.members[seat]? = some member)
    {u : Scene} {known' captures' : Set Handle}
    (hu : Balanced known' captures' (s.others seat) u.standing.custody) :
    (s.put seat u).Accounts known' captures' := by
  have capture : ∀ i, (s.put seat u).capture? i =
      if i = seat then u.standing.custody.capture else s.capture? i := by
    intro i
    unfold capture?
    rw [clip?_put present]
    split <;> rfl
  have env : (s.put seat u).env = u.env := by rw [put_eq present]
  have there : ∀ k, u.env.windows.contains k = u.standing.custody.present k := by
    intro k
    simp [Standing.custody, Scene.standing, Environment.threadOf?, Environment.info?,
      OrderedMap.contains]
  constructor
  · rw [env]
    exact hu.below
  · simp only [env, there]
    exact hu.table
  · exact hu.recorded
  · simp only [env, there]
    intro k member
    rw [hu.standing k member]
    constructor
    · rintro (held | ⟨holder, other, held⟩)
      · exact ⟨seat, by simpa [capture] using held⟩
      · exact ⟨holder, by simpa [capture, other] using held⟩
    · rintro ⟨holder, held⟩
      rw [capture] at held
      split at held
      · exact Or.inl held
      · next other => exact Or.inr ⟨holder, other, held⟩
  · intro holder k held
    rw [capture] at held
    split at held
    · exact (hu.own k held).1
    · next other => exact hu.theirs ⟨holder, other, held⟩
  · intro i j k hi hj
    rw [capture] at hi hj
    split at hi <;> split at hj
    · next mine yours => rw [mine, yours]
    · next other => exact absurd ⟨j, other, hj⟩ (hu.own k hi).2
    · next other _ => exact absurd ⟨i, other, hi⟩ (hu.own k hj).2
    · exact h.apart i j k hi hj

/-- A call enters the handles that it gave to capture windows. -/
theorem call (h : s.Accounts known captures) {thread : ThreadId} {call : Scene.Call} {t : Session}
    (taken : (s.actOn? thread seat fun scene => scene.call? call) = some t)
    (room : ∀ k ∈ s.issuedBy thread seat call, k.id.toNat < handleLimit) :
    t.Accounts (known ∪ {k | k ∈ s.issuedBy thread seat call})
      (captures ∪ {k | k ∈ s.issuedBy thread seat call}) := by
  obtain ⟨u, hu, rfl⟩ := Option.map_eq_some_iff.mp taken
  obtain ⟨scene, hscene, hu⟩ := Option.bind_eq_some_iff.mp hu
  obtain ⟨member, present, -⟩ := custody_onThread hscene thread
  have issued : s.issuedBy thread seat call = (scene.onThread thread).issuedBy call := by
    simp [issuedBy, hscene]
  rw [issued] at room ⊢
  exact h.put present (Scene.call_balanced hu (h.balanced hscene thread) room).1

/-- What a call gives out was never used before, and nothing is given out twice. -/
theorem issued_fresh (h : s.Accounts known captures) (thread : ThreadId) (seat : Nat)
    (call : Scene.Call) (room : ∀ k ∈ s.issuedBy thread seat call, k.id.toNat < handleLimit) :
    (∀ k ∈ s.issuedBy thread seat call, k ∉ known) ∧ (s.issuedBy thread seat call).Nodup := by
  unfold issuedBy at room ⊢
  cases hscene : s.scene? seat with
  | none => simp
  | some scene =>
      simp only [hscene, Option.map_some, Option.getD_some] at room ⊢
      cases taken : (scene.onThread thread).call? call with
      | none =>
          have nothing := Scene.issuedBy_eq_nil taken
          simp [nothing]
      | some u => exact (Scene.call_balanced taken (h.balanced hscene thread) room).2

end Accounts

end Session

/-- A session with a record of the handles that its window table ever contained, and of those that were
given to capture windows. -/
structure Survey where
  session : Session
  known : Set Handle
  captures : Set Handle

namespace Survey

/-- A call of a seat, or what happens to the window table otherwise: a window is created or added as
described, or something other than which windows there are changes. -/
inductive Turn
  | call (seat : Nat) (call : Scene.Call)
  | create (style : WindowStyle) (rect : Rect)
  | add (info : WindowInfo)
  | change (env : Environment)

def ofSession (s : Session) : Survey := ⟨s, {h | s.env.windows.contains h = true}, ∅⟩

variable (v : Survey) (thread : Nat → ThreadId)

/-- The record after a turn, each seat on its thread. There is none if the seat is not there or its call
never ends. -/
def take? : Turn → Option Survey
  | .call seat call =>
    let issued := {h | h ∈ v.session.issuedBy (thread seat) seat call}
    (v.session.actOn? (thread seat) seat fun scene => scene.call? call).map fun session =>
      ⟨session, v.known ∪ issued, v.captures ∪ issued⟩
  | .create style rect =>
    let (env, handle, _) := v.session.env.createWindow style rect
    some ⟨{ v.session with env }, insert handle v.known, v.captures⟩
  | .add info =>
    some ⟨{ v.session with env := v.session.env.addWindow info }, insert info.handle v.known, v.captures⟩
  | .change env => some ⟨{ v.session with env }, v.known, v.captures⟩

/-- Turns that may be taken: all handles stay below the limit, no window is added with the handle of a
capture window, and no change makes a window or takes one away or touches the counter. -/
def Permitted : Turn → Prop
  | .call seat call =>
    ∀ h ∈ v.session.issuedBy (thread seat) seat call, h.id.toNat < handleLimit
  | .create _ _ => v.session.env.nextHandle.toNat < handleLimit
  | .add info => info.handle ∉ v.captures ∧ info.handle.id.toNat < handleLimit
  | .change env => env.windows.contains = v.session.env.windows.contains ∧
      env.nextHandle = v.session.env.nextHandle

inductive Run (thread : Nat → ThreadId) (start : Survey) : Survey → Prop
  | start : Run thread start start
  | turn {v w : Survey} {turn : Turn} (run : Run thread start v) (ok : v.Permitted thread turn)
      (taken : v.take? thread turn = some w) : Run thread start w

variable {v} {thread} {w : Survey}

/-- Entering a window that is no capture window. -/
theorem accounts_enter {s : Session} {known captures : Set Handle} (h : s.Accounts known captures)
    {env : Environment} {k : Handle} (foreign : k ∉ captures)
    (there : ∀ j, env.windows.contains j = (decide (j = k) || s.env.windows.contains j))
    (grown : s.env.nextHandle.toNat ≤ env.nextHandle.toNat) (past : k.id.toNat < env.nextHandle.toNat) :
    ({ s with env } : Session).Accounts (insert k known) captures := by
  refine ⟨?_, ?_, h.recorded.trans (Set.subset_insert _ _), ?_, h.held, h.apart⟩
  · rintro j (rfl | member)
    · exact past
    · exact Nat.lt_of_lt_of_le (h.below j member) grown
  · intro j present
    rw [there] at present
    by_cases same : j = k
    · exact Or.inl same
    · exact Or.inr (h.table j (by simpa [same] using present))
  · intro j member
    have other : j ≠ k := fun same => foreign (same ▸ member)
    rw [there, decide_eq_false other, Bool.false_or]
    exact h.standing j member

/-- The books balance after every run. -/
theorem Run.accounts (run : Run thread v w) (hv : v.session.Accounts v.known v.captures) :
    w.session.Accounts w.known w.captures := by
  induction run with
  | start => exact hv
  | @turn u w turn _ ok taken ih =>
      cases turn with
      | call seat call =>
          obtain ⟨session, acted, rfl⟩ := Option.map_eq_some_iff.mp taken
          exact ih.call acted ok
      | create style rect =>
          cases taken
          have grown : (u.session.env.nextHandle + 2).toNat = u.session.env.nextHandle.toNat + 2 :=
            toNat_add_of_lt_handleLimit ok (by decide)
          refine accounts_enter ih (k := ⟨u.session.env.nextHandle⟩) ?_ ?_ ?_ ?_
          · exact fun member => Nat.lt_irrefl _ (ih.below _ (ih.recorded member))
          · intro j
            simp only [OrderedMap.contains, OrderedMap.get?_insert]
            split <;> simp [*]
          · exact (Nat.le_add_right _ 2).trans_eq grown.symm
          · exact (Nat.lt_add_of_pos_right (by decide)).trans_eq grown.symm
      | add info =>
          cases taken
          obtain ⟨foreign, room⟩ := ok
          have next : (info.handle.id + 1).toNat = info.handle.id.toNat + 1 :=
            toNat_add_of_lt_handleLimit room (by decide)
          have larger : ∀ a b : UInt64, a.toNat ≤ (max a b).toNat ∧ b.toNat ≤ (max a b).toNat := by
            intro a b
            change _ ≤ (if a ≤ b then b else a).toNat ∧ _ ≤ (if a ≤ b then b else a).toNat
            split <;> simp only [UInt64.le_iff_toNat_le] at * <;> omega
          obtain ⟨grown, past⟩ := larger u.session.env.nextHandle (info.handle.id + 1)
          refine accounts_enter ih foreign ?_ grown ?_
          · intro j
            simp only [Environment.addWindow, OrderedMap.contains, OrderedMap.get?_insert]
            split <;> simp [*]
          · exact Nat.lt_of_lt_of_le (Nat.lt_add_one _) (next.symm.trans_le past)
      | change env =>
          cases taken
          obtain ⟨windows, next⟩ := ok
          obtain ⟨below, table, recorded, standing, held, apart⟩ := ih
          refine ⟨?_, ?_, recorded, ?_, held, apart⟩
          · rwa [next]
          · rwa [windows]
          · rwa [windows]

/-- A session whose seats have not acted yet, with a counter beyond all handles in use. -/
structure Fresh (s : Session) : Prop where
  inputs : ∀ (seat : Nat) (member : Member), s.members[seat]? = some member →
    member.seat.input = (Seat.ofConfig member.seat.config).input
  past : ∀ h, s.env.windows.contains h = true → h.id.toNat < s.env.nextHandle.toNat

theorem Fresh.accounts {s : Session} (fresh : Fresh s) :
    (ofSession s).session.Accounts (ofSession s).known (ofSession s).captures := by
  have free : ∀ seat, s.capture? seat = none := by
    intro seat
    unfold Session.capture? Session.clip?
    cases present : s.members[seat]? with
    | none => rfl
    | some member =>
        simp only [Option.bind_some, fresh.inputs seat member present]
        rfl
  have unclipped : ∀ seat, (ofSession s).session.capture? seat = none := free
  refine ⟨fresh.past, fun _ there => there, Set.empty_subset _, ?_, ?_, ?_⟩
  · exact fun _ member => absurd member (Set.notMem_empty _)
  · simp [unclipped]
  · simp [unclipped]

/-- Capture windows are accounted for. However any number of seats act, each on its thread, while windows
are created and added in between, after every turn the capture windows that are still there are just
those of the clips in force, and no two seats have the same one. A call gives new capture windows handles
that the table never contained, and no two of them the same. -/
theorem capture_windows_accounted {start : Session} (run : Run thread (ofSession start) v)
    (fresh : Fresh start) :
    (∀ h ∈ v.captures, v.session.env.windows.contains h = true ↔
      ∃ seat region, v.session.clip? seat = some region ∧ region.captureWindow = h) ∧
    (∀ seat region, v.session.clip? seat = some region → region.captureWindow ∈ v.captures) ∧
    (∀ i j a b, v.session.clip? i = some a → v.session.clip? j = some b →
      a.captureWindow = b.captureWindow → i = j) ∧
    (∀ h, v.session.env.windows.contains h = true → h ∈ v.known) ∧
    ∀ seat call, v.Permitted thread (.call seat call) →
      (∀ h ∈ v.session.issuedBy (thread seat) seat call, h ∉ v.known) ∧
        (v.session.issuedBy (thread seat) seat call).Nodup := by
  have accounts := run.accounts fresh.accounts
  have captured : ∀ seat h, v.session.capture? seat = some h ↔
      ∃ region, v.session.clip? seat = some region ∧ region.captureWindow = h :=
    fun seat h => Option.map_eq_some_iff
  refine ⟨?_, ?_, ?_, accounts.table, fun seat call room => accounts.issued_fresh _ seat call room⟩
  · intro h member
    simp only [accounts.standing h member, captured]
  · exact fun seat region held => accounts.held seat _ ((captured ..).mpr ⟨region, held, rfl⟩)
  · intro i j a b hi hj same
    exact accounts.apart i j _ ((captured ..).mpr ⟨a, hi, same⟩) ((captured ..).mpr ⟨b, hj, rfl⟩)

theorem fresh_trio (screen : Rect) : Fresh (Session.trio screen) := by
  refine ⟨(Session.fresh_trio screen).inputs, fun h there => ?_⟩
  have single : ∃ hosted, (Session.trio screen).env.windows.entries = [(Environment.desktop, hosted)] :=
    ⟨_, rfl⟩
  obtain ⟨hosted, single⟩ := single
  have desktop : h = Environment.desktop := by
    by_contra other
    simp [OrderedMap.contains, OrderedMap.get?, single, other] at there
  rw [desktop]
  exact (Session.fresh_trio screen).past

theorem Permitted.call (seat : Nat) (call : Scene.Call)
    (room : ∀ h ∈ v.session.issuedBy (thread seat) seat call, h.id.toNat < handleLimit) :
    v.Permitted thread (.call seat call) := room

theorem Permitted.create (style : WindowStyle) (rect : Rect)
    (room : v.session.env.nextHandle.toNat < handleLimit) :
    v.Permitted thread (.create style rect) := room

/-- A seat gives up its clip and another takes one: the first capture window is gone, the second, which
got its handle after a window of the guest, is there. -/
theorem capture_windows_accounted_of_two :
    ∃ v, Run Staff.three.thread (ofSession (Session.trio ⟨0, 0, 1920, 1080⟩)) v ∧
      ⟨0x20000⟩ ∈ v.captures ∧ v.session.env.windows.contains ⟨0x20000⟩ = false ∧
      ⟨0x20004⟩ ∈ v.captures ∧ v.session.env.windows.contains ⟨0x20004⟩ = true := by
  have clipped : Run Staff.three.thread (ofSession (Session.trio ⟨0, 0, 1920, 1080⟩)) _ :=
    .turn .start (.call 1 (.clipCursor (some ⟨0, 0, 800, 600⟩)) (by decide)) rfl
  have created : Run Staff.three.thread _ _ :=
    .turn clipped (.create WindowStyle.visible ⟨0, 0, 640, 480⟩ (by decide)) rfl
  have released : Run Staff.three.thread _ _ :=
    .turn created (.call 1 .resetClipping (by decide)) rfl
  have taken : Run Staff.three.thread _ _ :=
    .turn released (.call 2 (.clipCursor (some ⟨0, 0, 400, 300⟩)) (by decide)) rfl
  obtain ⟨v, run, first, few, idle, free, held⟩ : ∃ v,
      Run Staff.three.thread (ofSession (Session.trio ⟨0, 0, 1920, 1080⟩)) v ∧ ⟨0x20000⟩ ∈ v.captures ∧
        v.session.members.length = 3 ∧ v.session.clip? 0 = none ∧ v.session.clip? 1 = none ∧
        v.session.clip? 2 = some ⟨⟨0, 0, 400, 300⟩, ⟨0x20004⟩, .explicit⟩ :=
    ⟨_, taken, Or.inl (Or.inl (Or.inr (by decide))), by decide, by decide, by decide, by decide⟩
  obtain ⟨standing, recorded, -⟩ := capture_windows_accounted run (fresh_trio _)
  have second := recorded 2 _ held
  refine ⟨v, run, first, ?_, second, (standing _ second).mpr ⟨2, _, held, rfl⟩⟩
  rw [← Bool.not_eq_true, standing _ first]
  rintro ⟨seat, region, clips, same⟩
  match seat with
  | 0 => cases idle.symm.trans clips
  | 1 => cases free.symm.trans clips
  | 2 =>
      cases held.symm.trans clips
      exact absurd same (by decide)
  | seat + 3 =>
      have absent : v.session.members[seat + 3]? = none := List.getElem?_eq_none (by omega)
      simp [Session.clip?, absent] at clips

end Survey

end GuestSeat
