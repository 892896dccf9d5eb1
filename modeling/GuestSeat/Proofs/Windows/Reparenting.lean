import GuestSeat.Proofs.Drain.Trail
import GuestSeat.Proofs.Windows.Pruning

/-!
Windows that move to another parent. Nobody asks whether the new parent is the window itself or one below
it, and this is what it takes for the windows to be no forest any more. Nor does anybody ask whether the
window left its former parent for good: that one is closed also if the window is still inside it.
-/

namespace GuestSeat.Scene

open Environment (root desktop SameBut)

structure Relocates (s : Scene) (event : EventRecord) (h new : Handle) : Prop where
  about : target s.env event = h
  named : h.isNull = false
  embedded : ∃ info, s.env.info? h = some info ∧ info.embedded = true
  told : ∃ e, event.kind = .reparent e ∧ (e.parent == root) = false ∧
    s.env.lookup? e.parent = some new

/-- An event has a window move to itself or to a window below it. -/
def MovesBelowItself (s : Scene) (event : EventRecord) : Prop :=
  ∃ h new, s.Relocates event h new ∧ new.isNull = false ∧ s.env.IsWithin h new

/-- Whether a window can be closed because one inside it moved elsewhere: the desktop never is. -/
def isContainer (env : Environment) (p : Handle) : Bool :=
  !p.isNull && p != desktop && env.windows.contains p

def closing (env : Environment) (p : Handle) : List Delivered :=
  if isContainer env p then [⟨p, .close, false⟩] else []

def relocated (env : Environment) (h new : Handle) : Environment :=
  (env.editInfo h fun info => { info with parent := new }).note fun j =>
    { j with messages := j.messages ++ closing env (env.parent h) }

variable {s : Scene} {event : EventRecord} {h new : Handle}

theorem mem_closing_iff {env : Environment} {p w : Handle} :
    (⟨w, .close, false⟩ : Delivered) ∈ closing env p ↔ w = p ∧ isContainer env w = true := by
  unfold closing
  split
  · next container =>
      constructor
      · intro told
        obtain ⟨rfl⟩ := List.mem_singleton.mp told
        exact ⟨rfl, container⟩
      · rintro ⟨rfl, -⟩
        exact List.mem_singleton_self _
  · next other =>
      refine iff_of_false nofun ?_
      rintro ⟨rfl, container⟩
      exact other container

theorem env_tell_close (p : Handle) : (if p.isNull || p == desktop then s else s.tell p .close).env =
    s.env.note fun j => { j with messages := j.messages ++ closing s.env p } := by
  have nothing : s.env.note (fun j => { j with messages := j.messages ++ [] }) = s.env := by
    simp [Environment.note]
  rw [tell_eq]
  unfold closing isContainer
  cases p.isNull with
  | true => exact nothing.symm
  | false =>
      rw [show (p != desktop) = !(p == desktop) from rfl]
      cases p == desktop with
      | true => exact nothing.symm
      | false =>
          cases s.env.windows.contains p with
          | true => rfl
          | false => exact nothing.symm

theorem env_reparented {e : ReparentEvent} {info : WindowInfo} (named : h.isNull = false)
    (known : s.env.info? h = some info) (embedded : info.embedded = true)
    (below : (e.parent == root) = false) :
    (s.reparented h e).1.env = match s.env.lookup? e.parent with
      | none => s.env
      | some new => relocated s.env h new := by
  have found : ((s.env.info? h).filter fun info => !h.isNull && info.embedded) = some info := by
    simp [known, named, embedded]
  unfold reparented
  simp only [found, below, Bool.false_eq_true, if_false]
  cases lookup : s.env.lookup? e.parent with
  | none => rw [Environment.reparent_eq_self s.env lookup below]
  | some new =>
      rw [Environment.reparent_eq s.env known lookup below]
      dsimp only
      rw [env_tell_close]
      unfold relocated closing isContainer
      rw [Environment.contains_editInfo, Environment.parent_of_info? known]
      -- for a window at the top level both say that nothing is told, to the desktop or to no window
      cases top : info.parent.isNull <;> simp [top]

/-- The handler of the event does nothing to windows but this. -/
theorem env_dispatch_of_embedded {e : ReparentEvent} {info : WindowInfo}
    (kind : event.kind = .reparent e) (about : target s.env event = h) (named : h.isNull = false)
    (known : s.env.info? h = some info) (embedded : info.embedded = true)
    (below : (e.parent == root) = false) :
    (s.dispatch event).1.env = match s.env.lookup? e.parent with
      | none => s.env
      | some new => relocated s.env h new := by
  have handled : ((s.receiving event).handle (target s.env event) event).1 =
      ((s.receiving event).reparented h e).1 := by
    unfold handle
    rw [about, kind]
  rw [s.fst_dispatch handled]
  exact env_reparented (s := s.receiving event) named known embedded below

theorem Relocates.env_dispatch (relocates : s.Relocates event h new) :
    (s.dispatch event).1.env = relocated s.env h new := by
  obtain ⟨about, named, ⟨info, known, embedded⟩, e, kind, below, found⟩ := relocates
  rw [env_dispatch_of_embedded kind about named known embedded below, found]

theorem parent_relocated (env : Environment) (h new k : Handle) : (relocated env h new).parent k =
    if k = h then ((env.info? h).map fun _ => new).getD Handle.null else env.parent k := by
  rw [← Environment.parent_editInfo env h k fun info => { info with parent := new }]
  rfl

theorem Relocates.parent_dispatch (relocates : s.Relocates event h new) :
    (s.dispatch event).1.env.parent h = new := by
  obtain ⟨info, known, -⟩ := relocates.embedded
  rw [relocates.env_dispatch, parent_relocated, if_pos rfl, known]
  rfl

theorem Relocates.sameBut (relocates : s.Relocates event h new) :
    SameBut h s.env (s.dispatch event).1.env := by
  intro k other
  rw [relocates.env_dispatch, parent_relocated, if_neg other]

/-- Without a move the windows keep the parents that they have, or lose them. -/
theorem prunes_of_not_relocates (stays : ∀ h new, ¬ s.Relocates event h new) :
    s.Prunes (s.dispatch event).1 := by
  by_cases tells : TellsOfParent event
  · obtain ⟨e, kind⟩ := tells
    let received := s.receiving event
    have handled : (received.handle (target s.env event) event).1 =
        (received.reparented (target s.env event) e).1 := by
      unfold handle
      rw [kind]
    cases known : (s.env.info? (target s.env event)).filter
        fun info => !(target s.env event).isNull && info.embedded with
    | none =>
        rw [s.fst_dispatch handled, reparented, show received.env = s.env from rfl, known]
        exact .refl s
    | some info =>
        obtain ⟨its, named, embedded⟩ : s.env.info? (target s.env event) = some info ∧
            (target s.env event).isNull = false ∧ info.embedded = true := by
          simpa [Option.filter_eq_some_iff] using known
        cases below : e.parent == root with
        | true =>
            rw [s.fst_dispatch handled, reparented, show received.env = s.env from rfl, known]
            dsimp only
            rw [if_pos below]
            exact received.prunes_tell _ _
        | false =>
            have moved := env_dispatch_of_embedded kind rfl named its embedded below
            cases found : s.env.lookup? e.parent with
            | some new =>
                exact absurd ⟨rfl, named, ⟨info, its, embedded⟩, e, kind, below, found⟩ (stays _ new)
            | none =>
                rw [found] at moved
                exact .of_windows (congrArg Environment.windows moved)
  · exact s.prunes_dispatch tells

/-- One event makes windows their own ancestors only by a move of a window to itself or below itself. -/
theorem acyclic_dispatch_iff (acyclic : s.env.Acyclic) :
    (s.dispatch event).1.env.Acyclic ↔ ¬ s.MovesBelowItself event := by
  by_cases moves : ∃ h new, s.Relocates event h new
  · obtain ⟨h, new, relocates⟩ := moves
    rw [relocates.sameBut.acyclic_iff acyclic, relocates.parent_dispatch, not_iff_not]
    constructor
    · exact fun below => ⟨h, new, relocates, below⟩
    · rintro ⟨k, other, again, below⟩
      obtain rfl : k = h := again.about.symm.trans relocates.about
      obtain rfl : other = new := again.parent_dispatch.symm.trans relocates.parent_dispatch
      exact below
  · have stays : ∀ h new, ¬ s.Relocates event h new := fun h new relocates => moves ⟨h, new, relocates⟩
    refine iff_of_true (acyclic.prune (prunes_of_not_relocates stays)) ?_
    rintro ⟨h, new, relocates, -⟩
    exact stays h new relocates

/-- As long as no window is moved below itself the windows remain a forest, in which searches along
parents end and find what there is. Such a move puts an end to it: then there is a window from which a
search along parents goes on for ever. -/
theorem forest_until_moved_below_itself (acyclic : s.env.Acyclic) {events : List EventRecord}
    (apart : ∀ handled ∈ s.trail events, ¬ handled.1.MovesBelowItself handled.2) :
    let t := (s.dispatchAll events).1
    (t.env.Acyclic ∧ t.env.WalksEnd ∧ (∀ h, t.env.RootedAt h (t.env.ancestorRoot h)) ∧
        ∀ a h, t.env.isChild a h = true ↔ t.env.IsAncestor a h) ∧
      ∀ event, ((t.dispatch event).1.env.Acyclic ↔ ¬ t.MovesBelowItself event) ∧
        (t.MovesBelowItself event →
          ∃ h, ∀ n, ((t.dispatch event).1.env.parent^[n + 1] h).isNull = false) := by
  intro t
  have forest : t.env.Acyclic := by
    -- by induction on the events, with the assumption on those that were handled so far
    let P (done : List (Scene × EventRecord)) (u : Scene) : Prop :=
      (∀ handled ∈ done, ¬ handled.1.MovesBelowItself handled.2) → u.env.Acyclic
    have step : ∀ done u event, P done u → P (done ++ [(u, event)]) (u.dispatch event).1 := by
      intro done u event before apart
      simp only [List.forall_mem_append, List.forall_mem_singleton] at apart
      exact (acyclic_dispatch_iff (before apart.1)).mpr apart.2
    exact dispatchAll_induct s step events (show P [] s from fun _ => acyclic) apart
  refine ⟨⟨forest, forest.walksEnd, forest.rootedAt, forest.isChild_iff⟩, fun event => ?_⟩
  have decides : (t.dispatch event).1.env.Acyclic ↔ ¬ t.MovesBelowItself event :=
    acyclic_dispatch_iff forest
  refine ⟨decides, fun moves => ?_⟩
  obtain ⟨h, circle⟩ : ∃ h, (t.dispatch event).1.env.IsAncestor h h := by
    by_contra none
    exact decides.mp (not_exists.mp none) moves
  exact ⟨h, Environment.named_iterate_of_circle circle⟩

/-- A window with another one inside it, each embedded or not. -/
def nest (outer inner : Bool) : Scene :=
  let s := alone ⟨0, 0, 1920, 1080⟩
  let (env, h, _) := s.env.createWindow WindowStyle.visible ⟨100, 100, 500, 400⟩
  let env := env.editInfo h fun info => { info with embedded := outer }
  let child := WindowInfo.plain ⟨0x20002⟩ (WindowStyle.child ||| WindowStyle.visible) ⟨110, 120, 160, 150⟩
  let child := { child with
    host := some ⟨0x5000000⟩, embedded := inner, managed := true, mapped := true, parent := h }
  { s with env := env.addWindow child }

/-- The host tells of a host window that it is inside another one. -/
def movedInto (parent w : HostWindow) : EventRecord :=
  { serial := ⟨0⟩, window := w, kind := .reparent { parent, position := ⟨0, 0⟩ } }

/-- The inner window is moved out to the root, of which the table keeps no note, and the outer window is
moved into it. -/
theorem nest_moved_below_itself :
    let t := ((nest true true).dispatchAll [movedInto root ⟨0x5000000⟩]).1
    t.env.ancestorRoot ⟨0x20002⟩ = ⟨0x20000⟩ ∧ t.env.Acyclic ∧
      ∃ h, ∀ n, ((t.dispatch (movedInto ⟨0x5000000⟩ ⟨0x4000001⟩)).1.env.parent^[n + 1] h).isNull =
        false := by
  have acyclic : (nest true true).env.Acyclic := by decide +kernel
  have apart : ∀ handled ∈ (nest true true).trail [movedInto root ⟨0x5000000⟩],
      ¬ handled.1.MovesBelowItself handled.2 := by
    rw [trail, trail, List.forall_mem_singleton]
    exact (acyclic_dispatch_iff acyclic).mp (by decide +kernel)
  obtain ⟨⟨forest, -⟩, next⟩ := forest_until_moved_below_itself acyclic apart
  obtain ⟨decides, endless⟩ := next (movedInto ⟨0x5000000⟩ ⟨0x4000001⟩)
  refine ⟨by decide +kernel, forest, endless ?_⟩
  by_contra aside
  exact absurd (decides.mpr aside) (by decide +kernel)

/-- The ways up from a parent outside the subtree of the window that moves there stay as they are. -/
theorem Relocates.isAncestor_iff (relocates : s.Relocates event h new)
    (outside : ¬ s.env.IsWithin h new) (w : Handle) :
    (s.dispatch event).1.env.IsAncestor w h ↔ new.isNull = false ∧ s.env.IsWithin w new := by
  rw [Environment.isAncestor_iff, relocates.parent_dispatch, Environment.isWithin_iff,
    Environment.isWithin_iff, relocates.sameBut.isAncestor_iff outside]

/-- Of the windows, just the container that an embedded window is moved out of is told to close. It has
that window inside it all the same if the new parent is the container itself or lies in it. -/
theorem closed_container_keeps_iff {e : ReparentEvent} {info : WindowInfo}
    (kind : event.kind = .reparent e) (about : target s.env event = h) (named : h.isNull = false)
    (known : s.env.info? h = some info) (embedded : info.embedded = true)
    (below : (e.parent == root) = false)
    (outside : ∀ new, s.env.lookup? e.parent = some new → ¬ s.env.IsWithin h new) :
    let t := (s.dispatch event).1
    ∃ posted, t.env.journal.messages = s.env.journal.messages ++ posted ∧ ∀ w,
      (⟨w, .close, false⟩ ∈ posted ↔
        w = s.env.parent h ∧ isContainer s.env w = true ∧ s.env.lookup? e.parent ≠ none) ∧
      (⟨w, .close, false⟩ ∈ posted → (t.env.IsAncestor w h ↔
        ∃ new, s.env.lookup? e.parent = some new ∧ new.isNull = false ∧ s.env.IsWithin w new)) := by
  intro t
  have handled := env_dispatch_of_embedded kind about named known embedded below
  cases found : s.env.lookup? e.parent with
  | none =>
      rw [found] at handled
      exact ⟨[], by rw [handled, List.append_nil], fun w => by simp⟩
  | some new =>
      rw [found] at handled
      have relocates : s.Relocates event h new :=
        ⟨about, named, ⟨info, known, embedded⟩, e, kind, below, found⟩
      refine ⟨closing s.env (s.env.parent h), by rw [handled]; rfl, fun w => ⟨?_, fun _ => ?_⟩⟩
      · simp [mem_closing_iff]
      · rw [relocates.isAncestor_iff (outside new found)]
        simp

/-- Told that it is where it is, the inner window has the outer one closed. -/
theorem nest_closed_around_inner :
    let t := ((nest false true).dispatch (movedInto ⟨0x4000001⟩ ⟨0x5000000⟩)).1
    ⟨⟨0x20000⟩, .close, false⟩ ∈ t.env.journal.messages ∧ t.env.IsAncestor ⟨0x20000⟩ ⟨0x20002⟩ := by
  have acyclic : (nest false true).env.Acyclic := by decide +kernel
  have found : (nest false true).env.lookup? ⟨0x4000001⟩ = some ⟨0x20000⟩ := by decide +kernel
  have outside : ∀ new, (nest false true).env.lookup? ⟨0x4000001⟩ = some new →
      ¬ (nest false true).env.IsWithin ⟨0x20002⟩ new := by
    rw [found]
    rintro new ⟨rfl⟩ within
    rcases Environment.isWithin_iff.mp within with same | ancestor
    · exact absurd same (by decide)
    · exact absurd ((acyclic.isChild_iff _ _).mpr ancestor) (by decide +kernel)
  have about : target (nest false true).env (movedInto ⟨0x4000001⟩ ⟨0x5000000⟩) = ⟨0x20002⟩ := by
    decide +kernel
  obtain ⟨posted, messages, told⟩ := closed_container_keeps_iff rfl about rfl rfl rfl rfl outside
  obtain ⟨tells, keeps⟩ := told ⟨0x20000⟩
  have closed := tells.mpr ⟨by decide +kernel, by decide +kernel, by rw [found]; nofun⟩
  exact ⟨messages ▸ List.mem_append_right _ closed, (keeps closed).mpr ⟨_, found, rfl, .refl⟩⟩

end GuestSeat.Scene
