import GuestSeat.Proofs.Clip.Process

/-!
The turns of a process in the ledger. A seat that acts makes entries of its own, the delivery of a notice
is that of the protocol, and nothing else shows.
-/

namespace GuestSeat.Session

open Environment (desktop)

variable {staff : Staff} {s t : Session} {seat : Nat} {member : Member} {R : Permit} {m n : Nat}
  {u v : Scene}

theorem ledger_put (present : s.members[seat]? = some member) (other : seat ≠ staff.desk)
    (u : Scene) : (s.put seat u).ledger staff = u.standing.entry (s.ledger staff) seat := by
  have env : (s.put seat u).env = u.env := by rw [put_eq present]
  simp only [ledger, Standing.entry, Ledger.mk.injEq, env, owner_put present, if_neg other.symm,
    true_and]
  refine ⟨?_, rfl, rfl⟩
  funext i
  rw [clip?_put present, Function.update_apply]
  split <;> rfl

theorem bound_of_clip? {region : ClipRegion} (held : s.clip? seat = some region) :
    seat < s.members.length := by
  obtain ⟨member, present, -⟩ := Option.bind_eq_some_iff.mp held
  exact (List.getElem?_eq_some_iff.mp present).1

/-- A scene in which a seat, not the desktop's, can be while it acts, with room for some handles. -/
structure Placed (s : Session) (staff : Staff) (seat n : Nat) (u : Scene) : Prop where
  plain : u.standing.registry = none
  thread : u.env.thread = staff.thread seat
  room : u.standing.nextHandle.toNat + 2 * n < UInt64.size
  desktop : u.standing.threads desktop = some (staff.thread staff.desk)
  past : Environment.desktop.id.toNat < u.standing.nextHandle.toNat
  own : ∀ region, u.standing.clip = some region →
    u.standing.threads region.captureWindow = some (staff.thread seat)
  others : ∀ i region, i ≠ seat → s.clip? i = some region →
    u.standing.threads region.captureWindow = some (staff.thread i) ∧
      region.captureWindow.id.toNat < u.standing.nextHandle.toNat
  addressed : ∀ d ∈ u.standing.messages, ∀ source target,
    d.message = .clipOwnerChanged source target → d.window = Environment.desktop

/-- The desktop has no thread in common with another seat. -/
theorem Housed.thread_ne_desk (hs : s.Housed staff) (present : s.members[seat]? = some member)
    (other : seat ≠ staff.desk) : staff.thread seat ≠ staff.thread staff.desk := by
  obtain ⟨desk, -, hdesk, -⟩ := hs.desk
  have bound := (List.getElem?_eq_some_iff.mp present).1
  have deskBound := (List.getElem?_eq_some_iff.mp hdesk).1
  exact fun same => other (hs.apart _ _ bound deskBound same)

theorem Placed.apart (hu : Placed s staff seat n u)
    (threads : staff.thread seat ≠ staff.thread staff.desk)
    {region : ClipRegion} (held : u.standing.clip = some region) :
    region.captureWindow ≠ Environment.desktop := by
  intro same
  have own := hu.own region held
  rw [same, hu.desktop] at own
  exact threads (Option.some.inj own).symm

/-- A seat other than the desktop's stays in its place through whatever its clip goes through. -/
theorem Placed.next (hu : Placed s staff seat (m + n) u) (h : Scene.Outcome R m u v)
    (hs : s.Housed staff) (present : s.members[seat]? = some member) (other : seat ≠ staff.desk) :
    Placed s staff seat n v := by
  obtain ⟨grown, room⟩ := h.nextHandle hu.room
  have threads := hs.thread_ne_desk present other
  have hthread : v.env.thread = u.env.thread := congrArg (fun g : Ground => g.thread) h.ground
  refine ⟨h.registry hu.plain, hthread.trans hu.thread, room, ?_, Nat.lt_of_lt_of_le hu.past grown,
    ?_, ?_, ?_⟩
  · exact (h.threads hu.past fun region held => hu.apart threads held).trans hu.desktop
  · intro region held
    rw [← hu.thread]
    refine h.housed (fun old before => ?_) held
    rw [hu.thread]
    exact hu.own old before
  · intro i region distinct held
    -- the capture windows of other seats are neither new nor that of the clip that ends
    obtain ⟨thread, known⟩ := hu.others i region distinct held
    refine ⟨(h.threads known fun old before same => ?_).trans thread, Nat.lt_of_lt_of_le known grown⟩
    have own := hu.own old before
    rw [same, thread] at own
    exact distinct (hs.apart i seat (bound_of_clip? held) (List.getElem?_eq_some_iff.mp present).1
      (Option.some.inj own))
  · intro d member source target message
    rcases h.addressed member with before | silent | window
    · exact hu.addressed d before source target message
    · simp [message, GuestMessage.isOwnership] at silent
    · exact window

theorem Placed.mono (hu : Placed s staff seat (m + n) u) : Placed s staff seat n u :=
  ⟨hu.plain, hu.thread, by have := hu.room; omega, hu.desktop, hu.past, hu.own, hu.others,
    hu.addressed⟩

theorem Placed.rests (hu : Placed s staff seat n u) (standing : v.standing = u.standing)
    (setting : v.ground.toSetting = u.ground.toSetting) : Placed s staff seat n v := by
  refine ⟨?_, (congrArg Setting.thread setting).trans hu.thread, ?_, ?_, ?_, ?_, ?_, ?_⟩
  all_goals rw [standing]
  · exact hu.plain
  · exact hu.room
  · exact hu.desktop
  · exact hu.past
  · exact hu.own
  · exact hu.others
  · exact hu.addressed

/-- The scene in which a seat begins to act, on a thread of its own. -/
theorem standing_onThread {scene : Scene} (hscene : s.scene? seat = some scene)
    (thread : ThreadId) : ∃ member, s.members[seat]? = some member ∧
      (scene.onThread thread).standing =
        { clip := member.seat.input.clip
          surface := member.seat.input.captureSurface
          rawStatus := member.seat.input.raw.status
          registry := member.seat.registry
          nextHandle := s.env.nextHandle
          threads := s.env.threadOf?
          requests := s.env.journal.requests
          messages := s.env.journal.messages } := by
  obtain ⟨member, present, rfl⟩ := Option.map_eq_some_iff.mp hscene
  refine ⟨member, present, ?_⟩
  cases hm : member.sharesTracker <;> simp [Scene.standing, Scene.onThread, Scene.act] <;> rfl

theorem Placed.start (hs : s.Housed staff) (other : seat ≠ staff.desk)
    (room : s.env.nextHandle.toNat + 2 * n < UInt64.size)
    (known : ∀ i c, (s.ledger staff).captures i = some c → c.id.toNat < s.env.nextHandle.toNat)
    {scene : Scene} (hscene : s.scene? seat = some scene) :
    Placed s staff seat n (scene.onThread (staff.thread seat)) := by
  obtain ⟨member, present, standing⟩ := standing_onThread hscene (staff.thread seat)
  refine ⟨?_, rfl, ?_, ?_, ?_, ?_, ?_, ?_⟩
  all_goals rw [standing]
  · exact hs.plain seat member other present
  · exact room
  · exact hs.desktop
  · exact hs.past
  · exact fun region held => hs.housed seat region (by simpa [clip?, present] using held)
  · exact fun i region _ held =>
      ⟨hs.housed i region held, known i _ (by simp [ledger, held])⟩
  · exact hs.addressed

theorem entry_start {scene : Scene} (hscene : s.scene? seat = some scene) :
    (scene.onThread (staff.thread seat)).standing.entry
      (s.ledger staff) seat = s.ledger staff := by
  obtain ⟨member, present, standing⟩ := standing_onThread hscene (staff.thread seat)
  rw [standing]
  simp only [Standing.entry, ledger, Ledger.mk.injEq, and_true]
  funext i
  rw [Function.update_apply]
  split
  · next same => simp [same, clip?, present]
  · rfl

/-- A scene put back leaves every seat at its place. -/
theorem Placed.housed (hu : Placed s staff seat n u) (hs : s.Housed staff)
    (present : s.members[seat]? = some member) (other : seat ≠ staff.desk) :
    (s.put seat u).Housed staff := by
  have env : (s.put seat u).env = u.env := by rw [put_eq present]
  have length : (s.put seat u).members.length = s.members.length := by simp [put_eq present]
  refine ⟨?_, ?_, ?_, ?_, ?_, ?_, ?_⟩
  · simpa only [members_put present, if_neg other.symm] using hs.desk
  · intro i other' hi hmember
    rw [members_put present] at hmember
    split at hmember
    · cases hmember
      exact hu.plain
    · exact hs.plain i other' hi hmember
  · rw [length]
    exact hs.apart
  · rw [env]
    exact hu.desktop
  · rw [env]
    exact hu.past
  · intro i region held
    rw [clip?_put present] at held
    rw [env]
    split at held
    · next same =>
        rw [same]
        exact hu.own region held
    · next other' => exact (hu.others i region other' held).1
  · rw [env]
    exact hu.addressed

/-- What the desktop's seat does is in the ledger as its new owner and notices. -/
theorem Housed.put_desk (hs : s.Housed staff) {registry : ClipRegistry}
    (hregistry : u.standing.registry = some registry) (free : u.standing.clip = none)
    (threads : u.standing.threads = s.env.threadOf?)
    (nextHandle : u.standing.nextHandle = s.env.nextHandle)
    (addressed : ∀ d ∈ u.standing.messages, ∀ source target,
      d.message = .clipOwnerChanged source target → d.window = Environment.desktop) :
    (s.put staff.desk u).Housed staff ∧ (s.put staff.desk u).ledger staff =
      { s.ledger staff with
        owner := registry.owner
        notices := u.standing.messages.filterMap Delivered.notice? } := by
  obtain ⟨member, old, present, -, unclipped⟩ := hs.desk
  have env : (s.put staff.desk u).env = u.env := by rw [put_eq present]
  have length : (s.put staff.desk u).members.length = s.members.length := by simp [put_eq present]
  have clips : (s.put staff.desk u).clip? = s.clip? := by
    funext i
    rw [clip?_put present]
    split
    · next same =>
        rw [same]
        exact (show u.seat.input.clip = none from free).trans (by simp [clip?, present, unclipped])
    · rfl
  have hthreads : u.env.threadOf? = s.env.threadOf? := threads
  have hnext : u.env.nextHandle = s.env.nextHandle := nextHandle
  refine ⟨⟨⟨{ member with seat := u.seat }, registry, ?_, hregistry, free⟩, ?_, ?_, ?_, ?_, ?_, ?_⟩, ?_⟩
  · rw [members_put present, if_pos rfl]
  · intro i other hi hother
    rw [members_put present, if_neg hi] at hother
    exact hs.plain i other hi hother
  · rw [length]
    exact hs.apart
  · rw [env, hthreads]
    exact hs.desktop
  · rw [env, hnext]
    exact hs.past
  · intro i region held
    rw [clips] at held
    rw [env, hthreads]
    exact hs.housed i region held
  · rw [env]
    exact addressed
  · have owner : u.seat.registryOwner = registry.owner := by
      simp only [Seat.registryOwner, show u.seat.registry = some registry from hregistry]
    simp only [ledger, clips, env, owner_put present, if_pos, owner, hnext]
    rfl

structure AtDesk (s : Session) (registry : ClipRegistry) (u : Scene) : Prop where
  free : u.standing.clip = none
  registry : u.standing.registry = some registry
  threads : u.standing.threads = s.env.threadOf?
  nextHandle : u.standing.nextHandle = s.env.nextHandle
  messages : Appends (fun d => d.message.isOwnership = false) s.env.journal.messages
    u.standing.messages

theorem AtDesk.next {registry : ClipRegistry} (hu : AtDesk s registry u)
    (h : Scene.Outcome R m u v) : AtDesk s registry v := by
  obtain ⟨free, registry', threads, nextHandle, messages⟩ :=
    h.of_registry (by simp [hu.registry]) hu.free
  exact ⟨free, registry'.trans hu.registry, threads.trans hu.threads,
    nextHandle.trans hu.nextHandle, hu.messages.trans messages⟩

theorem AtDesk.rests {registry : ClipRegistry} (hu : AtDesk s registry u)
    (same : v.standing = u.standing) : AtDesk s registry v := by
  obtain ⟨free, registry', threads, nextHandle, messages⟩ := hu
  rw [← same] at free registry' threads nextHandle messages
  exact ⟨free, registry', threads, nextHandle, messages⟩

theorem Housed.atDesk (hs : s.Housed staff) {scene : Scene}
    (hscene : s.scene? staff.desk = some scene) : ∃ registry, s.owner staff = registry.owner ∧
      AtDesk s registry (scene.onThread (staff.thread staff.desk)) := by
  obtain ⟨member, present, standing⟩ := standing_onThread hscene (staff.thread staff.desk)
  obtain ⟨desk, registry, hdesk, hregistry, free⟩ := hs.desk
  obtain rfl : member = desk := Option.some.inj (present.symm.trans hdesk)
  refine ⟨registry, ?_, ?_⟩
  · simp [Session.owner, present, Seat.registryOwner, hregistry]
  · constructor
    all_goals rw [standing]
    · exact free
    · exact hregistry
    · exact .refl _ _

/-- Messages that do not concern the owner are no reports. -/
theorem addressed_of_appends (hs : s.Housed staff) {messages : List Delivered}
    (h : Appends (fun d => d.message.isOwnership = false) s.env.journal.messages messages) :
    ∀ d ∈ messages, ∀ source target, d.message = .clipOwnerChanged source target →
      d.window = Environment.desktop := by
  obtain ⟨added, rfl, silent⟩ := h
  intro d member source target message
  rcases List.mem_append.mp member with member | member
  · exact hs.addressed d member source target message
  · have unrelated := silent d member
    simp [message, GuestMessage.isOwnership] at unrelated

theorem AtDesk.put {registry : ClipRegistry} (hu : AtDesk s registry u) (hs : s.Housed staff)
    (owner : s.owner staff = registry.owner) : (s.put staff.desk u).Housed staff ∧
      (s.put staff.desk u).ledger staff = s.ledger staff := by
  obtain ⟨housed, entry⟩ := hs.put_desk hu.registry hu.free hu.threads hu.nextHandle
    (addressed_of_appends hs hu.messages)
  refine ⟨housed, ?_⟩
  rw [entry, filterMap_of_appends hu.messages, ← owner]
  rfl

/-- A seat on its course makes entries in the ledger, as long as no clip ends without a report. The
desktop's seat makes none. -/
theorem acts_of_course (hs : s.Housed staff) (orderly : (s.ledger staff).Orderly)
    (room : s.env.nextHandle.toNat + 2 * m < UInt64.size) {scene : Scene}
    (hscene : s.scene? seat = some scene) (told : ¬ R.silence)
    (course : Scene.Course R m (scene.onThread (staff.thread seat)) u) :
    (s.put seat u).Housed staff ∧ Ledger.Acts (s.ledger staff) ((s.put seat u).ledger staff) := by
  obtain ⟨member, present, -⟩ := standing_onThread hscene (staff.thread seat)
  by_cases other : seat = staff.desk
  · subst other
    obtain ⟨registry, owner, start⟩ := hs.atDesk hscene
    have acted := course.preserves (P := fun _ u => AtDesk s registry u)
      (fun outcome hv => hv.next outcome) id (fun same _ hv => hv.rests same) 0 start
    obtain ⟨housed, same⟩ := acted.put hs owner
    rw [same]
    exact ⟨housed, .refl⟩
  · -- the seat stays placed, and what it has done so far is a row of acts from the first ledger
    have threads := hs.thread_ne_desk present other
    have acted := course.preserves
      (P := fun n u => Placed s staff seat n u ∧
        Ledger.Acts (s.ledger staff) (u.standing.entry (s.ledger staff) seat))
      ?step ?weaken ?rests 0
      ⟨Placed.start hs other room (fun i c held => (orderly.known i c held).2) hscene, ?start⟩
    case step =>
      rintro m n v w outcome ⟨hv, acts⟩
      have room := hv.room
      refine ⟨hv.next outcome hs present other, acts.tail ?_⟩
      exact outcome.act told _ seat hv.plain (by simp [hv.desktop])
        (fun region held => hv.apart threads held) (by omega)
    case weaken => exact fun hv => ⟨hv.1.mono, hv.2⟩
    case rests =>
      rintro n v w same setting ⟨hv, acts⟩
      rw [same]
      exact ⟨hv.rests same setting, acts⟩
    case start =>
      rw [entry_start hscene]
      exact .refl
    refine ⟨acted.1.housed hs present other, ?_⟩
    rw [ledger_put present other]
    exact acted.2

def ruling (registry : ClipRegistry) (st : Standing) (source target : Handle) : List Delivered :=
  match (registry.update source target).2 with
  | .accepted (some evicted) => st.posted evicted .clipReset
  | .accepted none | .rejected => []

theorem standing_takeOwnerReport {registry : ClipRegistry} (hregistry : u.seat.registry = some registry)
    (source target : Handle) : (u.takeOwnerReport source target).1.standing =
      { u.standing with
        registry := some (registry.update source target).1
        messages := u.standing.messages ++ ruling registry u.standing source target } := by
  unfold Scene.takeOwnerReport ruling
  simp only [hregistry]
  cases hr : registry.update source target with
  | mk updated result =>
      rcases result with (- | evicted) | -
      · simp [Scene.standing]
      · exact Scene.standing_tell _ evicted .clipReset
      · simp [Scene.standing]

/-- What a seat may do when no reset reaches it: confine the pointer anywhere, but end no clip without a
report. -/
def ordinary : Permit := ⟨fun _ => True, False⟩

theorem take_call (hs : s.Housed staff) (orderly : (s.ledger staff).Orderly) {call : Scene.Call}
    (ok : s.Permitted (.call seat call)) (ht : s.take? staff (.call seat call) = some t) :
    t.Housed staff ∧ Ledger.Acts (s.ledger staff) (t.ledger staff) := by
  obtain ⟨own, room⟩ := ok
  obtain ⟨u, hu, rfl⟩ := Option.map_eq_some_iff.mp ht
  obtain ⟨scene, hscene, hu⟩ := Option.bind_eq_some_iff.mp hu
  obtain ⟨course, -⟩ := (scene.onThread (staff.thread seat)).call_course (R := ordinary) hu
    (fun _ _ _ => trivial) trivial (fun _ _ => trivial) (fun ⟨h, eq⟩ => own h _ eq)
    (fun h source target eq => absurd eq (own h _))
  obtain ⟨member, -, hmember⟩ := Option.map_eq_some_iff.mp hscene
  have queue : (scene.onThread (staff.thread seat)).env.queue = s.env.queue := by
    rw [← hmember]
    rfl
  refine acts_of_course hs orderly ?_ hscene id course
  rw [Scene.appetite, queue]
  exact room

theorem take_change (hs : s.Housed staff) {env : Environment} (ok : s.Permitted (.change env)) :
    ({ s with env } : Session).Housed staff ∧
      Ledger.Acts (s.ledger staff) (({ s with env } : Session).ledger staff) := by
  obtain ⟨messages, grown, hdesktop, captures⟩ := ok
  refine ⟨⟨hs.desk, hs.plain, hs.apart, hdesktop.trans hs.desktop, Nat.lt_of_lt_of_le hs.past grown,
    ?_, ?_⟩, ?_⟩
  · exact fun seat region held => (captures seat region held).trans (hs.housed seat region held)
  · change ∀ d ∈ env.journal.messages, _
    rw [messages]
    exact hs.addressed
  · have entry : ({ s with env } : Session).ledger staff =
        { s.ledger staff with horizon := env.nextHandle.toNat } := by
      simp only [ledger, messages]
      rfl
    rw [entry]
    exact .single (.lapse grown)

theorem receiver?_eq_some {h : Handle} (hr : s.receiver? staff h = some seat) :
    seat < s.members.length ∧ s.env.threadOf? h = some (staff.thread seat) := by
  have found := List.find?_some hr
  have member := List.mem_of_find?_eq_some hr
  exact ⟨List.mem_range.mp member, by simpa using found⟩

/-- A window of a seat has a receiver. -/
theorem receiver?_ne_none {h : Handle} (bound : seat < s.members.length)
    (thread : s.env.threadOf? h = some (staff.thread seat)) : s.receiver? staff h ≠ none := by
  intro none
  have missed := List.find?_eq_none.mp none seat (List.mem_range.mpr bound)
  simp [thread] at missed

theorem receiver?_eq (hs : s.Housed staff) {h : Handle} (bound : seat < s.members.length)
    (thread : s.env.threadOf? h = some (staff.thread seat)) : s.receiver? staff h = some seat := by
  obtain ⟨found, hr⟩ := Option.ne_none_iff_exists'.mp (receiver?_ne_none bound thread)
  obtain ⟨foundBound, foundThread⟩ := receiver?_eq_some hr
  have same : staff.thread found = staff.thread seat :=
    Option.some.inj (foundThread.symm.trans thread)
  rw [hr, hs.apart found seat foundBound bound same]

section Delivery

variable {position : Nat} {d : Delivered}

theorem messages_split (hd : s.env.journal.messages[position]? = some d) :
    s.env.journal.messages = s.env.journal.messages.take position ++
      d :: s.env.journal.messages.drop (position + 1) := by
  obtain ⟨bound, rfl⟩ := List.getElem?_eq_some_iff.mp hd
  rw [← List.drop_eq_getElem_cons bound, List.take_append_drop]

def noticesBefore (s : Session) (position : Nat) : List Notice :=
  (s.env.journal.messages.take position).filterMap Delivered.notice?

def noticesAfter (s : Session) (position : Nat) : List Notice :=
  (s.env.journal.messages.drop (position + 1)).filterMap Delivered.notice?

def rest (s : Session) (position : Nat) : List Notice :=
  s.noticesBefore position ++ s.noticesAfter position

theorem notices_withoutMessage (s : Session) (position : Nat) :
    (s.withoutMessage position).env.journal.messages.filterMap Delivered.notice? =
      s.rest position := by
  simp only [withoutMessage, Environment.note, rest, noticesBefore, noticesAfter,
    List.eraseIdx_eq_take_drop_succ, List.filterMap_append]

theorem ledger_withoutMessage (s : Session) (staff : Staff) (position : Nat) :
    (s.withoutMessage position).ledger staff = { s.ledger staff with notices := s.rest position } := by
  simp only [ledger, notices_withoutMessage]
  rfl

theorem Housed.withoutMessage (hs : s.Housed staff) (position : Nat) :
    (s.withoutMessage position).Housed staff :=
  ⟨hs.desk, hs.plain, hs.apart, hs.desktop, hs.past, hs.housed,
    fun d member => hs.addressed d (List.mem_of_mem_eraseIdx member)⟩

/-- A message is dropped, or taken by the seat on whose thread its window lies. -/
theorem deliver_cases (ht : s.take? staff (.deliver position) = some t) :
    ∃ d, s.env.journal.messages[position]? = some d ∧ d.isInFlight = true ∧
      (s.receiver? staff d.window = none ∧ t = s.withoutMessage position ∨
        ∃ seat scene, s.receiver? staff d.window = some seat ∧
          (s.withoutMessage position).scene? seat = some scene ∧
          t = (s.withoutMessage position).put seat
            ((scene.onThread (staff.thread seat)).driverMessage d.window d.message).1) := by
  unfold take? at ht
  cases hd : s.env.journal.messages[position]?.filter Delivered.isInFlight with
  | none => simp [hd] at ht
  | some d =>
      obtain ⟨found, flying⟩ := Option.filter_eq_some_iff.mp hd
      refine ⟨d, found, flying, ?_⟩
      simp only [hd] at ht
      cases hr : s.receiver? staff d.window with
      | none =>
          simp only [hr, Option.some.injEq] at ht
          exact Or.inl ⟨rfl, ht.symm⟩
      | some seat =>
          simp only [hr] at ht
          obtain ⟨u, hu, rfl⟩ := Option.map_eq_some_iff.mp ht
          obtain ⟨scene, hscene, hu⟩ := Option.bind_eq_some_iff.mp hu
          cases hu
          exact Or.inr ⟨seat, scene, rfl, hscene, rfl⟩

/-- A message in flight that is no notice does not concern the owner. -/
theorem isOwnership_of_silent (silent : d.notice? = none) (flying : d.isInFlight = true) :
    d.message.isOwnership = false := by
  obtain ⟨window, message, sync⟩ := d
  cases sync with
  | true => simp [Delivered.isInFlight] at flying
  | false => cases message <;> first | rfl | cases silent

theorem notices_of_silent (hd : s.env.journal.messages[position]? = some d)
    (silent : d.notice? = none) : (s.ledger staff).notices = s.rest position := by
  have split := congrArg (List.filterMap Delivered.notice?) (messages_split hd)
  rw [List.filterMap_append, List.filterMap_cons_none silent] at split
  exact split

theorem notices_of_notice {n : Notice} (hd : s.env.journal.messages[position]? = some d)
    (notice : d.notice? = some n) :
    (s.ledger staff).notices = s.noticesBefore position ++ n :: s.noticesAfter position := by
  have split := congrArg (List.filterMap Delivered.notice?) (messages_split hd)
  rw [List.filterMap_append, List.filterMap_cons_some notice] at split
  exact split

/-- The delivery of a message that is no notice is an act of the seat that takes it. -/
theorem deliver_silent (hs : s.Housed staff) (orderly : (s.ledger staff).Orderly)
    (ok : s.Permitted (.deliver position)) (hd : s.env.journal.messages[position]? = some d)
    (silent : d.notice? = none) (ht : s.take? staff (.deliver position) = some t) :
    t.Housed staff ∧ Ledger.Acts (s.ledger staff) (t.ledger staff) := by
  obtain ⟨d', found, flying, taken⟩ := deliver_cases ht
  obtain rfl : d = d' := Option.some.inj (hd.symm.trans found)
  have unrelated := isOwnership_of_silent silent flying
  have kept : (s.ledger staff).notices = s.rest position := notices_of_silent hd silent
  have same : (s.withoutMessage position).ledger staff = s.ledger staff := by
    rw [ledger_withoutMessage, ← kept]
  have housed := hs.withoutMessage position
  rcases taken with ⟨-, rfl⟩ | ⟨seat, scene, -, hscene, rfl⟩
  · rw [same]
    exact ⟨housed, .refl⟩
  · rw [← same] at orderly ⊢
    obtain ⟨course, -⟩ := (scene.onThread (staff.thread seat)).driverMessage_course (R := ordinary) d.window
      d.message (by rintro source target message; simp [message, GuestMessage.isOwnership] at unrelated)
      (by intro message; simp [message, GuestMessage.isOwnership] at unrelated) trivial
      (fun _ _ => trivial)
    exact acts_of_course housed orderly ok hscene id course

/-- The registry posts no reports. -/
theorem addressed_ruling (hs : s.Housed staff) {registry : ClipRegistry} {st : Standing}
    {source target : Handle} :
    ∀ d ∈ s.env.journal.messages ++ ruling registry st source target, ∀ source target,
      d.message = .clipOwnerChanged source target → d.window = desktop := by
  intro d member source' target' message
  rcases List.mem_append.mp member with member | member
  · exact hs.addressed d member source' target' message
  · unfold ruling Standing.posted at member
    split at member
    · split at member
      · rw [List.mem_singleton.mp member] at message
        cases message
      · simp at member
    · simp at member
    · simp at member

/-- What the registry posts answers the report, because the window of a clip is there to be told. -/
theorem answers_ruling (hs : s.Housed staff) (orderly : (s.ledger staff).Orderly)
    {registry : ClipRegistry} {st : Standing} {source target : Handle}
    (law : (⟨(s.ledger staff).owner⟩ : ClipRegistry) = registry)
    (threads : st.threads = s.env.threadOf?) : (s.ledger staff).Answers source target
      ((ruling registry st source target).filterMap Delivered.notice?) := by
  unfold Ledger.Answers
  rw [law]
  unfold ruling
  cases (registry.update source target).2 with
  | rejected => rfl
  | accepted evicted =>
      cases evicted with
      | none => rfl
      | some evicted =>
          unfold Standing.posted
          dsimp only
          split
          · exact Or.inl rfl
          · next lost =>
              refine Or.inr ⟨rfl, fun seat captured => lost ?_⟩
              obtain ⟨region, held, rfl⟩ := Option.map_eq_some_iff.mp captured
              have named := (orderly.known seat _ captured).1
              have present := hs.housed seat region held
              rw [threads, present]
              simp [Handle.isNull, named]

/-- A report goes to the desktop's seat, which lets its registry rule on it. -/
theorem deliver_report (hs : s.Housed staff) (orderly : (s.ledger staff).Orderly)
    {source target : Handle}
    (hd : s.env.journal.messages[position]? = some d)
    (notice : d.notice? = some (.report source target))
    (ht : s.take? staff (.deliver position) = some t) :
    t.Housed staff ∧ Ledger.Delivery (s.ledger staff) (s.rest position) (.report source target)
      (t.ledger staff) := by
  obtain ⟨d', found, flying, taken⟩ := deliver_cases ht
  obtain rfl : d = d' := Option.some.inj (hd.symm.trans found)
  obtain ⟨desk, registry, hdesk, hregistry, free⟩ := hs.desk
  have owner : s.owner staff = registry.owner := by
    simp [Session.owner, hdesk, Seat.registryOwner, hregistry]
  have message := Delivered.message_of_report notice
  have window : d.window = desktop :=
    hs.addressed d (List.mem_of_getElem? hd) source target message
  have receiver : s.receiver? staff desktop = some staff.desk :=
    receiver?_eq hs (List.getElem?_eq_some_iff.mp hdesk).1 hs.desktop
  rw [window, message, receiver] at taken
  rcases taken with ⟨absent, -⟩ | ⟨seat, scene, found, hscene, rfl⟩
  · cases absent
  obtain rfl : staff.desk = seat := Option.some.inj found
  obtain ⟨member, present, standing⟩ := standing_onThread hscene (staff.thread staff.desk)
  obtain rfl : desk = member := Option.some.inj (hdesk.symm.trans present)
  have housed := hs.withoutMessage position
  generalize hu : scene.onThread (staff.thread staff.desk) = u at standing ⊢
  have registered : u.seat.registry = some registry :=
    (congrArg Standing.registry standing).trans hregistry
  have ruled := standing_takeOwnerReport registered source target
  rw [standing] at ruled
  have updated : (u.takeOwnerReport source target).1.standing.registry =
      some (registry.update source target).1 := by rw [ruled]
  obtain ⟨housed', entry⟩ := housed.put_desk updated (by rw [ruled]; exact free) (by rw [ruled])
    (by rw [ruled]) (by rw [ruled]; exact addressed_ruling housed)
  have law : (⟨(s.ledger staff).owner⟩ : ClipRegistry) = registry := by
    rw [show (s.ledger staff).owner = registry.owner from owner]
  have same : ((s.withoutMessage position).put staff.desk
      (u.takeOwnerReport source target).1).ledger staff =
        (s.ledger staff).ruled source target (s.rest position)
          ((ruling registry u.standing source target).filterMap Delivered.notice?) := by
    rw [entry, ledger_withoutMessage, ruled, List.filterMap_append, Ledger.ruled, law, standing,
      notices_withoutMessage]
  refine ⟨housed', ?_⟩
  change Ledger.Delivery _ _ _ (((s.withoutMessage position).put staff.desk
      (u.takeOwnerReport source target).1).ledger staff)
  rw [same]
  refine .ruled (answers_ruling hs orderly law ?_)
  rw [standing]
  rfl

/-- A seat that does nothing is put back as it was. -/
theorem put_onThread (hs : s.Housed staff)
    (known : ∀ i c, (s.ledger staff).captures i = some c → c.id.toNat < s.env.nextHandle.toNat)
    {scene : Scene} (hscene : s.scene? seat = some scene) :
    (s.put seat (scene.onThread (staff.thread seat))).Housed staff ∧
      (s.put seat (scene.onThread (staff.thread seat))).ledger staff = s.ledger staff := by
  obtain ⟨member, present, -⟩ := standing_onThread hscene (staff.thread seat)
  by_cases other : seat = staff.desk
  · subst other
    obtain ⟨registry, owner, start⟩ := hs.atDesk hscene
    exact start.put hs owner
  · have placed := Placed.start (n := 0) hs other s.env.nextHandle.toNat_lt known hscene
    refine ⟨placed.housed hs present other, ?_⟩
    rw [ledger_put present other, entry_start hscene]

/-- A reset is void unless it is of the window that stands for the clip, which it ends. -/
theorem takeReset_cases (u : Scene) (c : Handle) :
    (u.takeReset c).1 = u ∧
      (∀ region, u.seat.input.clip = some region → c ≠ .null → region.captureWindow ≠ c) ∨
    ∃ region, u.seat.input.clip = some region ∧ region.captureWindow = c ∧
      (u.release false).Quiet (u.takeReset c).1 := by
  unfold Scene.takeReset
  split
  · next mismatch =>
      refine Or.inl ⟨rfl, fun region held named same => ?_⟩
      simp [Handle.isNull, named, InputState.captureWindow, held, same] at mismatch
  · next matching =>
      simp only [Handle.isNull, Bool.or_eq_true, beq_iff_eq, bne_iff_ne, not_or, not_not] at matching
      obtain ⟨named, same⟩ := matching
      refine Or.inr ?_
      cases held : u.seat.input.clip with
      | none => simp [InputState.captureWindow, held, named] at same
      | some region =>
          refine ⟨region, rfl, ?_, (Scene.routine_resetGuestClip _).toQuiet.trans (Scene.quiet_markReset _)⟩
          simpa [InputState.captureWindow, held] using same.symm

/-- A seat that ends its clip without a report loses it in the ledger, and nothing else shows. -/
theorem put_released (hs : s.Housed staff)
    (known : ∀ i c, (s.ledger staff).captures i = some c → c.id.toNat < s.env.nextHandle.toNat)
    {scene : Scene} (hscene : s.scene? seat = some scene) {region : ClipRegion}
    (held : s.clip? seat = some region)
    (quiet : ((scene.onThread (staff.thread seat)).release false).Quiet u) :
    (s.put seat u).Housed staff ∧
      (s.put seat u).ledger staff = (s.ledger staff).evicted seat (s.ledger staff).notices := by
  obtain ⟨member, present, standing⟩ := standing_onThread hscene (staff.thread seat)
  have other : seat ≠ staff.desk := by
    rintro rfl
    obtain ⟨desk, registry, hdesk, -, free⟩ := hs.desk
    simp [clip?, hdesk, free] at held
  have clip : (scene.onThread (staff.thread seat)).seat.input.clip = some region :=
    (congrArg Standing.clip standing).trans (by simpa [clip?, present] using held)
  have ended : Scene.Outcome ⟨fun _ => True, True⟩ 0 (scene.onThread (staff.thread seat))
      ((scene.onThread (staff.thread seat)).release false) :=
    Scene.release_outcome _ _ 0 (Or.inr trivial)
  have placed := Placed.start (n := 0) hs other s.env.nextHandle.toNat_lt known hscene
  have placed := placed.next (m := 0) (n := 0) ended hs present other
  have placed := placed.next (m := 0) (n := 0) (R := ordinary) (.quiet quiet) hs present other
  refine ⟨placed.housed hs present other, ?_⟩
  have dropped := (scene.onThread (staff.thread seat)).release_of_clip false clip
  rw [if_neg (by simp), standing] at dropped
  rw [ledger_put present other, quiet.entry, dropped]
  rfl

/-- A reset of a window that no seat clips with changes nothing but that it is gone; another one ends
the clip. -/
theorem deliver_reset (hs : s.Housed staff) (orderly : (s.ledger staff).Orderly) {c : Handle}
    (hd : s.env.journal.messages[position]? = some d) (notice : d.notice? = some (.reset c))
    (ht : s.take? staff (.deliver position) = some t) :
    t.Housed staff ∧
      Ledger.Delivery (s.ledger staff) (s.rest position) (.reset c) (t.ledger staff) := by
  obtain ⟨d', found, flying, taken⟩ := deliver_cases ht
  obtain rfl : d = d' := Option.some.inj (hd.symm.trans found)
  obtain rfl := Delivered.eq_of_reset notice
  have housed := hs.withoutMessage position
  have without := ledger_withoutMessage s staff position
  have known : ∀ i c, ((s.withoutMessage position).ledger staff).captures i = some c →
      c.id.toNat < (s.withoutMessage position).env.nextHandle.toNat :=
    fun i c held => (orderly.known i c held).2
  rcases taken with ⟨absent, rfl⟩ | ⟨seat, scene, receiver, hscene, rfl⟩
  · refine ⟨housed, ?_⟩
    rw [without]
    refine .ignored fun seat captured => ?_
    obtain ⟨region, held, same⟩ := Option.map_eq_some_iff.mp captured
    have thread := hs.housed seat region held
    rw [same] at thread
    exact receiver?_ne_none (bound_of_clip? held) thread absent
  · obtain ⟨bound, thread⟩ := receiver?_eq_some receiver
    obtain ⟨member, present, standing⟩ := standing_onThread hscene (staff.thread seat)
    obtain ⟨hput, same⟩ := put_onThread housed known hscene
    change (Session.put _ seat ((scene.onThread (staff.thread seat)).takeReset c).1).Housed _ ∧
      Ledger.Delivery _ _ _
        ((Session.put _ seat ((scene.onThread (staff.thread seat)).takeReset c).1).ledger _)
    have clip : (scene.onThread (staff.thread seat)).seat.input.clip = s.clip? seat :=
      (congrArg Standing.clip standing).trans (by simp [clip?, show s.members[seat]? = _ from present])
    -- nobody but the seat on whose thread the window lies can clip with it
    have captured : ∀ i region, s.clip? i = some region → region.captureWindow = c →
        i = seat := by
      intro i region held same
      have mine := hs.housed i region held
      rw [same, thread] at mine
      exact hs.apart i seat (bound_of_clip? held) bound (Option.some.inj mine).symm
    rcases takeReset_cases (scene.onThread (staff.thread seat)) c with
      ⟨unmoved, void⟩ | ⟨region, held, same', quiet⟩
    · rw [unmoved]
      refine ⟨hput, ?_⟩
      rw [same, without]
      refine .ignored fun i hi => ?_
      obtain ⟨region, held, named⟩ := Option.map_eq_some_iff.mp hi
      obtain rfl := captured i region held named
      exact void region (clip.trans held) (orderly.known i _ hi).1 named
    · have mine : s.clip? seat = some region := clip.symm.trans held
      obtain ⟨hput, released⟩ := put_released housed known hscene mine quiet
      refine ⟨hput, ?_⟩
      rw [released, without]
      exact .evicted (by simp [ledger, mine, same'])

theorem deliver_notice (hs : s.Housed staff) (orderly : (s.ledger staff).Orderly) {n : Notice}
    (hd : s.env.journal.messages[position]? = some d) (notice : d.notice? = some n)
    (ht : s.take? staff (.deliver position) = some t) :
    t.Housed staff ∧ Ledger.Delivery (s.ledger staff) (s.rest position) n (t.ledger staff) := by
  cases n with
  | report source target => exact deliver_report hs orderly hd notice ht
  | reset c => exact deliver_reset hs orderly hd notice ht

end Delivery

end GuestSeat.Session
