import GuestSeat.Proofs.Clip.Ownership

/-!
Requests to let go of the pointer. Such a request is a message to a window, and the seat on whose thread
the window lies is the one that answers it, with its own clip. What becomes of the clips of a process is
settled once the request and the report that it may give rise to are delivered.
-/

namespace GuestSeat

namespace Session

open Environment (desktop)

variable {staff : Staff} {start s t u v : Session} {w : Handle} {seat : Nat}

def posting (s : Session) (w : Handle) (message : GuestMessage) : Session :=
  { s with env := s.env.tell w message }

def Delivering (_ : Session) : Turn → Prop
  | .deliver _ => True
  | _ => False

/-- In whatever order the messages in flight are delivered, once none is left the session is `t`. -/
structure Settles (staff : Staff) (s t : Session) : Prop where
  reached : Run staff Delivering s t
  rest : t.AtRest
  only : ∀ u, Run staff Delivering s u → u.AtRest → u = t

theorem Run.first {allowed : Session → Turn → Prop} (run : Run staff allowed s u) :
    u = s ∨ ∃ turn t, allowed s turn ∧ s.take? staff turn = some t ∧ Run staff allowed t u := by
  induction run with
  | start => exact Or.inl rfl
  | turn run ok taken ih =>
      refine Or.inr ?_
      rcases ih with rfl | ⟨first, t, allowed, begun, rest⟩
      · exact ⟨_, _, ok, taken, .start⟩
      · exact ⟨first, t, allowed, begun, rest.turn ok taken⟩

theorem Run.after {allowed : Session → Turn → Prop} {turn : Turn} (ok : allowed s turn)
    (taken : s.take? staff turn = some t) (run : Run staff allowed t u) : Run staff allowed s u := by
  induction run with
  | start => exact .turn .start ok taken
  | turn _ ok taken ih => exact ih.turn ok taken

theorem AtRest.not_deliver (rest : s.AtRest) (position : Nat) :
    s.take? staff (.deliver position) ≠ some t := by
  intro taken
  obtain ⟨d, found, flying, -⟩ := deliver_cases taken
  simp [rest d (List.mem_of_getElem? found)] at flying

theorem Settles.refl (rest : s.AtRest) : Settles staff s s := by
  refine ⟨.start, rest, fun u run _ => ?_⟩
  rcases run.first with rfl | ⟨turn, t, ok, taken, -⟩
  · rfl
  · cases turn with
    | deliver position => exact absurd taken (rest.not_deliver position)
    | call _ _ | change _ => exact ok.elim

/-- A session with one message in flight settles where it does after the delivery. -/
theorem Settles.deliver {position : Nat} (flying : ¬ s.AtRest)
    (single : ∀ p t', s.take? staff (.deliver p) = some t' ↔ p = position ∧ t' = t)
    (settles : Settles staff t u) : Settles staff s u := by
  have taken : s.take? staff (.deliver position) = some t := (single position t).mpr ⟨rfl, rfl⟩
  have allowed : Delivering s (.deliver position) := trivial
  refine ⟨settles.reached.after allowed taken, settles.rest, fun v run rest => ?_⟩
  rcases run.first with rfl | ⟨turn, t', ok, taken', later⟩
  · exact absurd rest flying
  · cases turn with
    | deliver p =>
        obtain ⟨-, rfl⟩ := (single p t').mp taken'
        exact settles.only v later rest
    | call _ _ | change _ => exact ok.elim

/-- The desktop's window is for the desktop's seat, which never clips. -/
theorem receiver?_desk (hs : s.Housed staff) : s.receiver? staff desktop = some staff.desk := by
  obtain ⟨desk, registry, hdesk, -⟩ := hs.desk
  exact receiver?_eq hs (List.getElem?_eq_some_iff.mp hdesk).1 hs.desktop

theorem clip?_desk (hs : s.Housed staff) : s.clip? staff.desk = none := by
  obtain ⟨desk, registry, hdesk, -, free⟩ := hs.desk
  simp [clip?, hdesk, free]

def serve (staff : Staff) (s : Session) (seat : Nat) (d : Delivered) : Session :=
  s.act seat fun scene =>
    ((scene.onThread (staff.thread seat)).driverMessage d.window d.message).1

theorem serve_eq {scene : Scene} (hscene : s.scene? seat = some scene) (d : Delivered) :
    s.serve staff seat d = s.put seat
      ((scene.onThread (staff.thread seat)).driverMessage d.window d.message).1 := by
  unfold serve act
  rw [hscene]

theorem scene?_isSome (bound : seat < s.members.length) : ∃ scene, s.scene? seat = some scene := by
  unfold scene?
  rw [List.getElem?_eq_getElem bound]
  exact ⟨_, rfl⟩

/-- The one message in flight is delivered to the seat on whose thread its window lies. -/
theorem deliver_last {landed : List Delivered} {d : Delivered} (rest : ∀ x ∈ landed, x.isInFlight = false)
    (messages : s.env.journal.messages = landed ++ [d]) (flying : d.isInFlight = true)
    (receiver : s.receiver? staff d.window = some seat) (p : Nat) (t : Session) :
    s.take? staff (.deliver p) = some t ↔
      p = landed.length ∧ t = (s.withoutMessage landed.length).serve staff seat d := by
  have last : s.env.journal.messages[landed.length]? = some d := by simp [messages]
  obtain ⟨scene, hscene⟩ : ∃ scene, (s.withoutMessage landed.length).scene? seat = some scene :=
    scene?_isSome (receiver?_eq_some receiver).1
  constructor
  · intro taken
    obtain ⟨d', found, flying', cases⟩ := deliver_cases taken
    have position : p = landed.length := by
      by_contra elsewhere
      have bound := (List.getElem?_eq_some_iff.mp found).1
      rw [messages, List.length_append, List.length_singleton] at bound
      rw [messages, List.getElem?_append_left (by omega)] at found
      simp [rest d' (List.mem_of_getElem? found)] at flying'
    subst position
    obtain rfl : d = d' := Option.some.inj (last.symm.trans found)
    refine ⟨rfl, ?_⟩
    rcases cases with ⟨absent, -⟩ | ⟨found, scene', receiver', hscene', rfl⟩
    · simp [receiver] at absent
    · obtain rfl : seat = found := Option.some.inj (receiver.symm.trans receiver')
      exact (serve_eq hscene' d).symm
  · rintro ⟨rfl, rfl⟩
    unfold take? actOn?
    simp only [last, Option.filter, flying, if_true, receiver, hscene, Option.bind_some,
      Option.map_some, serve_eq hscene]

theorem Settles.last {landed : List Delivered} {d : Delivered} (rest : ∀ x ∈ landed, x.isInFlight = false)
    (messages : s.env.journal.messages = landed ++ [d]) (flying : d.isInFlight = true)
    (receiver : s.receiver? staff d.window = some seat)
    (settles : Settles staff ((s.withoutMessage landed.length).serve staff seat d) u) :
    Settles staff s u := by
  refine .deliver (fun still => ?_) (deliver_last rest messages flying receiver) settles
  have landed := still d (by simp [messages])
  exact Bool.false_ne_true (landed.symm.trans flying)

theorem messages_posting (message : GuestMessage) (named : w ≠ .null)
    (present : (s.env.threadOf? w).isSome = true) :
    (s.posting w message).env =
      s.env.note fun j => { j with messages := j.messages ++ [⟨w, message, false⟩] } := by
  have known : s.env.windows.contains w = true := by
    simpa [Environment.threadOf?, Environment.info?, OrderedMap.contains] using present
  unfold posting Environment.tell Environment.post Environment.deliver
  simp [Handle.isNull, named, known]

theorem withoutMessage_posting (message : GuestMessage) (named : w ≠ .null)
    (present : (s.env.threadOf? w).isSome = true) :
    (s.posting w message).withoutMessage s.env.journal.messages.length = s := by
  have env := messages_posting message named present
  unfold withoutMessage
  rw [env]
  simp [posting, Environment.note, List.eraseIdx_append_of_length_le]

/-- At rest, a message is the only one in flight after it was posted. -/
theorem Settles.posting (rest : s.AtRest) {message : GuestMessage} (named : w ≠ .null)
    (carries : message.isDriverMessage = true) (receiver : s.receiver? staff w = some seat)
    (settles : Settles staff (s.serve staff seat ⟨w, message, false⟩) u) :
    Settles staff (s.posting w message) u := by
  have present : (s.env.threadOf? w).isSome = true := by simp [(receiver?_eq_some receiver).2]
  have env := messages_posting message named present
  have reaches : (s.posting w message).receiver? staff w = some seat := by
    rw [← receiver]
    unfold receiver?
    rw [env]
    rfl
  refine .last rest (congrArg (fun env : Environment => env.journal.messages) env) ?_ reaches ?_
  · simpa [Delivered.isInFlight] using carries
  · rwa [withoutMessage_posting message named present]

/-- A seat without a clip does not act on a request to let go. -/
theorem serve_release_of_free (staff : Staff) {r : Nat} (bound : r < s.members.length) (free : s.clip? r = none) :
    (s.serve staff r ⟨w, .releaseCursor, false⟩).env.journal = s.env.journal ∧
      (∀ i, (s.serve staff r ⟨w, .releaseCursor, false⟩).clip? i = s.clip? i) ∧
      (s.serve staff r ⟨w, .releaseCursor, false⟩).owner staff = s.owner staff := by
  obtain ⟨scene, hscene⟩ := scene?_isSome bound
  obtain ⟨member, present, standing⟩ := standing_onThread hscene (staff.thread r)
  generalize hu : scene.onThread (staff.thread r) = u at standing
  have clip : u.seat.input.clip = none := by
    refine (congrArg Standing.clip standing).trans ?_
    simpa [clip?, present] using free
  have idle : (u.driverMessage w .releaseCursor).1 = u := by
    change u.resetClipping = u
    simp [Scene.resetClipping, InputState.isClipping, clip]
  have journal : u.env.journal = s.env.journal := by
    rw [← hu]
    obtain ⟨_, -, rfl⟩ := Option.map_eq_some_iff.mp hscene
    rfl
  have registry : u.seat.registry = member.seat.registry := congrArg Standing.registry standing
  rw [serve_eq hscene, hu, idle]
  refine ⟨?_, fun i => ?_, ?_⟩
  · rw [put_eq present]
    exact journal
  · rw [clip?_put present]
    split
    · next same => rw [same, clip, free]
    · rfl
  · rw [owner_put present]
    split
    · next same => simp [Session.owner, same, present, Seat.registryOwner, registry]
    · rfl

/-- A seat with a clip lets go of it and reports that. -/
theorem serve_release_of_clip (kept : s.Kept staff) {r : Nat} {region : ClipRegion}
    (held : s.clip? r = some region) :
    (s.serve staff r ⟨w, .releaseCursor, false⟩).Housed staff ∧
      (s.serve staff r ⟨w, .releaseCursor, false⟩).env.journal.messages =
        s.env.journal.messages ++ [⟨desktop, .clipOwnerChanged region.captureWindow .null, false⟩] ∧
      (∀ i, (s.serve staff r ⟨w, .releaseCursor, false⟩).clip? i =
        if i = r then none else s.clip? i) ∧
      (s.serve staff r ⟨w, .releaseCursor, false⟩).owner staff = s.owner staff := by
  obtain ⟨housed, orderly⟩ := kept
  obtain ⟨scene, hscene⟩ := scene?_isSome (bound_of_clip? held)
  obtain ⟨member, present, standing⟩ := standing_onThread hscene (staff.thread r)
  have other : r ≠ staff.desk := by
    rintro rfl
    simp [clip?_desk housed] at held
  have placed := Placed.start (n := 0) housed other s.env.nextHandle.toNat_lt
    (fun i c captured => (orderly.known i c captured).2) hscene
  rw [serve_eq hscene]
  generalize scene.onThread (staff.thread r) = u at standing placed
  have clip : u.seat.input.clip = some region :=
    (congrArg Standing.clip standing).trans (by simpa [clip?, present] using held)
  have freed : (u.driverMessage w .releaseCursor).1 = (u.release true).act .resetGuestClip := by
    change u.resetClipping = _
    simp [Scene.resetClipping, InputState.isClipping, clip]
  have opened := (Scene.routine_resetGuestClip (u.release true)).toQuiet
  have placed := placed.next (m := 0) (n := 0) (u.release_outcome ordinary 0 (Or.inl rfl)) housed
    present other
  have placed := placed.next (m := 0) (n := 0) (R := ordinary) (.quiet opened) housed present other
  have ended := u.release_of_clip true clip
  rw [if_pos rfl] at ended
  have apart : desktop ≠ region.captureWindow := by
    intro same
    have thread := housed.housed r region held
    rw [← same, housed.desktop] at thread
    exact housed.thread_ne_desk present other (Option.some.inj thread).symm
  have report : (u.standing.closed [] region.captureWindow).report region.captureWindow .null =
      [⟨desktop, .clipOwnerChanged region.captureWindow .null, false⟩] := by
    have plain : (u.standing.closed [] region.captureWindow).registry = none :=
      (congrArg Standing.registry standing).trans (housed.plain r member other present)
    have still : (u.standing.closed [] region.captureWindow).threads desktop =
        some (staff.thread staff.desk) := by
      refine (Function.update_of_ne apart ..).trans ?_
      exact (congrFun (congrArg Standing.threads standing) desktop).trans housed.desktop
    simp [Standing.report, Standing.posted, plain, still, Handle.isNull, show desktop ≠ .null by decide]
  rw [freed]
  refine ⟨placed.housed housed present other, ?_, fun i => ?_, ?_⟩
  · rw [put_eq present]
    refine (congrArg Standing.messages ended).trans ?_
    change (u.standing.closed [] region.captureWindow).messages ++ _ = _
    rw [report]
    exact congrArg (· ++ _) (congrArg Standing.messages standing)
  · rw [clip?_put present]
    exact if_congr Iff.rfl (congrArg Standing.clip ended) rfl
  · rw [owner_put present, if_neg other.symm]

/-- The registry hears that the owner of the clip let go of it. -/
theorem serve_report (hs : s.Housed staff) {c : Handle} (owner : s.owner staff = c) :
    (s.serve staff staff.desk ⟨desktop, .clipOwnerChanged c .null, false⟩).env.journal.messages =
        s.env.journal.messages ∧
      (∀ i, (s.serve staff staff.desk ⟨desktop, .clipOwnerChanged c .null, false⟩).clip? i =
        s.clip? i) ∧
      (s.serve staff staff.desk ⟨desktop, .clipOwnerChanged c .null, false⟩).owner staff = .null := by
  obtain ⟨desk, registry, hdesk, hregistry, free⟩ := hs.desk
  obtain ⟨scene, hscene⟩ := scene?_isSome (List.getElem?_eq_some_iff.mp hdesk).1
  obtain ⟨member, present, standing⟩ := standing_onThread hscene (staff.thread staff.desk)
  obtain rfl : desk = member := Option.some.inj (hdesk.symm.trans present)
  rw [serve_eq hscene]
  generalize scene.onThread (staff.thread staff.desk) = u at standing
  have registered : u.seat.registry = some registry :=
    (congrArg Standing.registry standing).trans hregistry
  have named : registry.owner = c := by
    simpa [Session.owner, hdesk, Seat.registryOwner, hregistry] using owner
  have ruled := standing_takeOwnerReport registered c .null
  have update : registry.update c .null = (⟨.null⟩, .accepted none) := by
    simp [ClipRegistry.update, Handle.isNull, named]
  simp only [ruling, update, List.append_nil] at ruled
  change (s.put staff.desk (u.takeOwnerReport c .null).1).env.journal.messages = _ ∧
    (∀ i, (s.put staff.desk (u.takeOwnerReport c .null).1).clip? i = _) ∧
      (s.put staff.desk (u.takeOwnerReport c .null).1).owner staff = _
  refine ⟨?_, fun i => ?_, ?_⟩
  · rw [put_eq present]
    refine (congrArg Standing.messages ruled).trans ?_
    exact congrArg Standing.messages standing
  · rw [clip?_put present]
    split
    · next same =>
        refine (congrArg Standing.clip ruled).trans ?_
        simpa [same, clip?, present] using congrArg Standing.clip standing
    · rfl
  · have answered : (u.takeOwnerReport c .null).1.seat.registry = some ⟨.null⟩ :=
      congrArg Standing.registry ruled
    rw [owner_put present, if_pos rfl]
    simp [Seat.registryOwner, answered]

/-- Without a clip at the receiver a request comes to nothing. -/
theorem settles_of_free (rest : s.AtRest) {r : Nat} (named : w ≠ .null)
    (receiver : s.receiver? staff w = some r) (free : s.clip? r = none) :
    ∃ u, Settles staff (s.posting w .releaseCursor) u ∧ (∀ seat, u.clip? seat = s.clip? seat) ∧
      u.owner staff = s.owner staff := by
  obtain ⟨journal, clips, owner⟩ :=
    serve_release_of_free (w := w) staff (receiver?_eq_some receiver).1 free
  refine ⟨_, .posting rest named rfl receiver (.refl ?_), clips, owner⟩
  unfold AtRest
  rw [journal]
  exact rest

/-- A request to a seat that clips is settled once its report is delivered. -/
theorem settles_of_clip (kept : s.Kept staff) (rest : s.AtRest) {r : Nat} {region : ClipRegion}
    (named : w ≠ .null) (receiver : s.receiver? staff w = some r) (held : s.clip? r = some region)
    (owner : s.owner staff = region.captureWindow) :
    ∃ u, Settles staff (s.posting w .releaseCursor) u ∧
      (∀ seat, u.clip? seat = if seat = r then none else s.clip? seat) ∧ u.owner staff = .null := by
  obtain ⟨housed, messages, clips, same⟩ := serve_release_of_clip (w := w) kept held
  obtain ⟨landed, settled, freed⟩ := serve_report
    (housed.withoutMessage s.env.journal.messages.length) (same.trans owner)
  refine ⟨_, .posting rest named rfl receiver (.last rest messages rfl (receiver?_desk housed) (.refl ?_)),
    fun seat => (settled seat).trans (clips seat), freed⟩
  unfold AtRest
  rw [landed]
  simpa [AtRest, withoutMessage, Environment.note, messages, List.eraseIdx_append_of_length_le]
    using rest

/-- A request to let go of the pointer reaches the seat that it is sent to and no other. In whatever order
the messages that it gives rise to are delivered, that seat ends up without a clip, the registry without
an owner if there was one, and every other seat with the clip that it had. So a request to the desktop's
window frees nobody: the desktop's seat never clips, and does not pass the request on to the owner that
its registry knows. -/
theorem release_frees_receiver_only (fresh : Fresh start staff) (run : Run staff Permitted start s)
    (rest : s.AtRest) {r : Nat} (named : w ≠ .null) (receiver : s.receiver? staff w = some r) :
    ∃ u, Settles staff (s.posting w .releaseCursor) u ∧
      (∀ seat, u.clip? seat = if seat = r then none else s.clip? seat) ∧
      (u.owner staff = if (s.clip? r).isSome then .null else s.owner staff) ∧
      (w = desktop → (∀ seat, u.clip? seat = s.clip? seat) ∧ u.owner staff = s.owner staff) := by
  have kept := run.kept fresh fun _ _ ok => ok
  cases held : s.clip? r with
  | none =>
      obtain ⟨u, settles, clips, owner⟩ := settles_of_free rest named receiver held
      refine ⟨u, settles, fun seat => ?_, by simpa using owner, fun _ => ⟨clips, owner⟩⟩
      rw [clips]
      split
      · next same => rw [same, held]
      · rfl
  | some region =>
      have owned := (clip_exclusive_at_rest fresh run rest).1 r region held
      obtain ⟨u, settles, clips, freed⟩ := settles_of_clip kept rest named receiver held owned.symm
      refine ⟨u, settles, clips, by simpa using freed, ?_⟩
      rintro rfl
      -- the desktop's window has the desktop's seat for a receiver, which has no clip
      obtain rfl : staff.desk = r := Option.some.inj ((receiver?_desk kept.housed).symm.trans receiver)
      simp [clip?_desk kept.housed] at held

/-- Of a seat that clips, the desktop cannot get the pointer back; the seat itself lets go of it. -/
theorem release_of_desktop_frees_nobody :
    ∃ s, Run .three Permitted (trio ⟨0, 0, 1920, 1080⟩) s ∧ s.AtRest ∧
      (∃ u, Settles .three (s.posting desktop .releaseCursor) u ∧
        u.clip? 1 = some ⟨⟨0, 0, 800, 600⟩, ⟨0x20000⟩, .explicit⟩) ∧
      ∃ u, Settles .three (s.posting ⟨0x20000⟩ .releaseCursor) u ∧ u.clip? 1 = none := by
  have clipped : Run .three Permitted (trio ⟨0, 0, 1920, 1080⟩) _ :=
    .turn .start (.clip 1 ⟨0, 0, 800, 600⟩ (by decide)) rfl
  have heard : Run .three Permitted _ _ := .turn clipped (.deliver 0 (by decide)) rfl
  obtain ⟨s, run, rest, held, desk, own⟩ : ∃ s, Run .three Permitted (trio ⟨0, 0, 1920, 1080⟩) s ∧
      s.AtRest ∧ s.clip? 1 = some ⟨⟨0, 0, 800, 600⟩, ⟨0x20000⟩, .explicit⟩ ∧
      s.receiver? .three desktop = some 0 ∧ s.receiver? .three ⟨0x20000⟩ = some 1 :=
    ⟨_, heard, by decide, by decide, by decide, by decide⟩
  obtain ⟨u, asked, -, -, unmoved⟩ :=
    release_frees_receiver_only (fresh_trio _) run rest (by decide) desk
  obtain ⟨v, told, freed, -⟩ := release_frees_receiver_only (fresh_trio _) run rest (by decide) own
  exact ⟨s, run, rest, ⟨u, asked, ((unmoved rfl).1 1).trans held⟩, v, told, freed 1⟩

end Session

end GuestSeat
