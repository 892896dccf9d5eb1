import GuestSeat.Proofs.Clip.Ownership

/-!
Owners that are none. A seat that loses its clip to a reset does not report it, because the registry is
supposed to know. If the seat has kept its clip in the meantime, though, its report of that still makes
the registry take it for the owner, and nothing tells the registry otherwise.
-/

namespace GuestSeat

namespace Ledger

variable {l l' : Ledger} {before after told : List Notice} {source target c : Handle} {seat : Nat}

def hear (owner : Handle) : Notice → Handle
  | .report source target => ((⟨owner⟩ : ClipRegistry).update source target).1.owner
  | .reset _ => owner

/-- The owner that the registry will have once it has heard all that is in flight. -/
def heir (l : Ledger) : Handle := l.notices.foldl hear l.owner

def Haunted (l : Ledger) : Prop := l.heir ≠ .null ∧ ∀ seat, l.captures seat ≠ some l.heir

theorem hear_report (owner source target : Handle) : hear owner (.report source target) =
    if target = .null then if source = owner then .null else owner else target := by
  simp only [hear, ClipRegistry.update, Handle.isNull, beq_iff_eq]
  split
  · split <;> rfl
  · rfl

theorem heir_append (l : Ledger) (n : Notice) :
    heir { l with notices := l.notices ++ [n] } = hear l.heir n := by
  simp [heir]

/-- Resets do not matter to the registry. -/
theorem foldl_hear_of_resets {notices : List Notice} (resets : ∀ n ∈ notices, n.isReport = false)
    (owner : Handle) : notices.foldl hear owner = owner := by
  induction notices with
  | nil => rfl
  | cons n rest ih =>
      have reset : hear owner n = owner := by
        cases n with
        | reset => rfl
        | report source target => simpa [Notice.isReport] using resets _ List.mem_cons_self
      rw [List.foldl_cons, reset]
      exact ih fun m member => resets m (List.mem_cons_of_mem n member)

theorem foldl_hear_known {notices : List Notice} {horizon : Nat} (positive : 0 < horizon)
    (targets : ∀ source target, .report source target ∈ notices → target.id.toNat < horizon)
    {owner : Handle} (known : owner.id.toNat < horizon) :
    (notices.foldl hear owner).id.toNat < horizon := by
  induction notices generalizing owner with
  | nil => exact known
  | cons n rest ih =>
      refine ih (fun source target member => targets source target (List.mem_cons_of_mem n member)) ?_
      cases n with
      | reset => exact known
      | report source target =>
          rw [hear_report]
          split
          · split
            · exact positive
            · exact known
          · exact targets source target List.mem_cons_self

theorem Orderly.heir_known (h : l.Orderly) : l.heir.id.toNat < l.horizon :=
  foldl_hear_known h.positive (fun source target member => (h.reports source target member).2.1)
    h.ownerKnown

/-- A seat that acts of its own accord conjures up no phantom. -/
theorem Act.haunted (act : Act l l') (h : l.Orderly) (haunted : l'.Haunted) :
    l.Haunted ∧ l'.heir = l.heir := by
  obtain ⟨named, nobody⟩ := haunted
  cases act with
  | lapse => exact ⟨⟨named, nobody⟩, rfl⟩
  | @claim seat _ c _ fresh _ =>
      have heir := heir_append l (.report .null c)
      rw [hear_report, if_neg (h.ne_of_fresh fresh).1] at heir
      refine absurd ?_ (nobody seat)
      exact (Function.update_self ..).trans (congrArg some heir.symm)
  | @keep seat c held =>
      -- the last report names a window that is clipped with
      have heir := heir_append l (.report c c)
      rw [hear_report, if_neg (h.known seat c held).1] at heir
      exact absurd (held.trans (congrArg some heir.symm)) (nobody seat)
  | @release seat c held =>
      have heir := heir_append l (.report c .null)
      rw [hear_report, if_pos rfl] at heir
      by_cases own : c = l.heir
      · rw [if_pos own] at heir
        exact absurd heir named
      · rw [if_neg own] at heir
        refine ⟨⟨?_, fun i hi => ?_⟩, heir⟩
        · rw [← heir]
          exact named
        · by_cases same : i = seat
          · rw [same, held] at hi
            exact own (Option.some.inj hi)
          · refine nobody i ((Function.update_of_ne same ..).trans ?_)
            exact hi.trans (congrArg some heir.symm)

theorem Acts.buried (acts : Acts l l') (old : c.id.toNat < l.horizon)
    (dead : ∀ seat, l.captures seat ≠ some c) :
    c.id.toNat < l'.horizon ∧ ∀ seat, l'.captures seat ≠ some c := by
  induction acts with
  | refl => exact ⟨old, dead⟩
  | tail _ act ih => exact ⟨Nat.lt_of_lt_of_le ih.1 act.horizon_le, act.buried ih.1 ih.2⟩

/-- A phantom stays until the registry hears of another owner. -/
theorem Acts.haunted_iff (acts : Acts l l') (h : l.Orderly) :
    l'.Haunted ↔ l.Haunted ∧ l'.heir = l.heir := by
  constructor
  · intro haunted
    induction acts with
    | refl => exact ⟨haunted, rfl⟩
    | tail acts act ih =>
        obtain ⟨before, same⟩ := act.haunted (Acts.orderly acts h) haunted
        obtain ⟨first, same'⟩ := ih before
        exact ⟨first, same.trans same'⟩
  · rintro ⟨⟨named, nobody⟩, same⟩
    refine ⟨same ▸ named, ?_⟩
    rw [same]
    exact (acts.buried h.heir_known nobody).2

theorem heir_without_reset (taken : l.notices = before ++ .reset c :: after) :
    (before ++ after).foldl hear l.owner = l.heir := by
  simp [heir, taken, hear]

/-- Hearing the first report now or later makes no difference. -/
theorem heir_ruled (taken : l.notices = before ++ .report source target :: after)
    (first : ∀ n ∈ before, n.isReport = false) (answers : l.Answers source target told) :
    (l.ruled source target (before ++ after) told).heir = l.heir := by
  have resets : ∀ n ∈ told, n.isReport = false := by
    intro n member
    obtain ⟨c, rfl⟩ := answers.eq_reset member
    rfl
  change ((before ++ after) ++ told).foldl hear (hear l.owner (.report source target)) =
    l.notices.foldl hear l.owner
  rw [taken, List.foldl_append, List.foldl_append, List.foldl_append, List.foldl_cons,
    foldl_hear_of_resets resets, foldl_hear_of_resets first, foldl_hear_of_resets first]

/-- A seat that loses its clip to a reset leaves a phantom if it is the one that the registry takes, or
will take, for the owner. -/
theorem haunted_evicted_iff (h : l.Orderly) (taken : l.notices = before ++ .reset c :: after)
    (held : l.captures seat = some c) : (l.evicted seat (before ++ after)).Haunted ↔
      l.heir = c ∨ l.Haunted := by
  have heir : (l.evicted seat (before ++ after)).heir = l.heir := heir_without_reset taken
  unfold Haunted
  rw [heir]
  have captures : ∀ i, (l.evicted seat (before ++ after)).captures i =
      if i = seat then none else l.captures i := fun i => Function.update_apply ..
  constructor
  · rintro ⟨named, nobody⟩
    by_cases own : l.heir = c
    · exact Or.inl own
    · refine Or.inr ⟨named, fun i hi => ?_⟩
      by_cases same : i = seat
      · rw [same, held] at hi
        exact own (Option.some.inj hi).symm
      · refine nobody i ?_
        rw [captures, if_neg same]
        exact hi
  · rintro (own | ⟨named, nobody⟩)
    · refine ⟨own ▸ (h.known seat c held).1, fun i hi => ?_⟩
      rw [captures] at hi
      split at hi
      · cases hi
      · next other => exact other (h.apart i seat c (own ▸ hi) held)
    · refine ⟨named, fun i hi => ?_⟩
      rw [captures] at hi
      split at hi
      · cases hi
      · exact nobody i hi

/-- A reset is stale if it reaches the seat whose clip the registry takes, or will take, for the one in
force. -/
def Stale (l : Ledger) (n : Notice) : Prop :=
  n = .reset l.heir ∧ ∃ seat, l.captures seat = some l.heir

theorem haunted_congr (heir : l'.heir = l.heir) (captures : l'.captures = l.captures) :
    l'.Haunted ↔ l.Haunted := by
  unfold Haunted
  rw [captures, heir]

/-- As long as no report overtakes another, only stale resets leave phantoms, and no delivery changes
what the registry will have heard in the end. -/
theorem Delivery.haunted_iff {n : Notice} (delivery : Delivery l (before ++ after) n l')
    (taken : l.notices = before ++ n :: after) (h : l.Orderly)
    (first : n.isReport = true → ∀ m ∈ before, m.isReport = false) :
    l'.heir = l.heir ∧ (l'.Haunted ↔ l.Stale n ∨ l.Haunted) := by
  cases delivery with
  | @ruled source target told answers =>
      have heir := heir_ruled taken (first rfl) answers
      have fine : ¬ l.Stale (.report source target) := fun stale => by cases stale.1
      refine ⟨heir, (haunted_congr heir rfl).trans ?_⟩
      exact ⟨Or.inr, fun haunted => haunted.resolve_left fine⟩
  | @evicted seat c held =>
      refine ⟨heir_without_reset taken, (haunted_evicted_iff h taken held).trans ?_⟩
      refine or_congr_left ⟨?_, ?_⟩
      · rintro rfl
        exact ⟨rfl, seat, held⟩
      · rintro ⟨same, -⟩
        exact (Notice.reset.inj same).symm
  | @ignored c nobody =>
      have heir : heir { l with notices := before ++ after } = l.heir := heir_without_reset taken
      have fine : ¬ l.Stale (.reset c) := by
        rintro ⟨same, seat, held⟩
        rw [← Notice.reset.inj same] at held
        exact nobody seat held
      refine ⟨heir, (haunted_congr heir rfl).trans ?_⟩
      exact ⟨Or.inr, fun haunted => haunted.resolve_left fine⟩

end Ledger

namespace Session

variable {staff : Staff} {start s t : Session}

/-- The owner that the registry will have once all reports in flight have arrived. -/
def heir (s : Session) (staff : Staff) : Handle := (s.ledger staff).heir

def Phantom (s : Session) (staff : Staff) : Prop :=
  s.heir staff ≠ .null ∧
    ∀ seat region, s.clip? seat = some region → region.captureWindow ≠ s.heir staff

/-- Messages reach each thread in the order in which they were posted. -/
def InOrder (s : Session) : Turn → Prop
  | .deliver position => ∀ d, s.env.journal.messages[position]? = some d →
      ∀ earlier ∈ s.env.journal.messages.take position, earlier.isInFlight = true →
        ∀ thread, s.env.threadOf? d.window = some thread →
          s.env.threadOf? earlier.window ≠ some thread
  | .call _ _ | .change _ => True

/-- A reset reaches the capture window of a clip in force that the registry takes, or will take, for the
owner. -/
def StaleReset (s : Session) (staff : Staff) : Turn → Prop
  | .deliver position => ∃ seat region, s.clip? seat = some region ∧
      s.env.journal.messages[position]? = some ⟨region.captureWindow, .clipReset, false⟩ ∧
      s.heir staff = region.captureWindow
  | .call _ _ | .change _ => False

/-- A turn after which the registry will have the same owner in the end. -/
def KeepsHeir (s : Session) (staff : Staff) (turn : Turn) : Prop :=
  ∀ t, s.take? staff turn = some t → t.heir staff = s.heir staff

theorem KeepsHeir.of_take {turn : Turn} (taken : s.take? staff turn = some t)
    (same : t.heir staff = s.heir staff) : s.KeepsHeir staff turn := by
  intro t' taken'
  rw [Option.some.inj (taken'.symm.trans taken)]
  exact same

def Punctual (s : Session) (turn : Turn) : Prop := s.Permitted turn ∧ s.InOrder turn

theorem phantom_iff_haunted (s : Session) (staff : Staff) :
    s.Phantom staff ↔ (s.ledger staff).Haunted := by
  refine and_congr_right fun _ => ⟨?_, ?_⟩
  · intro nobody seat captured
    obtain ⟨region, held, same⟩ := Option.map_eq_some_iff.mp captured
    exact nobody seat region held same
  · intro nobody seat region held same
    refine nobody seat ?_
    rw [← show region.captureWindow = (s.ledger staff).heir from same]
    simp [ledger, held]

theorem AtRest.heir_eq (rest : s.AtRest) : s.heir staff = s.owner staff := by
  unfold heir Ledger.heir
  rw [rest.notices_eq_nil]
  rfl

/-- No report overtakes another. -/
theorem InOrder.first {position : Nat} {d : Delivered} {n : Notice}
    (ordered : s.InOrder (.deliver position)) (hs : s.Housed staff)
    (hd : s.env.journal.messages[position]? = some d) (notice : d.notice? = some n)
    (isReport : n.isReport = true) : ∀ m ∈ s.noticesBefore position, m.isReport = false := by
  intro m member
  obtain ⟨earlier, posted, hm⟩ := List.mem_filterMap.mp member
  cases n with
  | reset => cases isReport
  | report source target =>
      cases m with
      | reset => rfl
      | report source' target' =>
          have window := hs.addressed d (List.mem_of_getElem? hd) _ _
            (Delivered.message_of_report notice)
          have window' := hs.addressed earlier (List.mem_of_mem_take posted) _ _
            (Delivered.message_of_report hm)
          have thread := ordered d hd earlier posted (Delivered.isInFlight_of_notice hm)
            (staff.thread staff.desk) (window ▸ hs.desktop)
          exact absurd (window' ▸ hs.desktop) thread

theorem staleReset_iff {position : Nat} {d : Delivered}
    (hd : s.env.journal.messages[position]? = some d) :
    s.StaleReset staff (.deliver position) ↔
      ∃ n, d.notice? = some n ∧ (s.ledger staff).Stale n := by
  constructor
  · rintro ⟨seat, region, held, found, same⟩
    obtain rfl := Option.some.inj (hd.symm.trans found)
    refine ⟨.reset region.captureWindow, rfl, congrArg Notice.reset same.symm, seat, ?_⟩
    exact (congrArg (Option.map ClipRegion.captureWindow) held).trans (congrArg some same.symm)
  · rintro ⟨n, notice, rfl, seat, captured⟩
    obtain ⟨region, held, same⟩ := Option.map_eq_some_iff.mp captured
    refine ⟨seat, region, held, hd.trans ?_, same.symm⟩
    rw [Delivered.eq_of_reset notice, same]

/-- What a turn does about phantoms. -/
theorem Kept.phantom_iff {turn : Turn} (hs : s.Kept staff) (ok : s.Punctual turn)
    (ht : s.take? staff turn = some t) :
    t.Phantom staff ↔ s.StaleReset staff turn ∨ s.Phantom staff ∧ t.heir staff = s.heir staff := by
  obtain ⟨housed, orderly⟩ := hs
  obtain ⟨permitted, ordered⟩ := ok
  rw [phantom_iff_haunted, phantom_iff_haunted]
  have acted : Ledger.Acts (s.ledger staff) (t.ledger staff) → ¬ s.StaleReset staff turn →
      ((t.ledger staff).Haunted ↔ s.StaleReset staff turn ∨
        (s.ledger staff).Haunted ∧ t.heir staff = s.heir staff) := by
    intro acts fine
    rw [acts.haunted_iff orderly]
    exact ⟨Or.inr, fun h => h.resolve_left fine⟩
  cases turn with
  | call seat call => exact acted (take_call housed orderly permitted ht).2 id
  | change env =>
      cases ht
      exact acted (take_change housed permitted).2 id
  | deliver position =>
      obtain ⟨d, hd, -⟩ := deliver_cases ht
      have stale : s.StaleReset staff (.deliver position) ↔
          ∃ n, d.notice? = some n ∧ (s.ledger staff).Stale n := staleReset_iff hd
      cases notice : d.notice? with
      | none =>
          refine acted (deliver_silent housed orderly permitted hd notice ht).2 fun h => ?_
          obtain ⟨n, found, -⟩ := stale.mp h
          simp [notice] at found
      | some n =>
          obtain ⟨-, delivery⟩ := deliver_notice housed orderly hd notice ht
          obtain ⟨heir, haunted⟩ := delivery.haunted_iff (notices_of_notice hd notice) orderly
            (ordered.first housed hd notice)
          have same : t.heir staff = s.heir staff := heir
          have stale' : s.StaleReset staff (.deliver position) ↔ (s.ledger staff).Stale n := by
            simp [stale, notice]
          rw [haunted, stale', and_iff_left same]

theorem Fresh.not_phantom (fresh : Fresh s staff) : ¬ s.Phantom staff := by
  rintro ⟨named, -⟩
  have rest : s.AtRest := by simp [AtRest, fresh.silent]
  exact named (rest.heir_eq.trans fresh.owner_eq)

/-- A phantom comes from a stale reset, and lasts while the registry hears of no other owner. -/
theorem Run.phantom_iff (fresh : Fresh start staff) (run : Run staff Punctual start s) :
    s.Phantom staff ↔ ∃ u v turn, Run staff Punctual start u ∧ u.Punctual turn ∧
      u.StaleReset staff turn ∧ u.take? staff turn = some v ∧
      Run staff (fun s turn => s.Punctual turn ∧ s.KeepsHeir staff turn) v s := by
  constructor
  · intro phantom
    induction run with
    | start => exact absurd phantom fresh.not_phantom
    | @turn s t turn run ok taken ih =>
        have hs := run.kept fresh fun _ _ ok => ok.1
        rcases (hs.phantom_iff ok taken).mp phantom with stale | ⟨before, same⟩
        · exact ⟨s, t, turn, run, ok, stale, taken, .start⟩
        · obtain ⟨u, v, turn', run', ok', stale, taken', since⟩ := ih before
          exact ⟨u, v, turn', run', ok', stale, taken', since.turn ⟨ok, .of_take taken same⟩ taken⟩
  · rintro ⟨u, v, turn, run', ok, stale, taken, since⟩
    -- from the stale reset on, along the second run only
    have hu := run'.kept fresh fun _ _ ok => ok.1
    have haunted : s.Kept staff ∧ s.Phantom staff := by
      clear run
      induction since with
      | start => exact ⟨hu.take ok.1 taken, (hu.phantom_iff ok taken).mpr (Or.inl stale)⟩
      | turn _ ok taken ih =>
          obtain ⟨kept, phantom⟩ := ih
          exact ⟨kept.take ok.1.1 taken,
            (kept.phantom_iff ok.1 taken).mpr (Or.inr ⟨phantom, ok.2 _ taken⟩)⟩
    exact haunted.2

/-- No window is taken for the owner in error, as long as no reset arrives too late. -/
theorem Run.not_phantom (fresh : Fresh start staff)
    (run : Run staff (fun s turn => s.Punctual turn ∧ ¬ s.StaleReset staff turn) start s) :
    s.Kept staff ∧ ¬ s.Phantom staff := by
  induction run with
  | start => exact ⟨fresh.kept, fresh.not_phantom⟩
  | turn _ ok taken ih =>
      obtain ⟨kept, clear⟩ := ih
      refine ⟨kept.take ok.1.1 taken, fun phantom => ?_⟩
      rcases (kept.phantom_iff ok.1 taken).mp phantom with stale | ⟨before, -⟩
      · exact ok.2 stale
      · exact clear before

/-- Without stale resets the owner at rest is none or a seat that clips. In general, it is a phantom just
if a stale reset was delivered and the registry has not heard of another owner since. -/
theorem phantom_owner_iff_stale_reset (fresh : Fresh start staff) :
    (∀ s, Run staff (fun s turn => s.Punctual turn ∧ ¬ s.StaleReset staff turn) start s → s.AtRest →
      s.owner staff ≠ .null →
        ∃ seat region, s.clip? seat = some region ∧ region.captureWindow = s.owner staff) ∧
    ∀ s, Run staff Punctual start s → s.AtRest →
      ((s.owner staff ≠ .null ∧
        ∀ seat region, s.clip? seat = some region → region.captureWindow ≠ s.owner staff) ↔
      ∃ u v turn, Run staff Punctual start u ∧ u.Punctual turn ∧ u.StaleReset staff turn ∧
        u.take? staff turn = some v ∧
        Run staff (fun s turn => s.Punctual turn ∧ s.KeepsHeir staff turn) v s) := by
  constructor
  · intro s run rest owned
    obtain ⟨-, clear⟩ := run.not_phantom fresh
    rw [Phantom, rest.heir_eq] at clear
    by_contra nobody
    exact clear ⟨owned, fun seat region held same => nobody ⟨seat, region, held, same⟩⟩
  · intro s run rest
    have phantom := run.phantom_iff fresh
    rw [Phantom, rest.heir_eq] at phantom
    exact phantom

theorem Punctual.clip (seat : Nat) (rect : Rect)
    (room : s.env.nextHandle.toNat + 2 * (s.env.queue.length + 1) < UInt64.size) :
    s.Punctual (.call seat (.clipCursor (some rect))) := ⟨.clip seat rect room, trivial⟩

theorem Punctual.deliver_first (room : s.env.nextHandle.toNat + 2 < UInt64.size) :
    s.Punctual (.deliver 0) := ⟨room, by simp [InOrder]⟩

/-- A seat that moves its clip after another has clipped leaves a phantom. -/
theorem phantom_owner_of_moved_clip :
    ∃ s, Run .three Punctual (trio ⟨0, 0, 1920, 1080⟩) s ∧ s.AtRest ∧ s.owner .three ≠ .null ∧
      ∀ seat region, s.clip? seat = some region → region.captureWindow ≠ s.owner .three := by
  have first : Run .three Punctual (trio ⟨0, 0, 1920, 1080⟩) _ :=
    .turn .start (.clip 1 ⟨0, 0, 800, 600⟩ (by decide)) rfl
  have second : Run .three Punctual _ _ := .turn first (.clip 2 ⟨0, 0, 400, 300⟩ (by decide)) rfl
  have heard : Run .three Punctual _ _ := .turn second (.deliver_first (by decide)) rfl
  have ruled : Run .three Punctual _ _ := .turn heard (.deliver_first (by decide)) rfl
  -- the reset of the first seat is under way now, and its report comes behind
  have moved : Run .three Punctual _ _ := .turn ruled (.clip 1 ⟨0, 0, 200, 100⟩ (by decide)) rfl
  have stale : Run .three Punctual _ _ := .turn moved (.deliver_first (by decide)) rfl
  have misled : Run .three Punctual _ _ := .turn stale (.deliver_first (by decide)) rfl
  have evicted : Run .three Punctual _ _ := .turn misled (.deliver_first (by decide)) rfl
  have phantom := (phantom_owner_iff_stale_reset (fresh_trio _)).2 _ evicted (by decide)
  refine ⟨_, evicted, by decide, phantom.mpr
    ⟨_, _, .deliver 0, moved, .deliver_first (by decide), ?stale, rfl, ?since⟩⟩
  case stale => exact ⟨1, ⟨⟨0, 0, 200, 100⟩, ⟨0x20000⟩, .explicit⟩, by decide, by decide, by decide⟩
  case since =>
    exact .turn
      (.turn .start ⟨.deliver_first (by decide), .of_take rfl (by decide)⟩ rfl)
      ⟨.deliver_first (by decide), .of_take rfl (by decide)⟩ rfl

end Session

end GuestSeat
