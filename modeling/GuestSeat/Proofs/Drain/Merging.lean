import GuestSeat.Merge

/-!
What can become of two events that meet in a drain. A newer snapshot takes the place of an older one of
the same window, some events pass a snapshot that waits, raw motion is added up, and all else stays
apart.
-/

namespace GuestSeat

namespace EventRecord

variable {d e p n : EventRecord}

/-- Whether `n` brings the geometry, or the motion, of a host window up to date that `p` told of. -/
def Updates (n p : EventRecord) : Prop :=
  (p.tag = .configure ∨ p.tag = .motion) ∧ n.tag = p.tag ∧ n.window = p.window

/-- Whether `n` may be handled before `p`, which came earlier. -/
def MayPass (n p : EventRecord) : Prop :=
  p.tag = .configure ∧ (n.tag = .expose ∨ n.tag = .property) ∨
    p.tag = .motion ∧ n.tag = .rawMotion

def IsPlain (e : EventRecord) : Prop :=
  e.tag ≠ .configure ∧ e.tag ≠ .motion ∧ e.tag ≠ .rawMotion

/-- Whether `d` is `e`, but for the axis values of raw motion. -/
def IsFrom (d e : EventRecord) : Prop :=
  d = e ∨ ∃ raw values, e.kind = .generic (.rawMotion raw) ∧
    d = e.withRawMotion { raw with valuators := { raw.valuators with values } }

theorem IsFrom.refl (e : EventRecord) : e.IsFrom e := Or.inl rfl

theorem IsFrom.trans {f : EventRecord} (first : d.IsFrom e) (second : e.IsFrom f) : d.IsFrom f := by
  rcases first with rfl | ⟨raw, values, hkind, rfl⟩
  · exact second
  · rcases second with rfl | ⟨raw', values', hkind', rfl⟩
    · exact Or.inr ⟨raw, values, hkind, rfl⟩
    · -- the values of the first change replace those of the second
      cases hkind
      exact Or.inr ⟨raw', values, hkind', rfl⟩

/-- Only raw motion is ever changed. -/
theorem IsFrom.eq_of_tag_ne (h : d.IsFrom e) (other : e.tag ≠ .rawMotion) : d = e := by
  rcases h with rfl | ⟨raw, values, hkind, rfl⟩
  · rfl
  · refine absurd ?_ other
    simp [EventRecord.tag, hkind, EventKind.tag]

theorem Updates.tag_ne_rawMotion (h : n.Updates p) : p.tag ≠ .rawMotion := by
  intro raw
  rcases h.1 with snapshot | snapshot <;> rw [raw] at snapshot <;> cases snapshot

theorem MayPass.tag_ne_rawMotion (h : n.MayPass p) : p.tag ≠ .rawMotion := by
  intro raw
  rcases h with ⟨snapshot, -⟩ | ⟨snapshot, -⟩ <;> rw [raw] at snapshot <;> cases snapshot

/-- What passes a snapshot is no snapshot itself. -/
theorem MayPass.not_updates {m : EventRecord} (h : n.MayPass p) : ¬ m.Updates n := by
  rintro ⟨snapshot, -, -⟩
  rcases h with ⟨-, passing | passing⟩ | ⟨-, passing⟩ <;> rw [passing] at snapshot <;>
    simp at snapshot

end EventRecord

/-- Whether the axes of two raw events are nested, so that the values of one can be added to the
other. -/
def Valuators.Nests {ν : Type} (p n : Valuators ν) : Prop :=
  p.isEmpty = false ∧ n.isEmpty = false ∧
    (p.mask ||| n.mask = n.mask ∨ p.mask ||| n.mask = p.mask)

inductive Meeting (context : MergeContext) (p n : EventRecord) : Merged → Prop
  | updated (h : n.Updates p) : Meeting context p n ⟨.discard, p, n⟩
  | passed (h : n.MayPass p) : Meeting context p n ⟨.keep, p, n⟩
  /-- The older raw event is added to the newer one, which has all its axes. -/
  | addedToNewer (older newer : RawMotionEvent Float) (hp : p.kind = .generic (.rawMotion older))
      (hn : n.kind = .generic (.rawMotion newer)) (allowed : context.allowsRaw)
      (nested : older.valuators.Nests newer.valuators)
      (wider : older.valuators.mask ||| newer.valuators.mask = newer.valuators.mask) :
      Meeting context p n ⟨.discard, p, n.withRawMotion
        { newer with valuators := newer.valuators.plus older.valuators }⟩
  /-- The newer raw event is added to the older one, which has more axes. -/
  | addedToOlder (older newer : RawMotionEvent Float) (hp : p.kind = .generic (.rawMotion older))
      (hn : n.kind = .generic (.rawMotion newer)) (allowed : context.allowsRaw)
      (nested : older.valuators.Nests newer.valuators)
      (wider : older.valuators.mask ||| newer.valuators.mask = older.valuators.mask) :
      Meeting context p n ⟨.ignore, p.withRawMotion
        { older with valuators := older.valuators.plus newer.valuators }, n⟩
  /-- Raw events are kept apart only if their axes are not nested, or for the sake of the context. -/
  | apart (disjoint : ∀ older newer, p.kind = .generic (.rawMotion older) →
        n.kind = .generic (.rawMotion newer) → context.allowsRaw →
        ¬ older.valuators.Nests newer.valuators) : Meeting context p n ⟨.handle, p, n⟩

theorem withRawMotion_self {e : EventRecord} {raw : RawMotionEvent Float}
    (h : e.kind = .generic (.rawMotion raw)) : e.withRawMotion raw = e := by
  cases e
  cases h
  rfl

/-- Two raw events meet. -/
theorem meeting_mergeRaw {context : MergeContext} {p n : EventRecord}
    {older newer : RawMotionEvent Float} (hp : p.kind = .generic (.rawMotion older))
    (hn : n.kind = .generic (.rawMotion newer)) (allowed : context.allowsRaw) :
    Meeting context p n (mergeRaw p n older newer) := by
  have eta_p := withRawMotion_self hp
  have eta_n := withRawMotion_self hn
  have separate : ¬ older.valuators.Nests newer.valuators → Meeting context p n ⟨.handle, p, n⟩ := by
    intro hnest
    apply Meeting.apart
    intro older' newer' hp' hn' _
    cases hp.symm.trans hp'
    cases hn.symm.trans hn'
    exact hnest
  unfold mergeRaw mergeValuators
  by_cases empty : older.valuators.isEmpty || newer.valuators.isEmpty
  · simp only [if_pos empty, eta_p, eta_n]
    exact separate fun hnest => by simp [hnest.1, hnest.2.1] at empty
  · rw [if_neg empty]
    obtain ⟨filled, filled'⟩ : older.valuators.isEmpty = false ∧ newer.valuators.isEmpty = false := by
      simpa using empty
    by_cases wider : older.valuators.mask ||| newer.valuators.mask = newer.valuators.mask
    · simp only [if_pos wider, eta_p]
      exact .addedToNewer older newer hp hn allowed ⟨filled, filled', Or.inl wider⟩ wider
    · by_cases narrower : older.valuators.mask ||| newer.valuators.mask = older.valuators.mask
      · simp only [if_neg wider, if_pos narrower, eta_n]
        exact .addedToOlder older newer hp hn allowed ⟨filled, filled', Or.inr narrower⟩ narrower
      · simp only [if_neg wider, if_neg narrower, eta_p, eta_n]
        exact separate fun hnest => hnest.2.2.elim wider narrower

/-- Two snapshots of a kind meet. -/
theorem meeting_snapshots {context : MergeContext} {p n : EventRecord}
    (snapshot : p.tag = .configure ∨ p.tag = .motion) (same : n.tag = p.tag) :
    Meeting context p n ⟨if p.window = n.window then .discard else .handle, p, n⟩ := by
  by_cases window : p.window = n.window
  · rw [if_pos window]
    exact .updated ⟨snapshot, same, window.symm⟩
  · rw [if_neg window]
    apply Meeting.apart
    intro older newer hp _ _
    simp [EventRecord.tag, hp, EventKind.tag] at snapshot

/-- Merging comes to one of the listed meetings. -/
theorem meeting_merge (context : MergeContext) (p n : EventRecord) :
    Meeting context p n (merge context p n) := by
  have tag_of : ∀ {e : EventRecord} {kind : EventKind}, e.kind = kind → e.tag = kind.tag :=
    fun h => congrArg EventKind.tag h
  unfold merge
  dsimp only
  split
  · next hp hn => exact meeting_snapshots (Or.inl (tag_of hp)) ((tag_of hn).trans (tag_of hp).symm)
  · next hp hn => exact .passed (Or.inl ⟨tag_of hp, Or.inl (tag_of hn)⟩)
  · next hp hn => exact .passed (Or.inl ⟨tag_of hp, Or.inr (tag_of hn)⟩)
  · next hp hn => exact meeting_snapshots (Or.inr (tag_of hp)) ((tag_of hn).trans (tag_of hp).symm)
  · next hp hn =>
      by_cases allowed : context.allowsRaw
      · rw [if_pos allowed]
        exact .passed (Or.inr ⟨tag_of hp, tag_of hn⟩)
      · rw [if_neg allowed]
        exact .apart fun _ _ _ _ allowed' => absurd allowed' allowed
  · next older newer hp hn =>
      by_cases allowed : context.allowsRaw
      · rw [if_pos allowed]
        exact meeting_mergeRaw hp hn allowed
      · rw [if_neg allowed]
        exact .apart fun _ _ _ _ allowed' => absurd allowed' allowed
  · next other =>
      exact .apart fun older newer hp hn _ => (other older newer hp hn).elim

end GuestSeat
