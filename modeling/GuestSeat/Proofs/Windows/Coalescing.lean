import GuestSeat.Proofs.Drain.Oblivious
import GuestSeat.Proofs.Windows.Placement

/-!
Geometry that is out of date when it is looked at. Of a run of events about the geometry of one window a
drain handles the last one only. Had the others been handled before it, every window would still end up
where it does: an event that is followed leads to a place that does not depend on where the window was,
and what keeps a newer event from being followed has kept off the older ones too.
-/

namespace GuestSeat

/-- A serial from the first half of the range. Among these, the numbers show which was given out first. -/
def Serial.IsYoung (s : Serial) : Prop := s.value.toNat < 0x8000000000000000

theorem Serial.precedes_iff_of_isYoung {a b : Serial} (young : a.IsYoung) (young' : b.IsYoung) :
    a.precedes b = true ↔ a.value.toNat < b.value.toNat := by
  unfold IsYoung at young young'
  unfold precedes
  rw [decide_eq_true_iff, UInt64.toNat_sub]
  omega

theorem signedExtent_of_lt {size : UInt32} (small : size.toNat < 0x80000000) :
    signedExtent size = size.toNat := by
  show size.toBitVec.toInt = size.toNat
  apply BitVec.toInt_eq_toNat_of_lt
  have small : size.toBitVec.toNat < 0x80000000 := small
  omega

namespace Rect

theorem isEmpty_offset (r : Rect) (dx dy : Int) : (r.offset dx dy).isEmpty = r.isEmpty := by
  simp [isEmpty, offset]

theorem isEmpty_ofSize (x y : Int) {width height : UInt32} (wide : 0 < signedExtent width)
    (high : 0 < signedExtent height) : (ofSize x y width height).isEmpty = false := by
  unfold isEmpty ofSize
  rw [Bool.or_eq_false_iff, decide_eq_false_iff_not, decide_eq_false_iff_not]
  dsimp only
  omega

end Rect

namespace Scene

/-- The guest window that a host window's own events concern. -/
def behind (env : Environment) (w : HostWindow) : Handle :=
  match env.lookup? w with
  | some h => h
  | none => if w == Environment.root then Environment.desktop else Handle.null

/-- Whether an event tells of the geometry of a host window in terms that do not wrap around. -/
structure TellsGeometry (w : HostWindow) (sent : Bool) (event : EventRecord) (e : ConfigureEvent) : Prop where
  kind : event.kind = .configure e
  window : event.window = w
  sent : event.sent = sent
  young : event.serial.IsYoung
  wide : 0 < e.width.toNat
  high : 0 < e.height.toNat
  width : e.width.toNat < 0x80000000
  height : e.height.toNat < 0x80000000

/-- Whether the place of a window can be told from events about it alone: guest and host agree on whether
it is maximized, it is not inside itself, where its place comes from its place before nothing is scaled,
and the geometry request that it waits for is young. -/
structure Predictable (s : Scene) (h : Handle) (sent : Bool) : Prop where
  agrees : ∀ info host, s.env.info? h = some info → info.host = some host →
    (s.env.netState host).contains NetState.maximized = info.style.isMaximized
  apart : ∀ info, s.env.info? h = some info → info.parent ≠ h
  unscaled : sent = false → isTopLevel s.env h = true → s.env.map.scale = none
  young : ∀ request, (s.window h).configureFence = Fence.armed request → request.IsYoung

variable {s : Scene} {h : Handle} {w : HostWindow} {sent : Bool} {info : WindowInfo}
  {event next : EventRecord} {e e' : ConfigureEvent}

theorem target_of_tellsGeometry (reports : TellsGeometry w sent event e) (env : Environment) :
    target env event = behind env w := by
  unfold target behind
  cases known : env.lookup? w <;> simp only [reports.kind, reports.window, known]

theorem Predictable.dispatch (predictable : s.Predictable h sent) (kind : event.kind = .configure e)
    (about : target s.env event = h) : (s.dispatch event).1.Predictable h sent := by
  have reframes := about ▸ reframes_dispatch (s := s) kind
  refine ⟨?_, fun info => reframes.apart predictable.apart, ?_, ?_⟩
  · intro after host known hosted
    obtain ⟨info, window, client, before, rfl⟩ := reframes.own after known
    rw [reframes.netState]
    exact predictable.agrees info host before hosted
  · unfold isTopLevel
    rw [reframes.parent, reframes.map]
    exact predictable.unscaled
  · intro request armed
    apply predictable.young request
    rw [← armed]
    exact (view_dispatch ManagedState.configureFence (fun _ _ => rfl) kind h).symm

theorem overdue?_of_agrees {env : Environment} (agrees : ∀ host, info.host = some host →
    (env.netState host).contains NetState.maximized = info.style.isMaximized) :
    overdue? env info = none := by
  unfold overdue?
  cases hosted : info.host with
  | none => rfl
  | some host =>
      have same := agrees host hosted
      rw [Option.filter_some]
      split
      · unfold maximization?
        rw [Option.bind_some, same]
        cases info.style.isMaximized <;> rfl
      · rfl

/-- A newer event is followed where an older one is. -/
theorem followsGeometry_newer (reports : TellsGeometry w sent event e) (newer : TellsGeometry w sent next e')
    (order : event.serial.value.toNat ≤ next.serial.value.toNat)
    (young : ∀ request, (s.window h).configureFence = Fence.armed request → request.IsYoung)
    (allowed : followsGeometry info (s.window h) event = true) :
    followsGeometry info (s.window h) next = true := by
  have passes : (s.window h).configureFence.holdsBack event.serial = false →
      (s.window h).configureFence.holdsBack next.serial = false := by
    unfold Fence.holdsBack
    cases armed : (s.window h).configureFence.serial with
    | none => exact id
    | some request =>
        have limit : request.IsYoung := young request (congrArg Fence.mk armed)
        dsimp only
        rw [← Bool.not_eq_true, ← Bool.not_eq_true, Serial.precedes_iff_of_isYoung reports.young limit,
          Serial.precedes_iff_of_isYoung newer.young limit]
        omega
  unfold followsGeometry at allowed ⊢
  simp only [Bool.and_eq_true, Bool.not_eq_true', reports.sent, newer.sent] at allowed ⊢
  obtain ⟨⟨⟨⟨⟨mapped, free⟩, ours⟩, honest⟩, timely⟩, settled⟩ := allowed
  exact ⟨⟨⟨⟨⟨mapped, free⟩, ours⟩, honest⟩, passes timely⟩, settled⟩

theorem isEmpty_configuredRect (reports : TellsGeometry w sent event e) (env : Environment) :
    (configuredRect env h event e).isEmpty = false := by
  have wide : 0 < signedExtent e.width := by
    rw [signedExtent_of_lt reports.width]
    exact_mod_cast reports.wide
  have high : 0 < signedExtent e.height := by
    rw [signedExtent_of_lt reports.height]
    exact_mod_cast reports.high
  unfold configuredRect
  dsimp only
  split
  · split
    · exact Rect.isEmpty_ofSize _ _ wide high
    · rw [Rect.isEmpty_offset]
      exact Rect.isEmpty_ofSize _ _ wide high
  · exact Rect.isEmpty_ofSize _ _ wide high

/-- An event that was ignored changes nothing about the next one. -/
theorem geometry?_after_ignored (kind : event.kind = .configure e) (kind' : next.kind = .configure e')
    (ignored : ∀ info, ¬ s.Follows (target s.env event) info event) (k : Handle) :
    Environment.geometry? ((s.dispatch event).1.dispatch next).1.env k =
      Environment.geometry? (s.dispatch next).1.env k := by
  have still := backdrop_dispatch kind ignored
  have keeps {α : Type} (f : Environment → α) (blind : ∀ env : Environment, f env.backdrop = f env) :
      f (s.dispatch event).1.env = f s.env := Environment.eq_of_backdrop still f blind
  have before : ∀ h info, (s.dispatch event).1.Follows h info next → s.Follows h info next :=
    fun h info => Follows.of_backdrop still (followsGeometry_dispatch kind next h)
  by_cases goes : ∃ info, s.Follows (target s.env next) info next
  · obtain ⟨info, follows⟩ := goes
    have later := Follows.of_backdrop still.symm (followsGeometry_dispatch kind next _).symm follows
    rw [geometry?_dispatch_of_follows kind' later, geometry?_dispatch_of_follows kind' follows]
    rw [keeps (fun env => configuredRect env _ next e') fun _ => rfl,
      keeps (fun env => env.geometry? k) fun _ => rfl]
  · have about := target_dispatch (s := s) kind next
    rw [geometry?_dispatch_of_ignored kind' (not_exists.mp goes), geometry?_dispatch_of_ignored kind']
    · exact keeps (fun env => env.geometry? k) fun _ => rfl
    · intro info later
      rw [about] at later
      exact goes ⟨info, before _ info later⟩

/-- An event about the geometry of a window leaves no trace in it once a newer one was handled. -/
theorem geometry?_superseded (reports : TellsGeometry w sent event e) (newer : TellsGeometry w sent next e')
    (order : event.serial.value.toNat ≤ next.serial.value.toNat)
    (predictable : (behind s.env w).isNull = false → s.Predictable (behind s.env w) sent) (k : Handle) :
    Environment.geometry? ((s.dispatch event).1.dispatch next).1.env k =
      Environment.geometry? (s.dispatch next).1.env k := by
  have about := target_of_tellsGeometry reports s.env
  have about' := target_of_tellsGeometry newer s.env
  by_cases goes : ∃ info, s.Follows (target s.env event) info event
  · obtain ⟨info, follows⟩ := goes
    rw [about] at follows
    have predictable := predictable follows.concerns.2
    -- what would keep the newer event off had kept off the older one
    have direct : s.Follows (behind s.env w) info next := {
      concerns := ⟨about', follows.concerns.2⟩
      known := follows.known
      allowed := followsGeometry_newer reports newer order predictable.young follows.allowed
      timely := follows.timely }
    have brought := env_dispatch_of_follows reports.kind follows
    obtain ⟨client, known⟩ := Environment.info?_bring (configuredRect s.env _ event e) follows.known
    rw [← brought] at known
    have predictable' := predictable.dispatch reports.kind about
    have later : (s.dispatch event).1.Follows (behind s.env w) _ next := {
      concerns := ⟨(target_dispatch reports.kind next).trans about', follows.concerns.2⟩
      known
      allowed := (followsGeometry_dispatch reports.kind next _).trans direct.allowed
      timely := overdue?_of_agrees fun host => predictable'.agrees _ host known }
    have place : configuredRect (s.dispatch event).1.env (behind s.env w) next e' =
        configuredRect s.env (behind s.env w) next e' := by
      rw [brought]
      exact configuredRect_bring follows.known (predictable.apart info follows.known)
        (newer.window.trans reports.window.symm) (newer.sent.trans reports.sent.symm)
        (fun own => predictable.unscaled (reports.sent.symm.trans own)) e e'
    rw [geometry?_dispatch_of_follows newer.kind later, geometry?_dispatch_of_follows newer.kind direct,
      place, geometry?_dispatch_of_follows reports.kind follows]
    split
    · exact congrArg some (Rect.broughtTo_onward _ _ _ (isEmpty_configuredRect reports s.env))
    · rfl
  · -- the older event came to nothing, so the newer one finds everything as it was
    exact geometry?_after_ignored reports.kind newer.kind (not_exists.mp goes) k

/-- Of a run of events about the geometry of a window, the last one decides. -/
theorem geometry?_dispatchAll {first : EventRecord} {rest : List EventRecord}
    (reports : ∀ event ∈ first :: rest, ∃ e, TellsGeometry w sent event e)
    (ordered : (first :: rest).Pairwise fun a b => a.serial.value.toNat ≤ b.serial.value.toNat)
    (predictable : (behind s.env w).isNull = false → s.Predictable (behind s.env w) sent) (k : Handle) :
    Environment.geometry? (s.dispatchAll (first :: rest)).1.env k =
      Environment.geometry? (s.dispatch ((first :: rest).getLast (List.cons_ne_nil _ _))).1.env k := by
  induction rest generalizing s first with
  | nil => rfl
  | cons second rest ih =>
      obtain ⟨e, report⟩ := reports first List.mem_cons_self
      obtain ⟨older, ordered⟩ := List.pairwise_cons.mp ordered
      let last := (second :: rest).getLast (List.cons_ne_nil _ _)
      have member : last ∈ second :: rest := List.getLast_mem _
      obtain ⟨e', newest⟩ := reports last (List.mem_cons_of_mem _ member)
      have about := target_of_tellsGeometry report s.env
      have same : behind (s.dispatch first).1.env w = behind s.env w := by
        rw [← target_of_tellsGeometry report, target_dispatch report.kind, about]
      have later := ih (fun event among => reports event (List.mem_cons_of_mem _ among)) ordered
        (s := (s.dispatch first).1) (by
          rw [same]
          exact fun there => (predictable there).dispatch report.kind about)
      exact later.trans (geometry?_superseded report newest (older last member) predictable k)

/-- It is also the only one that a drain handles. -/
theorem drainAfter_of_tellsGeometry {waiting : EventRecord} {rest : List EventRecord}
    (reports : ∀ event ∈ waiting :: rest, ∃ e, TellsGeometry w sent event e) :
    s.drainAfter waiting rest = s.dispatch ((waiting :: rest).getLast (List.cons_ne_nil _ _)) := by
  induction rest generalizing waiting with
  | nil => rfl
  | cons next rest ih =>
      obtain ⟨e, older⟩ := reports waiting List.mem_cons_self
      obtain ⟨e', newer⟩ := reports next (List.mem_cons_of_mem _ List.mem_cons_self)
      have merged : merge s.mergeContext waiting next = ⟨.discard, waiting, next⟩ := by
        unfold merge
        rw [older.kind, newer.kind]
        dsimp only
        rw [if_pos (older.window.trans newer.window.symm)]
      unfold drainAfter
      rw [merged]
      exact ih fun event among => reports event (List.mem_cons_of_mem _ among)

/-- A drain of a queue with nothing in it but geometry of one host window leaves every window with the
geometry that it has after all those events were handled one after the other. -/
theorem drain_keeps_geometry
    (reports : ∀ event ∈ s.env.queue, ∃ e, TellsGeometry w sent event e)
    (ordered : s.env.queue.Pairwise fun a b => a.serial.value.toNat ≤ b.serial.value.toNat)
    (predictable : (behind s.env w).isNull = false → s.Predictable (behind s.env w) sent) (k : Handle) :
    Environment.geometry? (s.drain QueueMask.allInput).1.env k =
      Environment.geometry? (s.dispatchAll s.env.queue).1.env k := by
  have taken : s.accepted QueueMask.allInput = s.env.queue := by
    have everything : QueueMask.allInput.contains QueueMask.allInput = true := by decide
    refine List.filter_eq_self.mpr fun event _ => ?_
    unfold EventRecord.matchesMask
    rw [everything, Bool.true_or]
  have flushed : Environment.geometry? (s.drain QueueMask.allInput).1.env k =
      Environment.geometry? ((s.withQueue (s.rejected QueueMask.allInput)).drainAll
        (s.accepted QueueMask.allInput)).1.env k := rfl
  rw [flushed, taken]
  cases queue : s.env.queue with
  | nil => rfl
  | cons first rest =>
      rw [queue] at reports ordered
      have handled : (s.withQueue (s.rejected QueueMask.allInput)).drainAll (first :: rest) =
          (s.withQueue (s.rejected QueueMask.allInput)).dispatch
            ((first :: rest).getLast (List.cons_ne_nil _ _)) := drainAfter_of_tellsGeometry reports
      rw [handled, dispatch_withQueue, geometry?_dispatchAll reports ordered predictable]
      rfl

def dragStep (serial : Serial) (place : Point) : EventRecord :=
  { serial, window := ⟨0x4000001⟩, sent := true, kind := .configure ⟨place, 640, 480⟩ }

def dragged : Scene :=
  let s := alone ⟨0, 0, 1920, 1080⟩
  let env := (s.env.createWindow WindowStyle.visible ⟨0, 0, 800, 600⟩).1
  { s with env := env.withQueue [dragStep ⟨1⟩ ⟨100, 50⟩, dragStep ⟨2⟩ ⟨200, 90⟩] }

/-- It ends up at the second place, whether the first step is handled or not. -/
theorem dragged_ends_up :
    Environment.geometry? (dragged.drain QueueMask.allInput).1.env ⟨0x20000⟩ = some ⟨200, 90, 840, 570⟩ ∧
      Environment.geometry? (dragged.dispatchAll dragged.env.queue).1.env ⟨0x20000⟩ =
        some ⟨200, 90, 840, 570⟩ := by
  have about : behind dragged.env ⟨0x4000001⟩ = ⟨0x20000⟩ := by decide +kernel
  have reports : ∀ event ∈ dragged.env.queue, ∃ e, TellsGeometry ⟨0x4000001⟩ true event e := by
    have step : ∀ (serial : Serial) (place : Point), serial.IsYoung →
        TellsGeometry ⟨0x4000001⟩ true (dragStep serial place) ⟨place, 640, 480⟩ :=
      fun _ _ young =>
        { kind := rfl, window := rfl, sent := rfl, young
          wide := show 0 < (640 : UInt32).toNat by decide
          high := show 0 < (480 : UInt32).toNat by decide
          width := show (640 : UInt32).toNat < 0x80000000 by decide
          height := show (480 : UInt32).toNat < 0x80000000 by decide }
    intro event member
    obtain rfl | rfl := List.mem_pair.mp member
    · exact ⟨_, step ⟨1⟩ _ (show 1 < 0x8000000000000000 by decide)⟩
    · exact ⟨_, step ⟨2⟩ _ (show 2 < 0x8000000000000000 by decide)⟩
  have predictable : dragged.Predictable (behind dragged.env ⟨0x4000001⟩) true := by
    rw [about]
    refine ⟨?_, ?_, nofun, nofun⟩
    · rintro info host known hosted
      obtain rfl := Option.some.inj known
      obtain rfl := Option.some.inj hosted
      decide +kernel
    · rintro info known
      obtain rfl := Option.some.inj known
      decide +kernel
  have same := drain_keeps_geometry reports (by decide) (fun _ => predictable) ⟨0x20000⟩
  have last : Environment.geometry? (dragged.dispatchAll dragged.env.queue).1.env ⟨0x20000⟩ =
      some ⟨200, 90, 840, 570⟩ := by decide +kernel
  exact ⟨same.trans last, last⟩

end Scene

end GuestSeat
