import GuestSeat.Proofs.Drain.Trail
import GuestSeat.Proofs.Pointer.Action

/-!
The warp fence of a clip. Until the host has warped the pointer, moves of it are out of date. The first move
without a guest window that is not older than the warp shows that it is over: that one and all that come after it
count, whatever their serials, and all before it are dropped. Nothing else looks at the fence or changes it, be it
a key, a button, raw motion or whatever happens on guest windows.
-/

namespace GuestSeat

/-- In the order of serials that wrap around, a step of less than half the range forward or at most half the range
back, `a` precedes `b` exactly if the step from `b` to `a` goes back. -/
theorem Serial.precedes_iff {a b : Serial} {step : Int} (back : -0x8000000000000000 ≤ step)
    (forth : step < 0x8000000000000000) (apart : a.value.toNat = (b.value.toNat + step) % UInt64.size) :
    a.precedes b = true ↔ step < 0 := by
  have below : a.value.toNat < UInt64.size := a.value.toNat_lt
  have below' : b.value.toNat < UInt64.size := b.value.toNat_lt
  unfold precedes
  rw [decide_eq_true_iff, UInt64.toNat_sub]
  simp only [UInt64.size] at *
  omega

namespace Scene

def withFence (s : Scene) (f : Fence) : Scene := s.edit fun i => { i with warpFence := f }

/-- What the fate of a pointer event depends on while there is a clip, but for the fence. -/
structure Footing where
  config : Config
  clip : Option ClipRegion
  surface : Option HostWindow
  lookup : HostWindow → Option Handle

def footing (s : Scene) : Footing where
  config := s.seat.config
  clip := s.seat.input.clip
  surface := s.seat.input.captureSurface
  lookup := s.env.lookup?

variable {s : Scene} {event : EventRecord} {h : Handle}

@[simp] theorem withFence_self (s : Scene) : s.withFence s.seat.input.warpFence = s := rfl

@[simp] theorem showCursor_withFence (s : Scene) (f : Fence) (w : HostWindow) (cursor : Option CursorId) :
    (s.withFence f).showCursor w cursor = (s.showCursor w cursor).withFence f := by
  cases cursor <;> rfl

@[simp] theorem visit_withFence (s : Scene) (f : Fence) (h : Handle) (host : Option HostWindow) :
    (s.withFence f).visit h host = (s.visit h host).withFence f := by
  have entered : (s.withFence f).enterWindow h = (s.enterWindow h).map (withFence · f) id := rfl
  unfold visit
  rw [entered]
  rcases s.enterWindow h with ⟨t, renewed⟩
  cases renewed with
  | false => cases host <;> rfl
  | true =>
      cases host with
      | none => rfl
      | some w => exact t.showCursor_withFence f w _

@[simp] theorem feedMouse_withFence (s : Scene) (f : Fence) (h : Handle) (p : Point) (a : PointerAction) :
    (s.withFence f).feedMouse h p a = (s.feedMouse h p a).withFence f := rfl

theorem captureMouse_withFence (clipping : s.seat.input.isClipping = true) (f : Fence) (a : PointerAction) :
    (s.withFence f).captureMouse a = (s.captureMouse a).map (withFence · f) id := by
  obtain ⟨region, held⟩ := Option.isSome_iff_exists.mp clipping
  by_cases surface : s.seat.input.captureSurface = some a.host
  · have caught := captureMouse_on (s := s.withFence f) held surface
    rw [caught, captureMouse_on held surface, visit_withFence, feedMouse_withFence]
    rfl
  · have aside := captureMouse_aside (s := s.withFence f) surface
    rw [aside, captureMouse_aside surface]
    rfl

theorem windowMouse_withFence (clipping : s.seat.input.isClipping = true) (f : Fence) (h : Handle)
    (a : PointerAction) : (s.withFence f).windowMouse h a = (s.windowMouse h a).map (withFence · f) id := by
  cases known : s.env.info? h with
  | none =>
      have unknown : (s.withFence f).env.info? h = none := known
      simp [windowMouse, known, unknown]
  | some info =>
      have told := windowMouse_of_clipping (s := s.withFence f) (a := a) clipping known
      rw [told, windowMouse_of_clipping clipping known, visit_withFence, feedMouse_withFence]
      rfl

theorem sendMouse_withFence (clipping : s.seat.input.isClipping = true) (f : Fence) (h : Handle)
    (a : PointerAction) : (s.withFence f).sendMouse h a = (s.sendMouse h a).map (withFence · f) id := by
  unfold sendMouse
  split
  · exact captureMouse_withFence clipping f a
  · exact windowMouse_withFence clipping f h a

theorem accumulateRaw_withFence (f : Fence) (raw : RawMotionEvent Float) :
    (s.withFence f).accumulateRaw raw = (s.accumulateRaw raw).map (withFence · f) id := by
  have same : (s.withFence f).seat.input.raw.accumulate raw (s.withFence f).env.virtualScreen =
      s.seat.input.raw.accumulate raw s.env.virtualScreen := rfl
  unfold accumulateRaw
  rw [same]
  rcases s.seat.input.raw.accumulate raw s.env.virtualScreen with ⟨accumulator, outcome⟩
  cases outcome <;> rfl

/-- Unless it is a move of the pointer without a guest window, an event is handled alike whatever the fence. -/
theorem handle_withFence (clipping : s.seat.input.isClipping = true)
    (whole : s.seat.config.pointer.brokenRawEvents = false) (input : event.tag ∈ inputTags)
    (apart : tellsOfMove event = true → h.isNull = false) (f : Fence) :
    (s.withFence f).handle h event = (s.handle h event).map (withFence · f) id := by
  obtain ⟨a, about⟩ | ⟨e, kind⟩ | ⟨raw, kind⟩ | idle := input_cases input
  · rw [handle_of_action about, handle_of_action about]
    split
    · next moves =>
        unfold moveTo
        rw [if_neg (by simp [apart moves]), if_neg (by simp [apart moves])]
        exact sendMouse_withFence clipping f h a
    · exact sendMouse_withFence clipping f h a
  · simp only [handle, kind, key]
    split <;> rfl
  · have pass : (s.withFence f).seat.config.pointer.brokenRawEvents = false := whole
    simp only [handle, kind, rawMotion, whole, pass]
    exact accumulateRaw_withFence f raw
  · rw [idle, idle]
    rfl

theorem footing_visit (s : Scene) (h : Handle) (host : Option HostWindow) :
    (s.visit h host).footing = s.footing := by
  obtain ⟨tracker, realizer, env, visited, rfl | ⟨request, rfl⟩⟩ := s.visit_cases h host <;> rw [visited] <;> rfl

theorem footing_sendMouse (clipping : s.seat.input.isClipping = true) (h : Handle) (a : PointerAction) :
    (s.sendMouse h a).1.footing = s.footing := by
  unfold sendMouse
  split
  · obtain ⟨region, held⟩ := Option.isSome_iff_exists.mp clipping
    by_cases surface : s.seat.input.captureSurface = some a.host
    · rw [captureMouse_on held surface]
      exact s.footing_visit _ _
    · rw [captureMouse_aside surface]
  · cases known : s.env.info? h with
    | none => simp [windowMouse, known]
    | some info =>
        rw [windowMouse_of_clipping clipping known]
        exact s.footing_visit _ _

theorem footing_moveTo (clipping : s.seat.input.isClipping = true) (h : Handle) (serial : Serial)
    (a : PointerAction) : (s.moveTo h serial a).1.footing = s.footing := by
  cases named : h.isNull with
  | true =>
      obtain rfl : h = Handle.null := eq_of_beq named
      rw [moveTo_of_null]
      split
      · rfl
      · exact footing_sendMouse (s := s.warped) clipping Handle.null a
  | false =>
      unfold moveTo
      rw [if_neg (by simp [named])]
      exact footing_sendMouse clipping h a

theorem footing_accumulateRaw (s : Scene) (raw : RawMotionEvent Float) :
    (s.accumulateRaw raw).1.footing = s.footing := by
  unfold accumulateRaw
  dsimp only
  split <;> rfl

theorem footing_handle (clipping : s.seat.input.isClipping = true) (input : event.tag ∈ inputTags) (h : Handle) :
    (s.handle h event).1.footing = s.footing := by
  obtain ⟨a, about⟩ | ⟨e, kind⟩ | ⟨raw, kind⟩ | idle := input_cases input
  · rw [handle_of_action about]
    split
    · exact footing_moveTo clipping h event.serial a
    · exact footing_sendMouse clipping h a
  · simp only [handle, kind, key]
    split <;> rfl
  · simp only [handle, kind, rawMotion, passWarpFence]
    split
    · cases s.seat.input.warpFence.holdsBack event.serial with
      | true => rfl
      | false => exact footing_accumulateRaw (s.withFence _) raw
    · exact s.footing_accumulateRaw raw
  · rw [idle]

theorem footing_dispatch (clipping : s.seat.input.isClipping = true) (input : event.tag ∈ inputTags) :
    (s.dispatch event).1.footing = s.footing :=
  footing_handle (s := s.receiving event) clipping input (target s.env event)

theorem target_of_footing {t : Scene} (same : t.footing = s.footing) : target t.env event = target s.env event := by
  have lookup : t.env.lookup? = s.env.lookup? := congrArg Footing.lookup same
  unfold target
  rw [lookup]

def isLoose (s : Scene) (event : EventRecord) : Bool := tellsOfMove event && (target s.env event).isNull

theorem isLoose_of_footing {t : Scene} (same : t.footing = s.footing) : t.isLoose event = s.isLoose event := by
  unfold isLoose
  rw [target_of_footing same]

theorem dispatch_withFence (clipping : s.seat.input.isClipping = true)
    (whole : s.seat.config.pointer.brokenRawEvents = false) (input : event.tag ∈ inputTags)
    (other : s.isLoose event = false) (f : Fence) :
    (s.withFence f).dispatch event = (s.dispatch event).map (withFence · f) id := by
  have apart : tellsOfMove event = true → (target s.env event).isNull = false := by
    intro moves
    simpa [isLoose, moves] using other
  have handled := handle_withFence (s := s.receiving event) clipping whole input apart f
  rw [dispatch_of_handled (s := s.withFence f) handled, dispatch_of_handled rfl]
  rfl

theorem warpFence_dispatch_of_other (clipping : s.seat.input.isClipping = true)
    (whole : s.seat.config.pointer.brokenRawEvents = false) (input : event.tag ∈ inputTags)
    (other : s.isLoose event = false) :
    (s.dispatch event).1.seat.input.warpFence = s.seat.input.warpFence := by
  have same := dispatch_withFence clipping whole input other s.seat.input.warpFence
  rw [withFence_self] at same
  exact congrArg (fun answer : Scene × Bool => answer.1.seat.input.warpFence) same

theorem handle_of_loose (loose : s.isLoose event = true) : ∃ a, event.action? = some a ∧
    (s.receiving event).handle (target s.env event) event =
      if s.seat.input.warpFence.holdsBack event.serial then (s.receiving event, false)
      else (s.receiving event).warped.captureMouse a := by
  obtain ⟨moves, free⟩ : tellsOfMove event = true ∧ (target s.env event).isNull = true := by
    simpa [isLoose] using loose
  obtain ⟨a, about⟩ := action_of_tellsOfMove moves
  refine ⟨a, about, ?_⟩
  rw [eq_of_beq free]
  exact handle_null_of_action about moves (s.receiving event)

/-- A move of the pointer that is older than the warp is dropped. -/
theorem dispatch_of_stale (loose : s.isLoose event = true)
    (stale : s.seat.input.warpFence.holdsBack event.serial = true) : s.dispatch event = (s, false) := by
  obtain ⟨a, -, handled⟩ := handle_of_loose loose
  rw [if_pos stale] at handled
  exact dispatch_of_handled handled

/-- Any other move without a guest window releases the fence, and on the capture surface it counts. -/
theorem dispatch_of_fresh (clipping : s.seat.input.isClipping = true) (loose : s.isLoose event = true)
    (fresh : s.seat.input.warpFence.holdsBack event.serial = false) :
    (s.dispatch event).1.seat.input.warpFence = {} ∧
      (s.seat.input.captureSurface = some event.window → (s.dispatch event).2 = true ∧
        ∃ input, (s.dispatch event).1.env.journal.inputs =
          s.env.journal.inputs ++ [(Handle.null, .mouse input)]) := by
  obtain ⟨a, about, handled⟩ := handle_of_loose loose
  rw [if_neg (by simp [fresh])] at handled
  rw [dispatch_of_handled handled]
  refine ⟨?_, fun surface => ?_⟩
  · have same := captureMouse_withFence (s := (s.receiving event).warped) clipping {} a
    exact congrArg (fun answer : Scene × Bool => answer.1.seat.input.warpFence) same
  · obtain ⟨region, held⟩ := Option.isSome_iff_exists.mp clipping
    rw [← host_of_action about] at surface
    have fed := inputs_captureMouse (s := (s.receiving event).warped) held surface
    rw [captureMouse_on (s := (s.receiving event).warped) held surface] at fed ⊢
    exact ⟨rfl, _, fed⟩

/-- A move of the pointer without a guest window that the fence does not hold back. -/
def releases (s : Scene) (event : EventRecord) : Bool :=
  s.isLoose event && !s.seat.input.warpFence.holdsBack event.serial

theorem warpFence_dispatch (clipping : s.seat.input.isClipping = true)
    (whole : s.seat.config.pointer.brokenRawEvents = false) (input : event.tag ∈ inputTags) :
    (s.dispatch event).1.seat.input.warpFence = if s.releases event then {} else s.seat.input.warpFence := by
  unfold releases
  cases loose : s.isLoose event with
  | false => exact warpFence_dispatch_of_other clipping whole input loose
  | true =>
      cases held : s.seat.input.warpFence.holdsBack event.serial with
      | true => rw [dispatch_of_stale loose held]; rfl
      | false => exact (dispatch_of_fresh clipping loose held).1

theorem isClipping_of_footing {t : Scene} (same : t.footing = s.footing)
    (clipping : s.seat.input.isClipping = true) : t.seat.input.isClipping = true := by
  have clip : t.seat.input.clip = s.seat.input.clip := congrArg Footing.clip same
  unfold InputState.isClipping at clipping ⊢
  rwa [clip]

theorem whole_of_footing {t : Scene} (same : t.footing = s.footing)
    (whole : s.seat.config.pointer.brokenRawEvents = false) : t.seat.config.pointer.brokenRawEvents = false := by
  have config : t.seat.config = s.seat.config := congrArg Footing.config same
  rwa [config]

/-- After some events the clip rests on what it rested on before, and the fence stands where it stood unless one of
them has released it. -/
theorem dispatchAll_fence (clipping : s.seat.input.isClipping = true)
    (whole : s.seat.config.pointer.brokenRawEvents = false) (events : List EventRecord)
    (input : ∀ event ∈ events, event.tag ∈ inputTags) :
    (s.dispatchAll events).1.footing = s.footing ∧ (s.dispatchAll events).1.seat.input.warpFence =
      if events.any s.releases then {} else s.seat.input.warpFence := by
  induction events generalizing s with
  | nil => exact ⟨rfl, rfl⟩
  | cons event rest ih =>
      obtain ⟨now, later⟩ := List.forall_mem_cons.mp input
      have same := footing_dispatch clipping now
      obtain ⟨kept, fence⟩ := ih (isClipping_of_footing same clipping) (whole_of_footing same whole) later
      refine ⟨kept.trans same, fence.trans ?_⟩
      have first := warpFence_dispatch clipping whole now
      rw [first, List.any_cons]
      cases released : s.releases event with
      | true => simp
      | false =>
          have alike : (s.dispatch event).1.releases = s.releases := by
            funext another
            unfold releases
            rw [isLoose_of_footing same, first, released]
            rfl
          simp [alike]

/-- A move of the pointer without a guest window that is no older than the given warp. -/
def settles (s : Scene) (warp : Serial) (event : EventRecord) : Bool :=
  s.isLoose event && !event.serial.precedes warp

/-- While there is a clip and its fence is armed, whatever the pointer and the keyboard bring: the clip stays, the
fence is armed until the first move without a guest window that is not older than the warp has come, and of the moves
on the capture surface those before it are dropped and all others count. Any other event, such as one on a guest
window, comes to the same whatever the fence. -/
theorem warpFence_drops_prefix {warp : Serial} {events : List EventRecord}
    (clipping : s.seat.input.isClipping = true) (whole : s.seat.config.pointer.brokenRawEvents = false)
    (armed : s.seat.input.warpFence = .armed warp) (input : ∀ event ∈ events, event.tag ∈ inputTags) :
    (∀ before event after, events = before ++ event :: after →
      let u := (s.dispatchAll before).1
      u.footing = s.footing ∧
        u.seat.input.warpFence = (if before.any (s.settles warp) then {} else .armed warp) ∧
        (s.isLoose event = true → s.seat.input.captureSurface = some event.window →
          if (before ++ [event]).any (s.settles warp) then
            (u.dispatch event).2 = true ∧ ∃ input, (u.dispatch event).1.env.journal.inputs =
              u.env.journal.inputs ++ [(Handle.null, .mouse input)]
          else u.dispatch event = (u, false)) ∧
        (s.isLoose event = false → ∀ f,
          (u.withFence f).dispatch event = (u.dispatch event).map (withFence · f) id)) ∧
      (s.dispatchAll events).1.footing = s.footing ∧
      (s.dispatchAll events).1.seat.input.warpFence =
        if events.any (s.settles warp) then {} else .armed warp := by
  have settling : s.releases = s.settles warp := by
    funext event
    unfold releases settles
    rw [armed]
    rfl
  refine ⟨?_, by rw [← settling, ← armed]; exact dispatchAll_fence clipping whole events input⟩
  rintro before event after rfl u
  obtain ⟨earlier, now, -⟩ : (∀ event ∈ before, event.tag ∈ inputTags) ∧ event.tag ∈ inputTags ∧
      ∀ event ∈ after, event.tag ∈ inputTags := by
    simpa [or_imp, forall_and] using input
  obtain ⟨same, fence⟩ := dispatchAll_fence clipping whole before earlier
  rw [settling, armed] at fence
  have held : u.seat.input.isClipping = true := isClipping_of_footing same clipping
  refine ⟨same, fence, fun loose surface => ?_, fun other =>
    dispatch_withFence held (whole_of_footing same whole) now ((isLoose_of_footing same).trans other)⟩
  have moves : u.isLoose event = true := (isLoose_of_footing same).trans loose
  have seen : (before ++ [event]).any (s.settles warp) = !u.seat.input.warpFence.holdsBack event.serial := by
    rw [List.any_append, List.any_cons, List.any_nil, Bool.or_false, fence, settles, loose, Bool.true_and]
    cases before.any (s.settles warp) <;> rfl
  rw [seen]
  cases stale : u.seat.input.warpFence.holdsBack event.serial with
  | true => exact dispatch_of_stale moves stale
  | false => exact (dispatch_of_fresh held moves stale).2 ((congrArg Footing.surface same).trans surface)

/-- A seat that has just confined the pointer, with the request of serial 6. -/
def confined : Scene := ((alone ⟨0, 0, 1920, 1080⟩).grab ⟨0, 0, 800, 600⟩ .explicit).1

/-- A move of the pointer on the capture surface of that seat. -/
def movedInside (serial : Serial) : EventRecord :=
  { serial, window := ⟨0x04000001⟩, kind := .motion { position := ⟨10, 10⟩, time := 0 } }

/-- The warp is shown to be over on a window that nobody knows. The move on the capture surface before that is dropped,
the one after it counts although it is older. -/
theorem confined_drops_prefix :
    let events := [movedInside ⟨5⟩, movedAstray ⟨6⟩, movedInside ⟨2⟩]
    (∀ event ∈ events, event.tag ∈ inputTags) ∧ confined.seat.input.warpFence = .armed ⟨6⟩ ∧
      confined.dispatch (movedInside ⟨5⟩) = (confined, false) ∧
      ((confined.dispatchAll [movedInside ⟨5⟩, movedAstray ⟨6⟩]).1.dispatch (movedInside ⟨2⟩)).2 = true ∧
      (confined.dispatchAll events).1.seat.input.warpFence = {} := by
  intro events
  have input : ∀ event ∈ events, event.tag ∈ inputTags := by decide
  have armed : confined.seat.input.warpFence = .armed ⟨6⟩ := by decide +kernel
  have filtered := warpFence_drops_prefix (s := confined) (by decide +kernel) (by decide +kernel) armed input
  have first := (filtered.1 [] (movedInside ⟨5⟩) _ rfl).2.2.1 (by decide +kernel) (by decide +kernel)
  have last := (filtered.1 [movedInside ⟨5⟩, movedAstray ⟨6⟩] (movedInside ⟨2⟩) [] rfl).2.2.1
    (by decide +kernel) (by decide +kernel)
  have settled : events.any (confined.settles ⟨6⟩) = true := by decide +kernel
  rw [if_neg (by decide +kernel)] at first
  rw [if_pos (by decide +kernel)] at last
  refine ⟨input, armed, first, last.1, ?_⟩
  rw [filtered.2.2, if_pos settled]

end Scene
end GuestSeat
