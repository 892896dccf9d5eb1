import GuestSeat.Proofs.Seat.Handlers
import GuestSeat.Seat.Drain
import Mathlib.Data.List.Basic

/-!
What a seat does during a whole call. Around the handlers a seat also takes events from the queue and
keeps record of the one in flight. Apart from that every call comes down to deeds, but for those that
choose or show a cursor and the reports that the registry hears.
-/

namespace GuestSeat

namespace Scene

open Environment (desktop)

variable {L : Licence}

/-- The seat went from `s` to `t` through any number of deeds, with at most `n` handles used up, whatever
became of the queue and of the event on record. -/
inductive Doings (L : Licence) : Nat → Scene → Scene → Prop
  | deeds {n : Nat} {s t : Scene} (h : Deeds L n s t) : Doings L n s t
  | aside {n : Nat} {s : Scene} (queue : List EventRecord) (inFlight : Option InFlight) :
      Doings L n s ((s.act fun env => { env with queue }).edit fun i => { i with inFlight })
  | trans {m n : Nat} {s t u : Scene} (first : Doings L m s t) (second : Doings L n t u) :
      Doings L (m + n) s u

namespace Doings

variable {m n : Nat} {s t u : Scene}

theorem routine (h : s.Routine t) : Doings L n s t := .deeds (.routine h)

theorem refl (s : Scene) : Doings L n s s := .routine (.refl s)

theorem mono (h : Doings L m s t) (le : m ≤ n) : Doings L n s t := by
  have padded : Doings L (m + (n - m)) s t := h.trans (refl t)
  rwa [Nat.add_sub_cancel' le] at padded

theorem after (first : Doings L 0 s t) (second : Doings L n t u) : Doings L n s u := by
  have chained : Doings L (0 + n) s u := first.trans second
  rwa [Nat.zero_add] at chained

theorem setting (h : Doings L n s t) : t.ground.toSetting = s.ground.toSetting := by
  induction h with
  | deeds h => rw [h.ground]
  | aside _ _ => rfl
  | trans _ _ first second => exact second.trans first

theorem primaryMonitor (h : Doings L n s t) : t.env.primaryMonitor = s.env.primaryMonitor :=
  congrArg Setting.primaryMonitor h.setting

/-- What every deed preserves while it uses up handles, every call preserves, provided that it depends
neither on the queue nor on the event on record. -/
theorem preserves {P : Nat → Scene → Prop}
    (step : ∀ {m n : Nat} {s t : Scene}, Deed L m s t → P (m + n) s → P n t)
    (weaken : ∀ {m n : Nat} {s : Scene}, P (m + n) s → P n s)
    (rests : ∀ {n : Nat} {s : Scene} (queue : List EventRecord) (inFlight : Option InFlight), P n s →
      P n ((s.act fun env => { env with queue }).edit fun i => { i with inFlight }))
    (h : Doings L m s t) : ∀ n, P (m + n) s → P n t := by
  induction h with
  | deeds h => exact h.preserves step
  | aside queue inFlight => exact fun n hs => rests queue inFlight (weaken hs)
  | trans _ _ first second =>
      intro n hs
      rw [Nat.add_assoc] at hs
      exact second n (first _ hs)

end Doings

variable (s : Scene)

theorem target_met (event : EventRecord) :
    (target s.env event).isNull = true ∨ s.env.Meets (target s.env event) := by
  unfold target
  split
  · exact Or.inl rfl
  split
  · next h found => exact Or.inr (Or.inr ⟨_, found⟩)
  split
  · exact Or.inr (Or.inl rfl)
  · exact Or.inl rfl

/-- One event, after which no trace of it is left on record. -/
theorem dispatch_doings (event : EventRecord) (roams : L.roams) (hR : L.rect s.env.primaryMonitor) :
    Doings L 1 s (s.dispatch event).1 ∧ (s.dispatch event).1.ground = s.ground := by
  let during := s.receiving event
  let after := (during.handle (target s.env event) event).1
  have handled : Deeds L 1 during after := during.handle_deeds _ event roams (s.target_met event) hR
  have marked : Doings L 0 s during := .aside s.env.queue (some ⟨event.tag, event.serial⟩)
  have cleared : Doings L 0 after (s.dispatch event).1 :=
    .aside after.env.queue s.seat.input.inFlight
  refine ⟨(marked.after (.deeds handled)).trans (n := 0) cleared, ?_⟩
  change { after.ground with inFlight := s.seat.input.inFlight } = s.ground
  rw [handled.ground]
  rfl

/-- A drain is a series of deeds, with one handle at most for each event that is handled. -/
theorem drainAfter_doings (waiting : EventRecord) (events : List EventRecord)
    (roams : L.roams) (hR : L.rect s.env.primaryMonitor) :
    Doings L (events.length + 1) s (s.drainAfter waiting events).1 ∧
      (s.drainAfter waiting events).1.ground = s.ground := by
  induction events generalizing s waiting with
  | nil => exact s.dispatch_doings waiting roams hR
  | cons event rest ih =>
      -- whichever of the two events is handled, the other waits for the rest
      have handling : ∀ first second : EventRecord,
          Doings L (rest.length + 1 + 1) s ((s.dispatch first).1.drainAfter second rest).1 ∧
            ((s.dispatch first).1.drainAfter second rest).1.ground = s.ground := by
        intro first second
        obtain ⟨one, hground⟩ := s.dispatch_doings first roams hR
        obtain ⟨more, hrest⟩ := ih (s.dispatch first).1 second (by rwa [one.primaryMonitor])
        exact ⟨(one.trans more).mono (by omega), hrest.trans hground⟩
      have skipping : ∀ kept : EventRecord,
          Doings L (rest.length + 1 + 1) s (s.drainAfter kept rest).1 ∧
            (s.drainAfter kept rest).1.ground = s.ground := by
        intro kept
        obtain ⟨more, hrest⟩ := ih s kept hR
        exact ⟨more.mono (by omega), hrest⟩
      unfold drainAfter
      dsimp only
      split
      · exact skipping _
      · exact skipping _
      · exact handling _ _
      · exact handling _ _

theorem drainAll_doings (events : List EventRecord) (roams : L.roams)
    (hR : L.rect s.env.primaryMonitor) :
    Doings L events.length s (s.drainAll events).1 ∧
      (s.drainAll events).1.ground = s.ground := by
  cases events with
  | nil => exact ⟨.refl s, rfl⟩
  | cons event rest => exact s.drainAfter_doings event rest roams hR

/-- The events of a drain are taken out, and the others are still there afterwards. -/
theorem drain_doings (mask : QueueMask) (roams : L.roams) (hR : L.rect s.env.primaryMonitor) :
    Doings L (s.env.queue.filter fun event => event.matchesMask mask).length s (s.drain mask).1 ∧
      (s.drain mask).1.ground =
        { s.ground with queue := s.env.queue.filter fun event => !event.matchesMask mask } := by
  let left := s.env.queue.filter fun event => !event.matchesMask mask
  let during := s.act fun env => { env with queue := left }
  have taken : Doings L 0 s during := .aside left s.seat.input.inFlight
  obtain ⟨drained, hground⟩ := during.drainAll_doings
    (s.env.queue.filter fun event => event.matchesMask mask) roams hR
  have flushed : Routine _ (s.drain mask).1 := .ofEnv (Environment.routine_flush
    (during.drainAll (s.env.queue.filter fun event => event.matchesMask mask)).1.env)
  exact ⟨(taken.after drained).trans (n := 0) (.routine flushed),
    flushed.toQuiet.ground.trans hground⟩

/-- A wait drains twice at most, and no event twice. -/
theorem waitFor_doings (handles : List WaitHandle) (timeout : Option Nat) (mask : QueueMask)
    (roams : L.roams) (hR : L.rect s.env.primaryMonitor) :
    Doings L s.env.queue.length s (s.waitFor handles timeout mask).1 ∧
      (s.waitFor handles timeout mask).1.ground.inFlight = s.ground.inFlight := by
  unfold waitFor
  generalize (if s.seat.input.isHandling then Flags.empty else mask) = mask
  dsimp only
  obtain ⟨drained, hground⟩ := s.drain_doings mask roams hR
  have parts : s.env.queue.length =
      (s.env.queue.filter fun event => event.matchesMask mask).length +
        (s.env.queue.filter fun event => !event.matchesMask mask).length :=
    List.length_eq_length_filter_add _
  have part : (s.env.queue.filter fun event => event.matchesMask mask).length ≤
      s.env.queue.length := by omega
  cases hd : s.drain mask with
  | mk t queued =>
      rw [hd] at drained hground
      have hflight : t.ground.inFlight = s.ground.inFlight := by rw [hground]
      cases queued with
      | true => exact ⟨drained.mono part, hflight⟩
      | false =>
          dsimp only
          split
          · exact ⟨drained.mono part, hflight⟩
          have waited := t.env.routine_wait handles timeout
          cases hw : t.env.wait handles timeout with
          | mk env status =>
              rw [hw] at waited
              have idle : t.Routine { t with env } := .ofEnv waited
              have sofar := drained.trans (n := 0) (.routine idle)
              cases status with
              | timeout | signaled _ => exact ⟨sofar.mono part, hflight⟩
              | inputReady =>
                  obtain ⟨again, hagain⟩ := Scene.drain_doings (L := L) { t with env } mask roams (by
                    rw [sofar.primaryMonitor]
                    exact hR)
                  have hqueue : env.queue =
                      s.env.queue.filter fun event => !event.matchesMask mask :=
                    waited.queue.trans (congrArg Ground.queue hground)
                  have fewer : (env.queue.filter fun event => event.matchesMask mask).length ≤
                      env.queue.length := List.length_filter_le _ _
                  refine ⟨(sofar.trans again).mono ?_, ?_⟩
                  · rw [hqueue] at fewer
                    dsimp only
                    rw [hqueue]
                    omega
                  · rw [hagain]
                    exact hflight

theorem routine_takeStates (h : Handle) (host : HostWindow) (events : List EventRecord) :
    s.Routine (s.takeStates h host events).1 := by
  induction events generalizing s with
  | nil => exact .refl s
  | cons event rest ih =>
      unfold takeStates
      split
      · split
        · exact s.routine_forgetWindow h
        · exact (s.routine_wmStateChanged h _ false).trans (ih _)
        · exact ih s
      · exact ih s

def Round.scene? : Round → Option Scene
  | .finished s _ | .again s => some s
  | .stuck => none

theorem withdrawalRound_doings {t : Scene} (h : Handle) (host : HostWindow) (deadline : Nat)
    (ht : (s.withdrawalRound h host deadline).scene? = some t) :
    Doings L 0 s t ∧ t.ground.inFlight = s.ground.inFlight := by
  unfold withdrawalRound at ht
  split at ht
  · have taken := s.routine_takeStates h host s.env.queue
    cases hs : s.takeStates h host s.env.queue with
    | mk next rest =>
        rw [hs] at taken ht
        have hnext : t = next.act fun env => { env with queue := rest.1 } := by
          dsimp only at ht
          split at ht <;> exact (Option.some.inj ht).symm
        subst hnext
        exact ⟨(Doings.routine taken).after (.aside rest.1 next.seat.input.inFlight), taken.inFlight⟩
  · dsimp only at ht
    split at ht
    · cases ht
      exact ⟨.refl s, rfl⟩
    · have waited := s.env.routine_wait [] (some (deadline - s.env.tick))
      split at ht
      · next env hw =>
          rw [hw] at waited
          cases ht
          exact ⟨.routine (.ofEnv waited), rfl⟩
      · cases ht

theorem withdrawalRounds_doings {t : Scene} {reached : Bool} (h : Handle) (withdrawn : Bool)
    (deadline fuel : Nat) (ht : withdrawalRounds h withdrawn deadline fuel s = some (t, reached)) :
    Doings L 0 s t ∧ t.ground.inFlight = s.ground.inFlight := by
  induction fuel generalizing s with
  | zero => cases ht
  | succ fuel ih =>
      unfold withdrawalRounds at ht
      split at ht
      · cases ht
        exact ⟨.refl _, rfl⟩
      split at ht
      · cases ht
        exact ⟨.refl _, rfl⟩
      next host _ =>
      have round := fun u hu => s.withdrawalRound_doings (L := L) (t := u) h host deadline hu
      cases hr : s.withdrawalRound h host deadline with
      | finished u reached =>
          rw [hr] at ht round
          cases ht
          exact round t rfl
      | again u =>
          rw [hr] at ht round
          obtain ⟨looked, hflight⟩ := round u rfl
          obtain ⟨rest, hrest⟩ := ih u ht
          exact ⟨looked.after rest, hrest.trans hflight⟩
      | stuck =>
          rw [hr] at ht
          cases ht

/-- What can make a seat act: a call of the guest, a message from another seat, or an event of the
host. -/
inductive Call
  | clipCursor (rect : Option Rect)
  | clipFullscreen (h : Handle) (reset : Bool)
  | resetClipping
  | setCursor (cursor : Option CursorId)
  | destroyCursor (cursor : CursorId)
  | setCursorPos (p : Point)
  | setRawOnly (rawOnly : Bool)
  | requestNetState (h : Handle) (desired : NetState)
  | noteConfigureRequest (h : Handle)
  | forgetWindow (h : Handle)
  | awaitWithdrawal (h : Handle) (withdrawn : Bool)
  | message (h : Handle) (message : GuestMessage)
  | dispatch (event : EventRecord)
  | drain (mask : QueueMask)
  | waitFor (handles : List WaitHandle) (timeout : Option Nat) (mask : QueueMask)

/-- The scene after a call; there is none if a wait for a withdrawal never ends. -/
def call? (s : Scene) : Call → Option Scene
  | .clipCursor rect => some (s.clipCursor rect)
  | .clipFullscreen h reset => some (s.clipFullscreen h reset).1
  | .resetClipping => some s.resetClipping
  | .setCursor cursor => some (s.setCursor cursor)
  | .destroyCursor cursor => some (s.destroyCursor cursor)
  | .setCursorPos p => some (s.setCursorPos p)
  | .setRawOnly rawOnly => some (s.edit fun i => { i with rawOnly })
  | .requestNetState h desired => some (s.requestNetState h desired)
  | .noteConfigureRequest h => some (s.noteConfigureRequest h)
  | .forgetWindow h => some (s.forgetWindow h)
  | .awaitWithdrawal h withdrawn => (s.awaitWithdrawal h withdrawn).map Prod.fst
  | .message h message => some (s.driverMessage h message).1
  | .dispatch event => some (s.dispatch event).1
  | .drain mask => some (s.drain mask).1
  | .waitFor handles timeout mask => some (s.waitFor handles timeout mask).1

def appetite (s : Scene) : Nat := s.env.queue.length + 1

/-- Ordinary calls come down to deeds. The others choose, forget or show a cursor, or bring the registry
a report. -/
def Call.IsOrdinary : Call → Prop
  | .setCursor _ | .destroyCursor _ | .message _ (.setCursor _) | .message _ (.clipOwnerChanged _ _) =>
    False
  | _ => True

/-- What the other calls do. A report is ignored, or the registry hears of it and may have another seat's
clip reset. -/
inductive Special (s : Scene) : Call → Scene → Prop
  | chosen (cursor : Option CursorId) : Special s (.setCursor cursor) (s.setCursor cursor)
  | destroyed (cursor : CursorId) : Special s (.destroyCursor cursor) (s.destroyCursor cursor)
  | shown (h : Handle) (cursor : Option CursorId) :
      Special s (.message h (.setCursor cursor)) (s.defineCursor h cursor)
  | ignored (h source target : Handle) : Special s (.message h (.clipOwnerChanged source target)) s
  | heard (h source target : Handle) (registry : ClipRegistry) :
      Special s (.message h (.clipOwnerChanged source target))
        { s with seat := { s.seat with registry := some registry } }
  | ruled (h source target : Handle) (registry : ClipRegistry) (evicted : Handle) :
      Special s (.message h (.clipOwnerChanged source target))
        (({ s with seat := { s.seat with registry := some registry } } : Scene).tell evicted .clipReset)

theorem special_of_call {t : Scene} {call : Call} (ht : s.call? call = some t)
    (special : ¬ call.IsOrdinary) : Special s call t := by
  cases call with
  | setCursor cursor => cases ht; exact .chosen cursor
  | destroyCursor cursor => cases ht; exact .destroyed cursor
  | message h message =>
      cases ht
      cases message with
      | setCursor cursor => exact .shown h cursor
      | clipOwnerChanged source target =>
          unfold driverMessage takeOwnerReport
          dsimp only
          split
          · exact .ignored h source target
          · split
            · exact .heard h source target _
            · exact .heard h source target _
            · exact .ruled h source target _ _
      | _ => exact absurd trivial special
  | _ => exact absurd trivial special

def Call.Asks : Call → Prop
  | .clipCursor _ | .message _ .clipRequest => True
  | _ => False

def Call.Roams : Call → Prop
  | .dispatch _ | .drain _ | .waitFor _ _ _ => True
  | _ => False

/-- An ordinary call. -/
theorem call_doings {t : Scene} {call : Call} (ht : s.call? call = some t)
    (ordinary : call.IsOrdinary)
    (hscreen : ∀ r : Rect, r.isEmpty = false → r.isWithin s.env.virtualScreen = true → L.rect r)
    (hmonitor : L.rect s.env.primaryMonitor)
    (hguest : (∃ h, call = .message h .clipRequest) →
      s.env.guestClip.restricts s.env.virtualScreen = true →
      L.rect (s.env.guestClip.clampTo s.env.virtualScreen))
    (hreset : (∃ h, call = .message h .clipReset) → L.silence)
    (hasked : call.Asks → L.asked)
    (hdirect : (∃ h, call = .clipFullscreen h true) → L.direct) (hroams : call.Roams → L.roams) :
    Doings L s.appetite s t ∧ t.ground.inFlight = s.ground.inFlight := by
  have handler : ∀ u, Deeds L 1 s u →
      Doings L s.appetite s u ∧ u.ground.inFlight = s.ground.inFlight :=
    fun u h => ⟨(Doings.deeds h).mono (Nat.le_add_left 1 _), by rw [h.ground]⟩
  have drained : ∀ n u, n ≤ s.env.queue.length → Doings L n s u → Doings L s.appetite s u :=
    fun n u le h => h.mono (Nat.le_succ_of_le le)
  cases call with
  | setCursor _ | destroyCursor _ => exact ordinary.elim
  | awaitWithdrawal h withdrawn =>
      obtain ⟨⟨u, reached⟩, hu, rfl⟩ := Option.map_eq_some_iff.mp ht
      obtain ⟨doings, hflight⟩ := s.withdrawalRounds_doings (L := L) h withdrawn _ _ hu
      exact ⟨doings.mono (Nat.zero_le _), hflight⟩
  | clipCursor rect => cases ht; exact handler _ (s.clipCursor_deeds rect (hasked trivial) hscreen)
  | clipFullscreen h reset =>
      cases ht
      refine handler _ (s.clipFullscreen_deeds h reset ?_ hmonitor)
      rintro rfl
      exact hdirect ⟨h, rfl⟩
  | resetClipping => cases ht; exact handler _ (s.resetClipping_deeds.mono (Nat.zero_le 1))
  | setCursorPos p => cases ht; exact handler _ (.routine (s.routine_setCursorPos p))
  | setRawOnly rawOnly => cases ht; exact handler _ (.routine { Routine.refl s with })
  | requestNetState h desired =>
      cases ht
      exact handler _ (.routine (s.routine_requestNetState h desired))
  | noteConfigureRequest h => cases ht; exact handler _ (.routine (s.routine_noteConfigureRequest h))
  | forgetWindow h => cases ht; exact handler _ (.routine (s.routine_forgetWindow h))
  | message h message =>
      cases ht
      refine handler _ (s.driverMessage_deeds h message ?_ ?_ ?_ ?_ hmonitor ?_)
      · rintro source target rfl
        exact ordinary.elim
      · rintro cursor rfl
        exact ordinary
      · rintro rfl
        exact hreset ⟨h, rfl⟩
      · rintro rfl
        exact hasked trivial
      · rintro rfl
        exact hguest ⟨h, rfl⟩
  | dispatch event =>
      cases ht
      obtain ⟨doings, hground⟩ := s.dispatch_doings event (hroams trivial) hmonitor
      exact ⟨doings.mono (Nat.le_add_left 1 _), by rw [hground]⟩
  | drain mask =>
      cases ht
      obtain ⟨doings, hground⟩ := s.drain_doings mask (hroams trivial) hmonitor
      exact ⟨drained _ _ (List.length_filter_le _ _) doings, by rw [hground]⟩
  | waitFor handles timeout mask =>
      cases ht
      obtain ⟨doings, hflight⟩ := s.waitFor_doings handles timeout mask (hroams trivial) hmonitor
      exact ⟨drained _ _ (Nat.le_refl _) doings, hflight⟩

def Call.licence (call : Call) : Licence where
  rect _ := True
  silence := True
  asked := call.Asks
  direct := ∃ h, call = .clipFullscreen h true
  roams := call.Roams

theorem doings_licence {t : Scene} {call : Call} (ht : s.call? call = some t)
    (ordinary : call.IsOrdinary) : Doings call.licence s.appetite s t :=
  (s.call_doings ht ordinary (fun _ _ _ => trivial) trivial (fun _ _ => trivial)
    (fun _ => trivial) id id id).1

end Scene

end GuestSeat
