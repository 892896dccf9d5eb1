import GuestSeat.Proofs.Clip.Quiet
import GuestSeat.Seat.RawMotion

/-!
The routine of a seat. Most of what a seat does is quiet and has no bearing on the cursor either: no
window comes, goes or gets another host window, no cursor is shown or on its way, and if time passes it
does not run backwards. `Scene.Routine` says so of two scenes. The primitive operations are sorted here
once; the handlers are put together from them.
-/

namespace GuestSeat

def HostRequest.shown? : HostRequest → Option (HostWindow × Option HostCursor)
  | .defineCursor w native => some (w, native)
  | _ => none

def Delivered.carried? : Delivered → Option (Handle × Option CursorId)
  | ⟨h, .setCursor cursor, false⟩ => some (h, cursor)
  | _ => none

namespace Environment

structure Outlook where
  /-- The host window of every window that is there. -/
  hosts : Handle → Option (Option HostWindow)
  lookup : HostWindow → Option Handle
  /-- The capture surface, or the host window that it would be. -/
  surface : HostWindow
  /-- The cursors that were shown, in order. -/
  shown : List (HostWindow × Option HostCursor)
  /-- The cursors that are on their way, in order. -/
  carried : List (Handle × Option CursorId)

def outlook (env : Environment) : Outlook where
  hosts h := (env.info? h).map WindowInfo.host
  lookup := env.lookup?
  surface := env.captureSurface.getD ⟨env.nextHost⟩
  shown := env.journal.requests.filterMap HostRequest.shown?
  carried := env.journal.messages.filterMap Delivered.carried?

structure Routine (a b : Environment) : Prop extends a.Quiet b where
  outlook : b.outlook = a.outlook
  tick : a.tick ≤ tickLimit → a.tick ≤ b.tick ∧ b.tick ≤ tickLimit

namespace Routine

variable {a b c : Environment}

theorem refl (a : Environment) : a.Routine a :=
  { Quiet.refl a with outlook := rfl, tick := fun limit => ⟨Nat.le_refl _, limit⟩ }

theorem trans (first : a.Routine b) (second : b.Routine c) : a.Routine c :=
  { first.toQuiet.trans second.toQuiet with
    outlook := second.outlook.trans first.outlook
    tick := fun limit => by
      obtain ⟨later, within⟩ := first.tick limit
      obtain ⟨latest, within'⟩ := second.tick within
      exact ⟨Nat.le_trans later latest, within'⟩ }

end Routine

variable (env : Environment)

theorem routine_request {r : HostRequest} (hr : r.isClipWork = false) (hs : r.shown? = none) :
    env.Routine (env.request r) :=
  { Routine.refl env with
    requests := .single hr
    numbers := env.numbers_request r
    outlook := by
      unfold outlook
      simp only [request, List.filterMap_append, List.filterMap_cons_none hs, List.filterMap_nil,
        List.append_nil]
      rfl }

theorem routine_elapse (milliseconds : Nat) : env.Routine (env.elapse milliseconds) :=
  { Routine.refl env with
    tick := fun limit => ⟨Nat.le_min.mpr ⟨Nat.le_add_right _ _, limit⟩, Nat.min_le_right _ _⟩ }

theorem routine_flush : env.Routine env.flush := { Routine.refl env with }

theorem routine_setForeground (h : Handle) : env.Routine (env.setForeground h) :=
  { Routine.refl env with }

theorem routine_resetGuestClip : env.Routine env.resetGuestClip := { Routine.refl env with }

theorem routine_resend (event : EventRecord) : env.Routine (env.resend event) :=
  { Routine.refl env with }

theorem routine_feed (h : Handle) (input : GuestInput) : env.Routine (env.feed h input) :=
  { Routine.refl env with }

theorem routine_warpPointer (p : Point) : env.Routine (env.warpPointer p) :=
  { env.routine_request (r := .warpPointer p) rfl rfl with }

theorem routine_setInputFocus (w : HostWindow) (time : Timestamp) :
    env.Routine (env.setInputFocus w time) :=
  { env.routine_request (r := .setInputFocus w time) rfl rfl with }

theorem routine_wait (handles : List WaitHandle) (timeout : Option Nat) :
    env.Routine (env.wait handles timeout).1 := by
  unfold wait
  split
  · exact { Routine.refl env with }
  · split
    · exact { env.routine_elapse (timeout.getD 0) with }
    · exact { Routine.refl env with }

theorem routine_deliver {next : Environment} {h : Handle} {message : GuestMessage} {sync : Bool}
    (hm : message.isOwnership = false) (hc : Delivered.carried? ⟨h, message, sync⟩ = none)
    (hd : env.deliver h message sync = .ok next) : env.Routine next := by
  unfold deliver at hd
  split at hd
  · cases hd
  · cases hd
    exact { Routine.refl env with
      messages := .single hm
      outlook := by
        unfold outlook
        simp only [note, List.filterMap_append, List.filterMap_cons_none hc, List.filterMap_nil,
          List.append_nil]
        rfl }

theorem routine_tell {h : Handle} {message : GuestMessage} (hm : message.isOwnership = false)
    (hc : Delivered.carried? ⟨h, message, false⟩ = none) : env.Routine (env.tell h message) := by
  unfold tell post
  split
  · next hd => exact env.routine_deliver hm hc hd
  · exact .refl env

theorem routine_send {h : Handle} {message : GuestMessage} (hm : message.isOwnership = false) :
    env.Routine (env.send h message).1 := by
  unfold send
  split
  · next hd => exact env.routine_deliver hm (by cases message <;> rfl) hd
  · exact .refl env

theorem routine_sendWithin {h : Handle} {message : GuestMessage} (timeout : Nat)
    (hm : message.isOwnership = false) : env.Routine (env.sendWithin h message timeout).1 := by
  unfold sendWithin
  split
  · exact env.routine_elapse timeout
  · exact env.routine_send hm

/-- A change of a window's description that keeps its thread keeps that of every window. -/
theorem threadOf?_editInfo (h : Handle) (f : WindowInfo → WindowInfo)
    (hf : ∀ info, (f info).thread = info.thread) : (env.editInfo h f).threadOf? = env.threadOf? := by
  funext k
  simp only [threadOf?, info?, editInfo, editWindow, OrderedMap.get?_modify]
  split
  · simp [Function.comp_def, hf]
  · rfl

/-- A change of a window's description that keeps its host window leaves the same window behind a host
window: another one, or the one that was changed. -/
theorem hosted?_editInfo (h : Handle) (f : WindowInfo → WindowInfo)
    (hf : ∀ info, (f info).host = info.host) (w : HostWindow) :
    (env.editInfo h f).hosted? w = env.hosted? w ∨
      ∃ hosted, env.windows.get? h = some hosted ∧ env.hosted? w = some hosted ∧
        (env.editInfo h f).hosted? w = some { hosted with info := f hosted.info } := by
  let edit := OrderedMap.touch h fun hosted : HostedWindow => { hosted with info := f hosted.info }
  let behind := fun hosted : HostedWindow => hosted.info.host == some w
  have blind : (behind ∘ Prod.snd) ∘ edit = behind ∘ Prod.snd := by
    funext entry
    simp only [Function.comp_apply, behind, edit, OrderedMap.touch]
    split
    · rw [hf]
    · rfl
  have before : env.hosted? w = (env.windows.entries.find? (behind ∘ Prod.snd)).map Prod.snd :=
    List.find?_map ..
  have after : (env.editInfo h f).hosted? w =
      ((env.windows.entries.find? (behind ∘ Prod.snd)).map edit).map Prod.snd := by
    show ((env.windows.entries.map edit).map Prod.snd).find? behind = _
    rw [List.find?_map, List.find?_map, blind]
  cases found : env.windows.entries.find? (behind ∘ Prod.snd) with
  | none =>
      left
      rw [before, after, found]
      rfl
  | some entry =>
      rw [found] at before after
      by_cases changed : entry.1 = h
      · right
        have known := env.windows.get?_of_mem (List.mem_of_find?_eq_some found)
        rw [changed] at known
        refine ⟨entry.2, known, before, after.trans ?_⟩
        simp [edit, OrderedMap.touch, changed]
      · left
        rw [before, after]
        simp [edit, OrderedMap.touch, changed]

/-- A change of a window's description that keeps its handle and its host window does not change who is
found behind a host window. -/
theorem lookup?_editInfo (h : Handle) (f : WindowInfo → WindowInfo)
    (hf : ∀ info, (f info).host = info.host ∧ (f info).handle = info.handle) :
    (env.editInfo h f).lookup? = env.lookup? := by
  funext w
  unfold lookup?
  rcases env.hosted?_editInfo h f (fun info => (hf info).1) w with same | ⟨hosted, -, before, after⟩
  · rw [same]
  · rw [before, after]
    exact congrArg some (hf hosted.info).2

theorem routine_editInfo (h : Handle) (f : WindowInfo → WindowInfo)
    (hf : ∀ info, (f info).thread = info.thread ∧ (f info).host = info.host ∧
      (f info).handle = info.handle) : env.Routine (env.editInfo h f) := by
  have hosts : (fun k => ((env.editInfo h f).info? k).map WindowInfo.host) =
      fun k => (env.info? k).map WindowInfo.host := by
    funext k
    simp only [info?, editInfo, editWindow, OrderedMap.get?_modify]
    split
    · simp [Function.comp_def, hf]
    · rfl
  have lookup := env.lookup?_editInfo h f fun info => (hf info).2
  exact { Routine.refl env with
    threads := env.threadOf?_editInfo h f fun info => (hf info).1
    outlook := by
      simp only [outlook, hosts, lookup]
      rfl }

theorem routine_placeWindow (h : Handle) (rect : Rect) (flags : PlacementFlags) :
    env.Routine (env.placeWindow h rect flags) := by
  have noted : env.Routine (env.note fun j => { j with placements := j.placements ++ [(h, rect, flags)] }) :=
    { Routine.refl env with }
  exact noted.trans (routine_editInfo _ h _ fun info => ⟨rfl, rfl, rfl⟩)

theorem routine_reparent (h : Handle) (hostParent : HostWindow) :
    env.Routine (env.reparent h hostParent).1 := by
  unfold reparent
  split
  · dsimp only
    exact env.routine_editInfo h _ fun info => ⟨rfl, rfl, rfl⟩
  · exact .refl env

end Environment

namespace Scene

structure Routine (s t : Scene) : Prop extends s.Quiet t where
  outlook : t.env.outlook = s.env.outlook
  tick : s.env.tick ≤ Environment.tickLimit →
    s.env.tick ≤ t.env.tick ∧ t.env.tick ≤ Environment.tickLimit
  tracker : t.seat.tracker = s.seat.tracker
  realizer : t.seat.realizer = s.seat.realizer
  clipResetAt : t.seat.input.clipResetAt = s.seat.input.clipResetAt

namespace Routine

variable {s t u : Scene}

theorem refl (s : Scene) : s.Routine s :=
  { Quiet.refl s with
    outlook := rfl, tick := (Environment.Routine.refl s.env).tick, tracker := rfl, realizer := rfl
    clipResetAt := rfl }

theorem trans (first : s.Routine t) (second : t.Routine u) : s.Routine u :=
  { first.toQuiet.trans second.toQuiet with
    outlook := second.outlook.trans first.outlook
    tick := fun limit => by
      obtain ⟨later, within⟩ := first.tick limit
      obtain ⟨latest, within'⟩ := second.tick within
      exact ⟨Nat.le_trans later latest, within'⟩
    tracker := second.tracker.trans first.tracker
    realizer := second.realizer.trans first.realizer
    clipResetAt := second.clipResetAt.trans first.clipResetAt }

/-- Only the surroundings changed, and by routine. -/
theorem ofEnv {env : Environment} (h : s.env.Routine env) : s.Routine { s with env } :=
  { Routine.refl s with env := h.toQuiet, outlook := h.outlook, tick := h.tick, aims := .of_eq rfl }

end Routine

variable (s : Scene)

theorem routine_request {r : HostRequest} (hr : r.isClipWork = false) (hs : r.shown? = none) :
    s.Routine (s.request r) :=
  .ofEnv (s.env.routine_request hr hs)

theorem routine_tell {h : Handle} {message : GuestMessage} (hm : message.isOwnership = false)
    (hc : Delivered.carried? ⟨h, message, false⟩ = none) : s.Routine (s.tell h message) :=
  .ofEnv (s.env.routine_tell hm hc)

theorem routine_notify {h : Handle} {message : GuestMessage} (hm : message.isOwnership = false) :
    s.Routine (s.notify h message) :=
  .ofEnv (s.env.routine_send hm)

theorem routine_editWindow (h : Handle) (f : ManagedState → ManagedState) :
    s.Routine (s.editWindow h f) :=
  { Routine.refl s with }

theorem routine_forgetWindow (h : Handle) : s.Routine (s.forgetWindow h) := { Routine.refl s with }

theorem routine_resetGuestClip : s.Routine (s.act Environment.resetGuestClip) :=
  .ofEnv s.env.routine_resetGuestClip

theorem routine_setCursorPos (p : Point) : s.Routine (s.setCursorPos p) :=
  { Routine.ofEnv ((s.env.routine_warpPointer (s.env.map.toRoot p)).trans (Environment.routine_flush _)) with
    aims := .inr (.inr ⟨[], .warpPointer (s.env.map.toRoot p), [], rfl, rfl, rfl⟩) }

theorem routine_passWarpFence (serial : Serial) : s.Routine (s.passWarpFence serial).1 := by
  refine { Routine.refl s with aims := ?_ }
  rcases s.seat.input.warpFence.pass_cases serial with kept | released
  · exact .inl kept
  · exact .inr (.inl released)

theorem status_accumulate (a : Accumulator Float) (raw : RawMotionEvent Float) (screen : Rect) :
    (a.accumulate raw screen).1.status = a.status := by
  unfold Accumulator.accumulate Accumulator.advance
  grind

theorem routine_accumulateRaw (raw : RawMotionEvent Float) : s.Routine (s.accumulateRaw raw).1 := by
  have hs := status_accumulate s.seat.input.raw raw s.env.virtualScreen
  have idle : s.seat.input.raw.IsIdle →
      (s.seat.input.raw.accumulate raw s.env.virtualScreen).1 = s.seat.input.raw :=
    fun off => congrArg Prod.fst (off.accumulate raw s.env.virtualScreen)
  unfold accumulateRaw
  dsimp only
  split
  · exact { Routine.ofEnv (s.env.routine_feed _ _) with rawStatus := hs, rawIdle := idle }
  · exact { Routine.refl s with rawStatus := hs, rawIdle := idle }
  · exact { Routine.refl s with rawStatus := hs, rawIdle := idle }

theorem routine_rawMotion (serial : Serial) (raw : RawMotionEvent Float) :
    s.Routine (s.rawMotion serial raw).1 := by
  unfold rawMotion
  split
  · have hp := s.routine_passWarpFence serial
    split
    · next h => rw [h] at hp; exact hp
    · next h => rw [h] at hp; exact hp.trans (routine_accumulateRaw _ raw)
  · exact s.routine_accumulateRaw raw

theorem routine_deviceChanged (change : DeviceChangeEvent Float) :
    s.Routine (s.deviceChanged change).1 := by
  refine { Routine.refl s with rawStatus := ?_, rawIdle := fun off => off.follow change }
  change (s.seat.input.raw.follow change).status = _
  unfold Accumulator.follow
  split <;> rfl

end Scene

end GuestSeat
