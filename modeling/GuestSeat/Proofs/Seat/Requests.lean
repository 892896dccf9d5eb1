import GuestSeat.Proofs.Clip.Run

/-!
The requests of a run, with their serials. Every call numbers its requests and arms the fence at none but those that
move the pointer. A log of a run lists the requests of the seat, each with its serial and with the coordinate map that
was in force when it was made; what the surroundings do between the calls may take up serials as well.
-/

namespace GuestSeat

namespace Scene

variable {s t : Scene}

theorem numbered_tell (s : Scene) (h : Handle) (message : GuestMessage) : s.Numbered (s.tell h message) := by
  unfold tell act Environment.tell Environment.post Environment.deliver
  dsimp only
  split
  · next told =>
      split at told <;> cases told
      exact .of_eq rfl rfl rfl
  · exact .refl s

theorem numbered_useSurface (s : Scene) : s.Numbered s.useSurface.1 := by
  have silent : s.env.useCaptureSurface.1.journal.requests = s.env.journal.requests ∧
      s.env.useCaptureSurface.1.lastSerial = s.env.lastSerial := by
    unfold Environment.useCaptureSurface
    split
    · split <;> exact ⟨rfl, rfl⟩
    · exact ⟨rfl, rfl⟩
  unfold useSurface
  split
  · exact .refl s
  · exact .of_eq silent.1 silent.2 rfl

theorem numbered_destroyWindow (s : Scene) (h : Handle) : s.Numbered (s.act fun env => env.destroyWindow h) := by
  unfold act Environment.destroyWindow
  dsimp only
  split <;> exact .of_eq rfl rfl rfl

theorem numbered_reportOwner (s : Scene) (source target : Handle) : s.Numbered (s.reportOwner source target) := by
  unfold reportOwner
  split
  · exact .of_eq rfl rfl rfl
  · exact s.numbered_tell _ _

theorem numbered_enableRaw (s : Scene) : s.Numbered s.enableRaw.1 := by
  have asked := Numbered.request s .enableRawMotion
  unfold enableRaw
  split
  · exact .refl s
  · exact .refl s
  all_goals
    dsimp only
    split <;> exact asked.trans (.of_eq rfl rfl rfl)

theorem numbered_disableRaw (s : Scene) : s.Numbered s.disableRaw := by
  unfold disableRaw
  split
  · exact (Numbered.request s .disableRawMotion).trans (.of_eq rfl rfl rfl)
  · exact .refl s

theorem numbered_abandonGrab (s : Scene) (surface : HostWindow) (capture : Handle) :
    s.Numbered (s.abandonGrab surface capture) := by
  let freed := (s.request .ungrabPointer).request (.unmap surface)
  have asked : s.Numbered freed := (Numbered.request s _).trans (.request _ _)
  have ended := (asked.trans freed.numbered_disableRaw).trans (freed.disableRaw.numbered_destroyWindow capture)
  have dropped : s.Numbered (freed.disableRaw.act fun env => env.destroyWindow capture).dropClip :=
    ended.trans (.of_eq rfl rfl rfl)
  unfold abandonGrab
  dsimp only
  split
  · exact dropped
  · exact dropped.trans (numbered_reportOwner _ _ _)

theorem numbered_establish (s : Scene) (surface : HostWindow) (region : ClipRegion) :
    s.Numbered (s.establish surface region) := by
  let held := s.edit fun i => { i with clip := some region }
  let shown := if !s.seat.input.isClipping then held.syncCursor surface else held
  let above : Scene := { shown with
    seat := { shown.seat with tracker := { shown.seat.tracker with window := region.captureWindow } } }
  have noted : s.Numbered held := .of_eq rfl rfl rfl
  have synced : held.Numbered shown := by
    dsimp only [shown]
    split
    · exact (held.quiet_syncCursor surface).numbered
    · exact .refl held
  have followed : shown.Numbered above := .of_eq rfl rfl rfl
  exact ((noted.trans synced).trans followed).trans (above.numbered_reportOwner _ _)

/-- The fence is armed between two requests, at the second of them. -/
theorem numbered_aimed (s : Scene) (shrinks : Bool) (surface : HostWindow) :
    s.Numbered ((if shrinks then s.armWarpFence else s).request (.grabPointer surface)) := by
  cases shrinks with
  | true => exact ⟨s.env.numbers_request _, .inr (.inr ⟨[], .grabPointer surface, [], rfl, rfl, rfl⟩)⟩
  | false => exact .request s _

theorem numbered_confine (s : Scene) (surface : HostWindow) (region : ClipRegion) :
    s.Numbered (s.confine surface region).1 := by
  let shrinks := s.seat.input.clip.all fun previous => region.rect.restricts previous.rect
  let shown := s.showSurface surface region.rect
  let ready := (if shrinks then shown.armWarpFence else shown).request (.grabPointer surface)
  have placed : s.Numbered shown := ((Numbered.request s _).trans (.request _ _)).trans (.request _ _)
  have asked : s.Numbered ready := placed.trans (shown.numbered_aimed shrinks surface)
  change s.Numbered (if ready.env.grabSucceeds then (ready.establish surface region, true)
    else (ready.abandonGrab surface region.captureWindow, false)).1
  split
  · exact asked.trans (ready.numbered_establish surface region)
  · exact asked.trans (ready.numbered_abandonGrab surface _)

theorem numbered_beginClip (s : Scene) (surface : HostWindow) (rect : Rect) (kind : ClipKind) :
    s.Numbered (s.beginClip surface rect kind).1 := by
  let created : Scene := { s with env := s.env.createCaptureWindow.1 }
  have made : s.Numbered created := .of_eq rfl rfl rfl
  have asked : s.Numbered created.enableRaw.1 := made.trans created.numbered_enableRaw
  cases raw : created.enableRaw with
  | mk v on =>
      rw [raw] at asked
      rw [s.beginClip_eq surface rect kind raw]
      cases on with
      | false =>
          have declined := asked.trans (v.numbered_destroyWindow s.standing.fresh)
          exact declined.trans (.of_eq rfl rfl rfl)
      | true =>
          have hidden : s.Numbered (v.request (.unmap surface)) := asked.trans (.request _ _)
          exact hidden.trans (numbered_confine _ surface _)

theorem numbered_grab (s : Scene) (rect : Rect) (kind : ClipKind) : s.Numbered (s.grab rect kind).1 := by
  have used := s.numbered_useSurface
  unfold grab
  split
  · exact .refl s
  split
  · exact .refl s
  split
  · next found => rw [found] at used; exact used
  · next t surface found =>
      rw [found] at used
      split
      · exact used.trans (t.numbered_beginClip surface rect kind)
      · exact used.trans (t.numbered_confine surface _)

theorem numbered_release (s : Scene) (report : Bool) : s.Numbered (s.release report) := by
  have closing : ∀ (t : Scene) (h : Handle), s.Numbered t → s.Numbered
      (if report then (t.disableRaw.act fun env => env.destroyWindow h).reportOwner h .null
        else t.disableRaw.act fun env => env.destroyWindow h) := by
    intro t h before
    have closed := (before.trans t.numbered_disableRaw).trans (numbered_destroyWindow _ h)
    split
    · exact closed.trans (numbered_reportOwner _ h .null)
    · exact closed
  unfold release
  split
  · exact .refl s
  · apply closing
    have dropped : s.Numbered s.dropClip := .of_eq rfl rfl rfl
    have ungrabbed := dropped.trans (.request _ .ungrabPointer)
    split
    · exact ungrabbed
    · exact ungrabbed.trans (.request _ _)

theorem Deed.numbered {L : Licence} {n : Nat} (deed : Deed L n s t) : s.Numbered t := by
  cases deed with
  | routine h => exact h.toQuiet.numbered
  | touch region w => exact (s.quiet_visit region.captureWindow (some w)).numbered
  | visit h info => exact (s.quiet_visit h info.host).numbered
  | confine rect => exact s.numbered_grab rect .explicit
  | cover u since => exact since.toQuiet.numbered.trans (u.numbered_grab _ .fullscreen)
  | release report => exact s.numbered_release report
  | mark => exact s.quiet_markReset.numbered

theorem Special.numbered {call : Call} (special : Special s call t) : s.Numbered t := by
  cases special with
  | chosen cursor => exact (s.quiet_setCursor cursor).numbered
  | destroyed cursor => exact (s.quiet_destroyCursor cursor).numbered
  | shown h cursor => exact (s.quiet_defineCursor h cursor).numbered
  | ignored => exact .refl s
  | heard => exact .of_eq rfl rfl rfl
  | ruled _ _ _ registry evicted =>
      have heard : s.Numbered { s with seat := { s.seat with registry := some registry } } := .of_eq rfl rfl rfl
      exact heard.trans (numbered_tell _ _ _)

/-- Whatever a call does, its requests are numbered, and the fence is armed at none but those that move the
pointer. -/
theorem numbered_call {call : Call} (taken : s.call? call = some t) : s.Numbered t := by
  by_cases ordinary : call.IsOrdinary
  · exact (s.doings_licence taken ordinary).preserves (P := fun _ u => s.Numbered u)
      (fun deed hu => hu.trans deed.numbered) id (fun _ _ hu => hu.trans (.of_eq rfl rfl rfl)) 0 (.refl s)
  · exact (s.special_of_call taken ordinary).numbered

/-- A request of a seat, with its serial and the coordinate map that was in force. -/
structure Issue where
  serial : Serial
  map : CoordinateMap
  request : HostRequest

/-- What the log has of the next requests from a scene on. -/
def numbering (s : Scene) (made : List HostRequest) : List Issue :=
  made.mapIdx fun i request => { serial := s.env.lastSerial.after (i + 1), map := s.env.map, request }

/-- The requests made on the way from one scene to another. -/
def madeUntil (s t : Scene) : List HostRequest :=
  t.env.journal.requests.drop s.env.journal.requests.length

theorem madeUntil_eq {made : List HostRequest}
    (requests : t.env.journal.requests = s.env.journal.requests ++ made) : s.madeUntil t = made := by
  rw [madeUntil, requests, List.drop_left]

/-- A scene that turns of a kind lead to, with the log of the seat's requests on the way. -/
inductive Logged (allowed : Scene → Turn → Prop) (start : Scene) : List Issue → Scene → Prop
  | start : Logged allowed start [] start
  | call {log : List Issue} {s t : Scene} {call : Call} (run : Logged allowed start log s)
      (ok : allowed s (.call call)) (taken : s.call? call = some t) :
      Logged allowed start (log ++ s.numbering (s.madeUntil t)) t
  | change {log : List Issue} {s : Scene} {env : Environment} (run : Logged allowed start log s)
      (ok : allowed s (.change env)) : Logged allowed start log { s with env }

variable {allowed : Scene → Turn → Prop} {start : Scene}

/-- The log of one call. -/
theorem Logged.single (call : Call) (ok : allowed start (.call call)) (taken : start.call? call = some t) :
    Logged allowed start (start.numbering (start.madeUntil t)) t := .call .start ok taken

end Scene

end GuestSeat
