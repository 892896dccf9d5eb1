import GuestSeat.Proofs.Seat.Handlers
import Mathlib.Logic.Relation

/-!
What a seat does, in errands. An errand is one elementary act: a question to a window or to the host, a
request, a message, input for the guest, a note that the seat makes for itself. To command or to place
a window of the guest is no errand, and neither is to put an event back on the queue. Which windows are
brought to the foreground is kept track of. The clip, the cursor, raw motion and the pointer bring none.
-/

namespace GuestSeat

def GuestMessage.isCommand : GuestMessage → Bool
  | .sysCommand _ => true
  | _ => false

def Delivered.isQuestion : Delivered → Bool
  | ⟨_, .mouseActivate _ _, true⟩ | ⟨_, .clipRequest, true⟩ | ⟨_, .queryClipOwner, true⟩ => true
  | _ => false

namespace Environment

def backdrop (env : Environment) : Environment :=
  { env with
    tick := 0
    lastSerial := ⟨0⟩
    journal := { env.journal with requests := [], messages := [] } }

structure Asked (a b : Environment) : Prop where
  backdrop : b.backdrop = a.backdrop
  messages : Appends (fun d => d.isQuestion = true) a.journal.messages b.journal.messages

variable {a b c : Environment}

theorem Asked.refl (a : Environment) : a.Asked a := ⟨rfl, .refl _ _⟩

theorem Asked.trans (first : a.Asked b) (second : b.Asked c) : a.Asked c :=
  ⟨second.backdrop.trans first.backdrop, first.messages.trans second.messages⟩

/-- Whatever does not look at what questions leave behind is the same before the same backdrop. -/
theorem eq_of_backdrop {α : Sort _} (same : b.backdrop = a.backdrop) (f : Environment → α)
    (blind : ∀ env : Environment, f env.backdrop = f env) : f b = f a :=
  calc
    f b = f b.backdrop := (blind b).symm
    _ = f a.backdrop := congrArg f same
    _ = f a := blind a

theorem Asked.keeps {α : Sort _} (asked : a.Asked b) (f : Environment → α)
    (blind : ∀ env : Environment, f env.backdrop = f env) : f b = f a :=
  eq_of_backdrop asked.backdrop f blind

theorem asked_request (env : Environment) (r : HostRequest) : env.Asked (env.request r) :=
  ⟨rfl, .refl _ _⟩

/-- A message that arrives does so at a window that is there, and only the journal tells of it. -/
theorem deliver_eq_ok {env next : Environment} {h : Handle} {message : GuestMessage} {sync : Bool}
    (done : env.deliver h message sync = .ok next) :
    (h.isNull || !env.windows.contains h) = false ∧
      next = env.note fun j => { j with messages := j.messages ++ [⟨h, message, sync⟩] } := by
  unfold deliver at done
  split at done
  · cases done
  · next there =>
      cases done
      exact ⟨eq_false_of_ne_true there, rfl⟩

theorem asked_sendWithin (env : Environment) {h : Handle} {message : GuestMessage} (timeout : Nat)
    (question : Delivered.isQuestion ⟨h, message, true⟩ = true) :
    env.Asked (env.sendWithin h message timeout).1 := by
  unfold sendWithin send
  split
  · exact ⟨rfl, .refl _ _⟩
  · split
    · next done =>
        obtain ⟨-, rfl⟩ := deliver_eq_ok done
        exact ⟨rfl, .single question⟩
    · exact .refl env

end Environment

namespace Scene

structure Asked (s t : Scene) : Prop where
  seat : t.seat = s.seat
  env : s.env.Asked t.env

variable {s t u : Scene}

theorem Asked.refl (s : Scene) : s.Asked s := ⟨rfl, .refl _⟩

theorem Asked.trans (first : s.Asked t) (second : t.Asked u) : s.Asked u :=
  ⟨second.seat.trans first.seat, first.env.trans second.env⟩

/-- One elementary act, where only windows of a kind are brought to the foreground. -/
inductive Errand (front : Handle → Prop) : Scene → Scene → Prop
  | asked {s t : Scene} (h : s.Asked t) : Errand front s t
  | noted {s t : Scene} (same : t.env = s.env) : Errand front s t
  | requested {s : Scene} (r : HostRequest) : Errand front s (s.request r)
  | told {s : Scene} {env : Environment} {h : Handle} {message : GuestMessage} {sync : Bool}
      (plain : message.isCommand = false) (done : s.env.deliver h message sync = .ok env) :
      Errand front s { s with env }
  | fed {s : Scene} (h : Handle) (input : GuestInput) : Errand front s (s.act fun env => env.feed h input)
  | opened {s : Scene} : Errand front s (s.act Environment.resetGuestClip)
  | created {s : Scene} : Errand front s { s with env := s.env.createCaptureWindow.1 }
  | destroyed {s : Scene} (h : Handle) : Errand front s (s.act fun env => env.destroyWindow h)
  | surfaced {s : Scene} : Errand front s { s with env := s.env.useCaptureSurface.1 }
  | focused {s : Scene} (w : HostWindow) :
      Errand front s (s.act fun env => { env with inputFocus := some w })
  | activated {s : Scene} (h : Handle) : Errand front s (s.act fun env => { env with active := h })
  | reparented {s : Scene} (h : Handle) (w : HostWindow) :
      Errand front s { s with env := (s.env.reparent h w).1 }
  | fronted {s : Scene} (h : Handle) (leave : front h) : Errand front s (s.setForeground h)

def Errands (front : Handle → Prop) : Scene → Scene → Prop := Relation.ReflTransGen (Errand front)

variable {front : Handle → Prop}

namespace Errands

theorem refl (s : Scene) : Errands front s s := Relation.ReflTransGen.refl

theorem one (h : Errand front s t) : Errands front s t := .single h

theorem trans (first : Errands front s t) (second : Errands front t u) : Errands front s u :=
  Relation.ReflTransGen.trans first second

theorem asked (h : s.Asked t) : Errands front s t := one (.asked h)

theorem noted (same : t.env = s.env) : Errands front s t := one (.noted same)

theorem requested (r : HostRequest) : Errands front s (s.request r) := one (.requested r)

theorem fed (h : Handle) (input : GuestInput) :
    Errands front s (s.act fun env => env.feed h input) := one (.fed h input)

theorem tell (h : Handle) {message : GuestMessage} (plain : message.isCommand = false) :
    Errands front s (s.tell h message) := by
  unfold Scene.tell act Environment.tell Environment.post
  dsimp only
  split
  · next done => exact one (.told plain done)
  · exact refl s

theorem notify (h : Handle) {message : GuestMessage} (plain : message.isCommand = false) :
    Errands front s (s.notify h message) := by
  unfold Scene.notify act Environment.send
  dsimp only
  split
  · next done => exact one (.told plain done)
  · exact refl s

end Errands

variable (s)

theorem asked_canGrab : s.Asked s.canGrab.1 := by
  unfold canGrab
  split
  · exact .refl s
  · exact ⟨rfl, s.env.asked_request _⟩

theorem asked_queryOwner : s.Asked s.queryOwner.1 := by
  unfold queryOwner
  split
  · exact .refl s
  · have question : Delivered.isQuestion ⟨Environment.desktop, .queryClipOwner, true⟩ = true := rfl
    have sent := s.env.asked_sendWithin s.seat.config.focus.probeTimeout question
    split
    · next found => rw [found] at sent; exact ⟨rfl, sent⟩
    · next found => rw [found] at sent; exact ⟨rfl, sent⟩

theorem asked_probeActivation (h : Handle) (hit : HitTest) :
    s.Asked (s.probeActivation h hit).1 := by
  have question : Delivered.isQuestion ⟨h, .mouseActivate (s.env.ancestorRoot h) hit, true⟩ = true := rfl
  have sent := s.env.asked_sendWithin s.seat.config.focus.probeTimeout question
  unfold probeActivation
  dsimp only
  split
  · next answered => rw [answered] at sent; exact ⟨rfl, sent⟩
  · next silent => rw [silent] at sent; exact ⟨rfl, sent⟩

theorem asked_agreesToActivate (h : Handle) : s.Asked (s.agreesToActivate h).1 := by
  unfold agreesToActivate
  split
  · exact s.asked_probeActivation h .menu
  · exact .refl s

theorem asked_askForClip : s.Asked s.askForClip := by
  unfold askForClip
  split
  · exact .refl s
  · exact ⟨rfl, s.env.asked_sendWithin _ rfl⟩

theorem showCursor_errands (w : HostWindow) (cursor : Option CursorId) :
    Errands front s (s.showCursor w cursor) := by
  cases cursor with
  | none => exact .requested _
  | some c =>
      have realized : Errands front s (s.realize (some c)).1 := .noted rfl
      exact realized.trans (.requested _)

theorem syncCursor_errands (w : HostWindow) : Errands front s (s.syncCursor w) :=
  s.showCursor_errands w _

theorem enableRaw_errands : Errands front s s.enableRaw.1 := by
  have asked : Errands front s (s.request .enableRawMotion) := .requested _
  unfold enableRaw
  split
  · exact .refl s
  · exact .refl s
  all_goals
    dsimp only
    split <;> exact asked.trans (.noted rfl)

theorem disableRaw_errands : Errands front s s.disableRaw := by
  unfold disableRaw
  split
  · exact (Errands.requested .disableRawMotion).trans (.noted rfl)
  · exact .refl s

theorem accumulateRaw_errands (raw : RawMotionEvent Float) :
    Errands front s (s.accumulateRaw raw).1 := by
  have taken : Errands front s (s.editRaw fun _ =>
      (s.seat.input.raw.accumulate raw s.env.virtualScreen).1) := .noted rfl
  unfold accumulateRaw
  dsimp only
  split
  · exact taken.trans (.fed _ _)
  · exact taken
  · exact taken

theorem rawMotion_errands (serial : Serial) (raw : RawMotionEvent Float) :
    Errands front s (s.rawMotion serial raw).1 := by
  unfold rawMotion
  split
  · have passed : Errands front s (s.passWarpFence serial).1 := .noted rfl
    split
    · next found => rw [found] at passed; exact passed
    · next t found => rw [found] at passed; exact passed.trans (t.accumulateRaw_errands raw)
  · exact s.accumulateRaw_errands raw

theorem useSurface_errands : Errands front s s.useSurface.1 := by
  unfold useSurface
  split
  · exact .refl s
  · have surfaced : Errands front s { s with env := s.env.useCaptureSurface.1 } := .one .surfaced
    exact surfaced.trans (.noted rfl)

theorem reportOwner_errands (source target : Handle) :
    Errands front s (s.reportOwner source target) := by
  unfold reportOwner
  split
  · exact .noted rfl
  · exact .tell _ rfl

theorem destroyWindow_errands (h : Handle) :
    Errands front s (s.act fun env => env.destroyWindow h) := .one (.destroyed h)

theorem abandonGrab_errands (surface : HostWindow) (capture : Handle) :
    Errands front s (s.abandonGrab surface capture) := by
  let freed := (s.request .ungrabPointer).request (.unmap surface)
  have asked : Errands front s freed := (Errands.requested _).trans (.requested _)
  have ended := (asked.trans freed.disableRaw_errands).trans
    (freed.disableRaw.destroyWindow_errands capture)
  have dropped : Errands front s ((freed.disableRaw.act fun env => env.destroyWindow capture).dropClip) :=
    ended.trans (.noted rfl)
  unfold abandonGrab
  dsimp only
  split
  · exact dropped
  · exact dropped.trans (reportOwner_errands _ _ _)

theorem establish_errands (surface : HostWindow) (region : ClipRegion) :
    Errands front s (s.establish surface region) := by
  let held := s.edit fun i => { i with clip := some region }
  let shown := if !s.seat.input.isClipping then held.syncCursor surface else held
  let above : Scene := { shown with
    seat := { shown.seat with tracker := { shown.seat.tracker with window := region.captureWindow } } }
  have noted : Errands front s held := .noted rfl
  have synced : Errands front held shown := by
    dsimp only [shown]
    split
    · exact held.syncCursor_errands surface
    · exact .refl held
  have followed : Errands front shown above := .noted rfl
  exact ((noted.trans synced).trans followed).trans (above.reportOwner_errands _ _)

theorem confine_errands (surface : HostWindow) (region : ClipRegion) :
    Errands front s (s.confine surface region).1 := by
  let shown := s.showSurface surface region.rect
  let aimed := if s.seat.input.clip.all fun previous => region.rect.restricts previous.rect
    then shown.armWarpFence else shown
  have placed : Errands front s shown :=
    ((Errands.requested _).trans (.requested _)).trans (.requested _)
  have armed : Errands front shown aimed := by
    dsimp only [aimed]
    split
    · exact .noted rfl
    · exact .refl shown
  let ready := aimed.request (.grabPointer surface)
  have asked : Errands front s ready := (placed.trans armed).trans (.requested _)
  change Errands front s (if ready.env.grabSucceeds then (ready.establish surface region, true)
    else (ready.abandonGrab surface region.captureWindow, false)).1
  split
  · exact asked.trans (ready.establish_errands surface region)
  · exact asked.trans (ready.abandonGrab_errands surface _)

theorem beginClip_errands (surface : HostWindow) (rect : Rect) (kind : ClipKind) :
    Errands front s (s.beginClip surface rect kind).1 := by
  let created : Scene := { s with env := s.env.createCaptureWindow.1 }
  have made : Errands front s created := .one .created
  have asked : Errands front s created.enableRaw.1 := made.trans created.enableRaw_errands
  cases raw : created.enableRaw with
  | mk v on =>
      rw [raw] at asked
      rw [s.beginClip_eq surface rect kind raw]
      cases on with
      | false =>
          have declined := asked.trans (v.destroyWindow_errands s.standing.fresh)
          exact declined.trans (.one .opened)
      | true =>
          have hidden : Errands front s (v.request (.unmap surface)) := asked.trans (.requested _)
          exact hidden.trans (confine_errands _ surface _)

theorem grab_errands (rect : Rect) (kind : ClipKind) : Errands front s (s.grab rect kind).1 := by
  have used : Errands front s s.useSurface.1 := s.useSurface_errands
  unfold grab
  split
  · exact .refl s
  split
  · exact .refl s
  split
  · next found => rw [found] at used; exact used
  · next t surface found =>
      rw [found] at used
      split
      · exact used.trans (t.beginClip_errands surface rect kind)
      · exact used.trans (t.confine_errands surface _)

theorem release_errands (report : Bool) : Errands front s (s.release report) := by
  have closing : ∀ (t : Scene) (h : Handle), Errands front s t → Errands front s
      (if report then (t.disableRaw.act fun env => env.destroyWindow h).reportOwner h .null
        else t.disableRaw.act fun env => env.destroyWindow h) := by
    intro t h before
    have closed := (before.trans t.disableRaw_errands).trans (destroyWindow_errands _ h)
    split
    · exact closed.trans (reportOwner_errands _ h .null)
    · exact closed
  unfold release
  split
  · exact .refl s
  · apply closing
    have dropped : Errands front s s.dropClip := .noted rfl
    have ungrabbed := dropped.trans (.requested .ungrabPointer)
    split
    · exact ungrabbed
    · exact ungrabbed.trans (.requested _)

theorem resetClipping_errands : Errands front s s.resetClipping := by
  unfold resetClipping
  split
  · exact (s.release_errands true).trans (.one .opened)
  · exact .refl s

theorem clipToOutput_errands : Errands front s s.clipToOutput.1 := by
  unfold clipToOutput
  dsimp only
  split
  · exact .refl s
  · exact s.grab_errands _ _

theorem clipFullscreen_errands (h : Handle) (reset : Bool) :
    Errands front s (s.clipFullscreen h reset).1 := by
  have asked : Errands front s s.queryOwner.1 := .asked s.asked_queryOwner
  unfold clipFullscreen
  split
  · exact .refl s
  split
  · exact s.clipToOutput_errands
  split
  · exact .refl s
  split
  next t owner found =>
  rw [found] at asked
  split
  · exact asked.trans t.clipToOutput_errands
  · exact asked

theorem captureMouse_errands (a : PointerAction) : Errands front s (s.captureMouse a).1 := by
  unfold captureMouse
  split
  · exact .refl s
  next region _ =>
  split
  · let entered := (s.enterWindow region.captureWindow).1
    have noted : Errands front s entered := .noted rfl
    have shown : Errands front s (if (s.enterWindow region.captureWindow).2
        then entered.syncCursor a.host else entered) := by
      split
      · exact noted.trans (entered.syncCursor_errands a.host)
      · exact noted
    exact shown.trans (.fed _ _)
  · exact .refl s

theorem pressAutoClip_errands (h : Handle) (flags : MouseFlags) :
    Errands front s (s.pressAutoClip h flags) := by
  unfold pressAutoClip
  split
  · dsimp only
    split
    · exact s.clipFullscreen_errands _ false
    · exact .refl s
  · exact .refl s

theorem visit_errands (h : Handle) (host : Option HostWindow) : Errands front s (s.visit h host) := by
  have entered : Errands front s (s.enterWindow h).1 := .noted rfl
  unfold visit
  split
  · exact entered.trans (syncCursor_errands _ _)
  · exact entered

theorem windowMouse_errands (h : Handle) (a : PointerAction) :
    Errands front s (s.windowMouse h a).1 := by
  unfold windowMouse
  split
  · exact .refl s
  · next info _ =>
      have pressed : Errands front s ((s.visit h info.host).pressAutoClip h a.flags) :=
        (s.visit_errands h info.host).trans (pressAutoClip_errands _ h a.flags)
      exact pressed.trans (.fed _ _)

theorem sendMouse_errands (h : Handle) (a : PointerAction) : Errands front s (s.sendMouse h a).1 := by
  unfold sendMouse
  split
  · exact s.captureMouse_errands a
  · exact s.windowMouse_errands h a

theorem key_errands (h : Handle) (e : KeyEvent) : Errands front s (s.key h e).1 := by
  unfold key
  split
  · exact .refl s
  · exact .fed _ _

theorem button_errands (h : Handle) (host : HostWindow) (e : ButtonEvent) :
    Errands front s (s.button h host e).1 := by
  unfold button
  split
  · exact .refl s
  · exact s.sendMouse_errands h _

theorem moveTo_errands (h : Handle) (serial : Serial) (a : PointerAction) :
    Errands front s (s.moveTo h serial a).1 := by
  unfold moveTo
  split
  · have passed : Errands front s (s.passWarpFence serial).1 := .noted rfl
    split
    · next found => rw [found] at passed; exact passed
    · next t found => rw [found] at passed; exact passed.trans (t.sendMouse_errands h a)
  · exact s.sendMouse_errands h a

theorem enter_errands (h : Handle) (host : HostWindow) (serial : Serial) (e : CrossingEvent) :
    Errands front s (s.enter h host serial e).1 := by
  unfold enter
  split
  · exact .refl s
  · exact s.moveTo_errands h serial _

theorem expose_errands (h : Handle) (host : HostWindow) (e : ExposeEvent) :
    Errands front s (s.expose h host e).1 := by
  unfold expose
  split
  · exact .refl s
  · dsimp only
    split
    · next done => exact .one (.told rfl done)
    · exact .refl s

theorem focusHost_errands (info : WindowInfo) (time : Timestamp) :
    Errands front s (s.focusHost info time) := by
  unfold focusHost
  split
  · exact .refl s
  · split
    · exact .requested _
    · exact (Errands.requested _).trans (.one (.focused _))

theorem mapped_errands (h : Handle) (host : HostWindow) : Errands front s (s.mapped h host).1 := by
  unfold mapped
  split
  · exact .refl s
  · split
    · exact .refl s
    · dsimp only
      split
      · exact s.focusHost_errands _ 0
      · exact .refl s

theorem destroyed_errands (h : Handle) : Errands front s (s.destroyed h).1 := by
  unfold destroyed
  split
  · exact .refl s
  · exact .noted rfl

theorem reparented_errands (h : Handle) (e : ReparentEvent) :
    Errands front s (s.reparented h e).1 := by
  unfold reparented
  split
  · exact .refl s
  split
  · exact .tell _ rfl
  have moved : Errands front s { s with env := (s.env.reparent h e.parent).1 } :=
    .one (.reparented h e.parent)
  split
  · next found => rw [found] at moved; exact moved
  · next found =>
      rw [found] at moved
      dsimp only
      split
      · exact moved
      · exact moved.trans (.tell _ rfl)

end Scene

def Journal.commands (j : Journal) : List Delivered := j.messages.filter fun d => d.message.isCommand

structure Docket where
  commands : List Delivered
  placements : List (Handle × Rect × PlacementFlags)
  resent : List EventRecord

namespace Journal

def docket (j : Journal) : Docket := ⟨j.commands, j.placements, j.resent⟩

variable {a b : Journal}

theorem commands_eq (same : b.docket = a.docket) : b.commands = a.commands :=
  congrArg Docket.commands same

theorem placements_eq (same : b.docket = a.docket) : b.placements = a.placements :=
  congrArg Docket.placements same

theorem resent_eq (same : b.docket = a.docket) : b.resent = a.resent := congrArg Docket.resent same

end Journal

theorem Appends.filter_eq {α : Type} {p : α → Prop} {l l' : List α} (appends : Appends p l l')
    {q : α → Bool} (foreign : ∀ a, p a → q a = false) : l'.filter q = l.filter q := by
  obtain ⟨added, rfl, all⟩ := appends
  have none : added.filter q = [] := by
    rw [List.filter_eq_nil_iff]
    intro a member
    simp [foreign a (all a member)]
  rw [List.filter_append, none, List.append_nil]

namespace Environment

variable {env next : Environment} {h : Handle} {message : GuestMessage} {sync : Bool}

theorem docket_deliver (plain : message.isCommand = false)
    (done : env.deliver h message sync = .ok next) : next.journal.docket = env.journal.docket := by
  obtain ⟨-, rfl⟩ := deliver_eq_ok done
  simp [note, Journal.docket, Journal.commands, plain]

theorem Asked.docket {a b : Environment} (asked : a.Asked b) : b.journal.docket = a.journal.docket := by
  have commands : b.journal.commands = a.journal.commands := by
    refine asked.messages.filter_eq fun d question => ?_
    obtain ⟨k, m, sync⟩ := d
    cases m <;> simp [Delivered.isQuestion, GuestMessage.isCommand] at question ⊢
  have placements := asked.keeps (fun env => env.journal.placements) fun _ => rfl
  have resent := asked.keeps (fun env => env.journal.resent) fun _ => rfl
  unfold Journal.docket
  rw [commands, placements, resent]

end Environment

namespace Scene

variable {s t : Scene} {front : Handle → Prop}

/-- An errand adds nothing to the docket, and brings to the foreground only what may be there. -/
theorem Errand.keeps (errand : Errand front s t) : t.env.journal.docket = s.env.journal.docket ∧
    (t.env.foreground = s.env.foreground ∨ front t.env.foreground) := by
  cases errand with
  | asked asked => exact ⟨asked.env.docket, .inl (asked.env.keeps Environment.foreground fun _ => rfl)⟩
  | noted same =>
      rw [same]
      exact ⟨rfl, .inl rfl⟩
  | told plain done =>
      refine ⟨Environment.docket_deliver plain done, .inl ?_⟩
      obtain ⟨-, rfl⟩ := Environment.deliver_eq_ok done
      rfl
  | destroyed h =>
      unfold act Environment.destroyWindow
      dsimp only
      split <;> exact ⟨rfl, .inl rfl⟩
  | surfaced =>
      unfold Environment.useCaptureSurface
      split
      · split <;> exact ⟨rfl, .inl rfl⟩
      · exact ⟨rfl, .inl rfl⟩
  | reparented h w =>
      unfold Environment.reparent
      split <;> exact ⟨rfl, .inl rfl⟩
  | fronted h leave => exact ⟨rfl, .inr leave⟩
  | requested _ | fed _ _ | opened | created | focused _ | activated _ => exact ⟨rfl, .inl rfl⟩

theorem Errands.docket (errands : Errands front s t) :
    t.env.journal.docket = s.env.journal.docket := by
  induction errands with
  | refl => rfl
  | tail _ errand ih => exact errand.keeps.1.trans ih

theorem Errands.foreground (errands : Errands front s t) :
    t.env.foreground = s.env.foreground ∨ front t.env.foreground := by
  induction errands with
  | refl => exact .inl rfl
  | tail _ errand ih =>
      rcases errand.keeps.2 with same | may
      · rw [same]
        exact ih
      · exact .inr may

end Scene

end GuestSeat
