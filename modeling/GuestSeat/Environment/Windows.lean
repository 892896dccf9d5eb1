import GuestSeat.Environment.Basic

/-!
The window table: what is known of a window, who its ancestors are, and how windows come, change and go.
Walks along parents are bounded by the size of the table, which no walk without a cycle exceeds.
-/

namespace GuestSeat

namespace Environment

variable (env : Environment)

def info? (h : Handle) : Option WindowInfo := (env.windows.get? h).map HostedWindow.info

/-- The window of the table that a host window belongs to. -/
def hosted? (w : HostWindow) : Option HostedWindow :=
  env.windows.values.find? fun hosted => hosted.info.host == some w

def lookup? (w : HostWindow) : Option Handle := (env.hosted? w).map fun hosted => hosted.info.handle

def host? (h : Handle) : Option HostWindow := (env.info? h).bind WindowInfo.host

def geometry? (h : Handle) : Option Rect := (env.info? h).map WindowInfo.windowRect

/-- The style of a window; none of the bits if there is no such window. -/
def style (h : Handle) : WindowStyle := ((env.info? h).map WindowInfo.style).getD Flags.empty

/-- The extended style of a window; none of the bits if there is no such window. -/
def extendedStyle (h : Handle) : ExtendedStyle :=
  ((env.info? h).map WindowInfo.extendedStyle).getD Flags.empty

def owner? (h : Handle) : Option WindowOwner :=
  (env.info? h).map fun info => { thread := info.thread, inProcess := !info.foreign }

def threadOf? (h : Handle) : Option ThreadId := (env.info? h).map WindowInfo.thread

/-- The parent of a window, null at the top level. -/
def parent (h : Handle) : Handle := ((env.info? h).map WindowInfo.parent).getD Handle.null

/-- The ancestor of a window at the top level, looked for along at most so many windows; null if the walk
leaves the table. -/
def rootWithin : Nat → Handle → Handle
  | 0, _ => Handle.null
  | steps + 1, h =>
    match env.info? h with
    | none => Handle.null
    | some info =>
      if info.parent.isNull || info.parent == desktop then h else rootWithin steps info.parent

def ancestorRoot (h : Handle) : Handle := env.rootWithin (env.windows.size + 1) h

/-- Whether `ancestor` is `h` or one of the next ancestors of it, at most so many. -/
def isAmong (ancestor : Handle) : Nat → Handle → Bool
  | 0, _ => false
  | steps + 1, h => !h.isNull && (h == ancestor || isAmong ancestor steps (env.parent h))

def isChild (ancestor h : Handle) : Bool :=
  env.isAmong ancestor (env.windows.size + 1) (env.parent h)

def editWindow (h : Handle) (f : HostedWindow → HostedWindow) : Environment :=
  { env with windows := env.windows.modify h f }

def editInfo (h : Handle) (f : WindowInfo → WindowInfo) : Environment :=
  env.editWindow h fun hosted => { hosted with info := f hosted.info }

/-- Add a window as described; handles given out later are larger. -/
def addWindow (info : WindowInfo) : Environment :=
  { env with
    nextHandle := max env.nextHandle (info.handle.id + 1)
    windows := env.windows.insert info.handle { info } }

def takeHandle : Environment × Handle :=
  ({ env with nextHandle := env.nextHandle + 2 }, ⟨env.nextHandle⟩)

def takeHost : Environment × HostWindow :=
  ({ env with nextHost := env.nextHost + 1 }, ⟨env.nextHost⟩)

/-- Create a managed and mapped window at the top level with a host window of its own, on the running
thread. -/
def createWindow (style : WindowStyle) (rect : Rect) : Environment × Handle × HostWindow :=
  let (env, handle) := env.takeHandle
  let (env, host) := env.takeHost
  let info := { WindowInfo.plain handle style rect with
    host := some host, managed := true, mapped := true, thread := env.thread }
  ({ env with windows := env.windows.insert handle { info, wmState := some .normal } }, handle, host)

def createCaptureWindow : Environment × Handle :=
  let (env, handle) := env.takeHandle
  let info := { WindowInfo.plain handle WindowStyle.popup ⟨0, 0, 0, 0⟩ with thread := env.thread }
  (env.addWindow info, handle)

def destroyWindow (h : Handle) : Environment :=
  if env.windows.contains h then
    { env with
      windows := env.windows.erase h
      journal := { env.journal with destroyed := env.journal.destroyed ++ [h] } }
  else env

def placed (current rect : Rect) (flags : PlacementFlags) : Rect :=
  let corner := if flags.contains PlacementFlags.keepPosition then current.topLeft else rect.topLeft
  let size := if flags.contains PlacementFlags.keepSize then current else rect
  ⟨corner.x, corner.y, corner.x + size.width, corner.y + size.height⟩

/-- Place a window; the client area then fills it. -/
def placeWindow (h : Handle) (rect : Rect) (flags : PlacementFlags) : Environment :=
  (env.note fun j => { j with placements := j.placements ++ [(h, rect, flags)] }).editInfo h
    fun info =>
      let target := placed info.windowRect rect flags
      { info with windowRect := target, clientRect := target }

/-- Move a window under the guest window behind a host window, under the desktop for the root. The
answer is its parent before, if both windows are there. -/
def reparent (h : Handle) (hostParent : HostWindow) : Environment × Option Handle :=
  match if hostParent == root then some desktop else env.lookup? hostParent, env.info? h with
  | some target, some info =>
    (env.editInfo h fun info => { info with parent := target },
      some (if info.parent.isNull then desktop else info.parent))
  | _, _ => (env, none)

end Environment

end GuestSeat
