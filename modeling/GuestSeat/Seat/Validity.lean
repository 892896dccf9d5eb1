import GuestSeat.Seat.Basic

/-!
What always holds of a thread's input state between events: a clip is a part of the virtual screen, has
a capture window and a capture surface behind it and raw motion switched on, and the desktop's thread
never holds one.
-/

namespace GuestSeat

/-- How an input state can be at odds with itself or with the screen. -/
inductive Violation
  | emptyClip (clip : Rect)
  | clipOutsideScreen (clip screen : Rect)
  | noCaptureWindow
  | noCaptureSurface
  | rawMotionOff (status : RawStatus)
  | desktopClips
  /-- An event is still on record as in flight. -/
  | staleInFlight
deriving DecidableEq

def Violation.message : Violation → String
  | .emptyClip clip => "Clip rectangle " ++ clip.text ++ " is empty"
  | .clipOutsideScreen clip screen =>
    "Clip rectangle " ++ clip.text ++ " extends beyond the virtual screen " ++ screen.text
  | .noCaptureWindow => "Clipping without a capture window"
  | .noCaptureSurface => "Clipping without a capture surface"
  | .rawMotionOff status => "Clipping while raw motion is " ++ status.title
  | .desktopClips => "Desktop thread holds a clip"
  | .staleInFlight => "Re-entrancy guard left set outside of dispatch"

namespace InputState

def clipViolation? (i : InputState) (env : Environment) (region : ClipRegion) : Option Violation :=
  if region.rect.isEmpty then some (.emptyClip region.rect)
  else if !region.rect.isWithin env.virtualScreen then
    some (.clipOutsideScreen region.rect env.virtualScreen)
  else if region.captureWindow.isNull then some .noCaptureWindow
  else if i.captureSurface.isNone then some .noCaptureSurface
  else if !i.raw.isEnabled then some (.rawMotionOff i.raw.status)
  else if env.threadOf? Environment.desktop == some env.thread then some .desktopClips
  else none

/-- The first violation, if there is one; an event may be in flight. -/
def violation? (i : InputState) (env : Environment) : Option Violation :=
  i.clip.bind (i.clipViolation? env)

/-- The first violation between events, if there is one. -/
def idleViolation? (i : InputState) (env : Environment) : Option Violation :=
  if i.isHandling then some .staleInFlight else i.violation? env

end InputState

/-- The first violation of a seat between events, if there is one. -/
def Scene.violation? (s : Scene) : Option Violation := s.seat.input.idleViolation? s.env

end GuestSeat
