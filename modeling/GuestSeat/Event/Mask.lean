import GuestSeat.Event.Basic
import GuestSeat.Flags

/-!
The categories of guest work that a waiting caller can ask for, and which of them a host event can
produce. Draining the host queue takes only the events that may produce what is asked for.
-/

namespace GuestSeat

/-- The names of the categories; the last four are unions of others. -/
def queueMaskNames : FlagTable :=
  [("KEY", 0x0001), ("MOUSEMOVE", 0x0002), ("MOUSEBUTTON", 0x0004), ("POSTMESSAGE", 0x0008),
    ("TIMER", 0x0010), ("PAINT", 0x0020), ("SENDMESSAGE", 0x0040), ("HOTKEY", 0x0080),
    ("RAWINPUT", 0x0400), ("MOUSE", 0x0006), ("INPUT", 0x0407), ("ALLEVENTS", 0x04bf),
    ("ALLINPUT", 0x04ff)]

abbrev QueueMask := Flags queueMaskNames

namespace QueueMask

def key : QueueMask := ⟨0x0001⟩

def mouseMove : QueueMask := ⟨0x0002⟩

def mouseButton : QueueMask := ⟨0x0004⟩

def postedMessage : QueueMask := ⟨0x0008⟩

def paint : QueueMask := ⟨0x0020⟩

def sentMessage : QueueMask := ⟨0x0040⟩

def hotkey : QueueMask := ⟨0x0080⟩

def input : QueueMask := ⟨0x0407⟩

def allInput : QueueMask := ⟨0x04ff⟩

end QueueMask

namespace EventKind

def categories : EventKind → QueueMask
  | .key _ => QueueMask.key ||| QueueMask.hotkey
  | .button _ => QueueMask.mouseButton
  | .motion _ | .enter _ | .leave _ => QueueMask.mouseMove
  | .expose _ => QueueMask.paint
  | .focusIn _ | .focusOut _ | .map | .unmap | .destroy | .configure _ | .property _
  | .clientMessage _ => QueueMask.postedMessage
  | .generic (.rawMotion _) => QueueMask.input
  | .generic (.deviceChanged _) => QueueMask.input ||| QueueMask.mouseButton
  | .generic _ | .reparent _ | .gravity _ => QueueMask.sentMessage

end EventKind

/-- Whether a caller that asks for `mask` takes the event. One that asks for everything takes every
event. -/
def EventRecord.matchesMask (e : EventRecord) (mask : QueueMask) : Bool :=
  mask.contains QueueMask.allInput || e.kind.categories.intersects mask

end GuestSeat
