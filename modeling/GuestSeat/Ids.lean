import GuestSeat.Document.Codec
import GuestSeat.Text.Radix

/-!
The identifiers of the two sides: guest windows, threads and cursors; host windows, cursors and input
devices; handles that a caller can wait for. They are bare words in documents.
-/

namespace GuestSeat

open Text

/-- A guest window. The zero handle names no window. -/
structure Handle where
  id : UInt64
deriving DecidableEq, Inhabited

namespace Handle

def null : Handle := ⟨0⟩

def isNull (h : Handle) : Bool := h == null

def nonNull? (h : Handle) : Option Handle := if h.isNull then none else some h

def text (h : Handle) : String := "hwnd:0x" ++ hex h.id.toNat

def codec : Codec Handle := Codec.u64.along Handle.mk Handle.id

end Handle

/-- A window of the host display. -/
structure HostWindow where
  id : UInt32
deriving DecidableEq, Inhabited

namespace HostWindow

def none : HostWindow := ⟨0⟩

def isNone (w : HostWindow) : Bool := w == none

def text (w : HostWindow) : String := "xwin:0x" ++ hex w.id.toNat

def codec : Codec HostWindow := Codec.u32.along HostWindow.mk HostWindow.id

end HostWindow

structure ThreadId where
  id : UInt32
deriving DecidableEq, Inhabited

namespace ThreadId

def text (t : ThreadId) : String := "tid:" ++ hexPadded 4 t.id.toNat

def codec : Codec ThreadId := Codec.u32.along ThreadId.mk ThreadId.id

end ThreadId

structure DeviceId where
  id : UInt16
deriving DecidableEq, Inhabited

def DeviceId.codec : Codec DeviceId := Codec.u16.along DeviceId.mk DeviceId.id

/-- A cursor resource of the guest. -/
structure CursorId where
  id : UInt64
deriving DecidableEq, Inhabited

def CursorId.codec : Codec CursorId := Codec.u64.along CursorId.mk CursorId.id

structure HostCursor where
  id : UInt32
deriving DecidableEq, Inhabited

def HostCursor.codec : Codec HostCursor := Codec.u32.along HostCursor.mk HostCursor.id

structure WaitHandle where
  id : UInt64
deriving DecidableEq, Inhabited

def WaitHandle.codec : Codec WaitHandle := Codec.u64.along WaitHandle.mk WaitHandle.id

/-- A host time stamp in milliseconds. -/
abbrev Timestamp := UInt32

end GuestSeat
