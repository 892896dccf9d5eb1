import GuestSeat.Flags
import GuestSeat.Geometry.Rect
import GuestSeat.Ids

/-!
Guest windows: their style bits and the description that the window table keeps of each.
-/

namespace GuestSeat

/-- The names of the style bits. A caption is a border together with a dialog frame, so a set that
holds it is written with the two names. -/
def windowStyleNames : FlagTable :=
  [("MAXIMIZEBOX", 0x00010000), ("MINIMIZEBOX", 0x00020000), ("THICKFRAME", 0x00040000),
    ("SYSMENU", 0x00080000), ("BORDER", 0x00800000), ("DLGFRAME", 0x00400000),
    ("CAPTION", 0x00c00000), ("MAXIMIZE", 0x01000000), ("CLIPCHILDREN", 0x02000000),
    ("DISABLED", 0x08000000), ("VISIBLE", 0x10000000), ("MINIMIZE", 0x20000000),
    ("CHILD", 0x40000000), ("POPUP", 0x80000000)]

abbrev WindowStyle := Flags windowStyleNames

namespace WindowStyle

def maximizeBox : WindowStyle := ⟨0x00010000⟩

def minimizeBox : WindowStyle := ⟨0x00020000⟩

def caption : WindowStyle := ⟨0x00c00000⟩

def maximize : WindowStyle := ⟨0x01000000⟩

def clipChildren : WindowStyle := ⟨0x02000000⟩

def disabled : WindowStyle := ⟨0x08000000⟩

def visible : WindowStyle := ⟨0x10000000⟩

def minimize : WindowStyle := ⟨0x20000000⟩

def child : WindowStyle := ⟨0x40000000⟩

def popup : WindowStyle := ⟨0x80000000⟩

/-- Whether the window has a whole caption, border and frame. -/
def hasCaption (s : WindowStyle) : Bool := s.contains caption

/-- Whether the window is a child and not a popup as well. -/
def isPureChild (s : WindowStyle) : Bool := s.contains child && !s.contains popup

def isVisible (s : WindowStyle) : Bool := s.contains visible

def isMinimized (s : WindowStyle) : Bool := s.contains minimize

def isMaximized (s : WindowStyle) : Bool := s.contains maximize

def isEnabled (s : WindowStyle) : Bool := !s.contains disabled

end WindowStyle

def extendedStyleNames : FlagTable :=
  [("TOPMOST", 0x00000008), ("TOOLWINDOW", 0x00000080), ("LAYOUTRTL", 0x00400000),
    ("NOACTIVATE", 0x08000000)]

abbrev ExtendedStyle := Flags extendedStyleNames

/-- The window never becomes the foreground window. -/
def ExtendedStyle.noActivate : ExtendedStyle := ⟨0x08000000⟩

def classStyleNames : FlagTable := [("NOCLOSE", 0x0200)]

abbrev ClassStyle := Flags classStyleNames

def ClassStyle.noClose : ClassStyle := ⟨0x0200⟩

/-- What the window table keeps of a window. Rectangles are in guest screen coordinates. -/
structure WindowInfo where
  handle : Handle
  style : WindowStyle
  extendedStyle : ExtendedStyle := Flags.empty
  classStyle : ClassStyle := Flags.empty
  windowRect : Rect
  clientRect : Rect
  /-- The host window behind it, if any. -/
  host : Option HostWindow := none
  /-- It lives inside a window of another client of the host. -/
  embedded : Bool := false
  /-- The host's window manager manages it. -/
  managed : Bool := false
  /-- Its host window is on the screen. -/
  mapped : Bool := false
  /-- Another process owns it. -/
  foreign : Bool := false
  /-- Null for a window at the top level. -/
  parent : Handle := Handle.null
  thread : ThreadId := ⟨0⟩
deriving DecidableEq, Inhabited

namespace WindowInfo

/-- A window whose client area fills it and that has no host window yet. -/
def plain (handle : Handle) (style : WindowStyle) (rect : Rect) : WindowInfo :=
  { handle, style, windowRect := rect, clientRect := rect }

def fieldNames : List String :=
  ["hwnd", "style", "ex_style", "class_style", "window_rect", "client_rect", "host_window",
    "embedded", "managed", "mapped", "foreign", "parent", "thread"]

def codec : Codec WindowInfo where
  encode w := .record [("hwnd", Handle.codec.encode w.handle),
    ("style", Flags.codec.encode w.style), ("ex_style", Flags.codec.encode w.extendedStyle),
    ("class_style", Flags.codec.encode w.classStyle),
    ("window_rect", Rect.codec.encode w.windowRect),
    ("client_rect", Rect.codec.encode w.clientRect),
    ("host_window", HostWindow.codec.option.encode w.host), ("embedded", .bool w.embedded),
    ("managed", .bool w.managed), ("mapped", .bool w.mapped), ("foreign", .bool w.foreign),
    ("parent", Handle.codec.encode w.parent), ("thread", ThreadId.codec.encode w.thread)]
  decode p := do
    let row ← Row.read? fieldNames p
    return {
      handle := ← row.required "hwnd" Handle.codec
      style := ← row.required "style" Flags.codec
      extendedStyle := ← row.defaulted "ex_style" Flags.codec Flags.empty
      classStyle := ← row.defaulted "class_style" Flags.codec Flags.empty
      windowRect := ← row.required "window_rect" Rect.codec
      clientRect := ← row.required "client_rect" Rect.codec
      host := ← row.defaulted "host_window" HostWindow.codec.option none
      embedded := ← row.defaulted "embedded" .bool false
      managed := ← row.defaulted "managed" .bool false
      mapped := ← row.defaulted "mapped" .bool false
      foreign := ← row.defaulted "foreign" .bool false
      parent := ← row.defaulted "parent" Handle.codec Handle.null
      thread := ← row.defaulted "thread" ThreadId.codec ⟨0⟩ }

end WindowInfo

/-- The thread that owns a window, and whether it belongs to this process. -/
structure WindowOwner where
  thread : ThreadId
  inProcess : Bool
deriving DecidableEq, Inhabited

def WindowOwner.codec : Codec WindowOwner where
  encode o := .record [("thread", ThreadId.codec.encode o.thread), ("in_process", .bool o.inProcess)]
  decode p := do
    let row ← Row.read? ["thread", "in_process"] p
    return {
      thread := ← row.required "thread" ThreadId.codec
      inProcess := ← row.required "in_process" .bool }

def placementNames : FlagTable :=
  [("NOSIZE", 0x0001), ("NOMOVE", 0x0002), ("NOZORDER", 0x0004), ("NOACTIVATE", 0x0010),
    ("SHOWWINDOW", 0x0040), ("NOCOPYBITS", 0x0100)]

/-- What a new placement of a window leaves alone. -/
abbrev PlacementFlags := Flags placementNames

namespace PlacementFlags

def keepSize : PlacementFlags := ⟨0x0001⟩

def keepPosition : PlacementFlags := ⟨0x0002⟩

def keepOrder : PlacementFlags := ⟨0x0004⟩

def keepActive : PlacementFlags := ⟨0x0010⟩

def discardContents : PlacementFlags := ⟨0x0100⟩

end PlacementFlags

end GuestSeat
