import GuestSeat.Document.Shape
import GuestSeat.Geometry.Rect
import GuestSeat.Ids

/-!
Confinement of the pointer to a rectangle. A clip is represented to the guest by a capture window, and is
either asked for by an application or put in place because the foreground window covers the output.
-/

namespace GuestSeat

inductive ClipKind
  | explicit
  | fullscreen
deriving DecidableEq, Inhabited

namespace ClipKind

def all : List ClipKind := [.explicit, .fullscreen]

def spelling : ClipKind → String
  | .explicit => "explicit"
  | .fullscreen => "fullscreen"

def codec : Codec ClipKind := .named all spelling

end ClipKind

/-- A clip in force: the guest rectangle and the window that stands for it. -/
structure ClipRegion where
  rect : Rect
  captureWindow : Handle
  kind : ClipKind
deriving DecidableEq, Inhabited

def ClipRegion.codec : Codec ClipRegion where
  encode r := .record [("rect", Rect.codec.encode r.rect),
    ("capture_window", Handle.codec.encode r.captureWindow),
    ("kind", ClipKind.codec.encode r.kind)]
  decode p := do
    let row ← Row.read? ["rect", "capture_window", "kind"] p
    return {
      rect := ← row.required "rect" Rect.codec
      captureWindow := ← row.required "capture_window" Handle.codec
      kind := ← row.required "kind" ClipKind.codec }

/-- The state of a seat's pointer as others see it. -/
inductive ClipState
  | unclipped
  | clippingExplicit
  | clippingFullscreen
deriving DecidableEq, Inhabited

namespace ClipState

def all : List ClipState := [.unclipped, .clippingExplicit, .clippingFullscreen]

def spelling : ClipState → String
  | .unclipped => "unclipped"
  | .clippingExplicit => "clipping_explicit"
  | .clippingFullscreen => "clipping_fullscreen"

def codec : Codec ClipState := .named all spelling

def text : ClipState → String
  | .unclipped => "unclipped"
  | .clippingExplicit => "clipping (explicit)"
  | .clippingFullscreen => "clipping (fullscreen)"

def ofRegion : Option ClipRegion → ClipState
  | none => .unclipped
  | some ⟨_, _, .explicit⟩ => .clippingExplicit
  | some ⟨_, _, .fullscreen⟩ => .clippingFullscreen

end ClipState

end GuestSeat
