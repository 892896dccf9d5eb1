import GuestSeat.Document.Shape

/-!
Points and rectangles of the screen. A rectangle's right and bottom edges lie outside it, so it is empty
as soon as an edge does not lie past its opposite.
-/

namespace GuestSeat

structure Point where
  x : Int
  y : Int
deriving DecidableEq, Inhabited

structure Rect where
  left : Int
  top : Int
  right : Int
  bottom : Int
deriving DecidableEq, Inhabited

/-- A 32-bit size as a signed coordinate; sizes past the signed range are negative. -/
def signedExtent (size : UInt32) : Int := size.toInt32.toInt

namespace Rect

/-- A rectangle from its top-left corner and size. -/
def ofSize (x y : Int) (width height : UInt32) : Rect where
  left := x
  top := y
  right := x + signedExtent width
  bottom := y + signedExtent height

def width (r : Rect) : Int := r.right - r.left

def height (r : Rect) : Int := r.bottom - r.top

def isEmpty (r : Rect) : Bool := r.right ≤ r.left || r.bottom ≤ r.top

def topLeft (r : Rect) : Point := ⟨r.left, r.top⟩

def bottomRight (r : Rect) : Point := ⟨r.right, r.bottom⟩

def contains (r : Rect) (p : Point) : Bool :=
  r.left ≤ p.x && p.x < r.right && r.top ≤ p.y && p.y < r.bottom

def intersects (a b : Rect) : Bool :=
  a.left < b.right && b.left < a.right && a.top < b.bottom && b.top < a.bottom

/-- Whether `r` lies inside `outer`, edges in common allowed. -/
def isWithin (r outer : Rect) : Bool :=
  outer.left ≤ r.left && outer.top ≤ r.top && r.right ≤ outer.right && r.bottom ≤ outer.bottom

/-- Whether some edge of `r` lies strictly inside `outer`, so that a pointer confined to `r` has less
room than in `outer`. -/
def restricts (r outer : Rect) : Bool :=
  outer.left < r.left || r.right < outer.right || outer.top < r.top || r.bottom < outer.bottom

/-- The part of `r` inside `bounds`; it may be empty. -/
def clampTo (r bounds : Rect) : Rect where
  left := max r.left bounds.left
  top := max r.top bounds.top
  right := min r.right bounds.right
  bottom := min r.bottom bounds.bottom

def offset (r : Rect) (dx dy : Int) : Rect where
  left := r.left + dx
  top := r.top + dy
  right := r.right + dx
  bottom := r.bottom + dy

/-- The mirror image of `r` between the left and right edges of a container at the origin. -/
def mirrorIn (r container : Rect) : Rect where
  left := container.width - r.right
  top := r.top
  right := container.width - r.left
  bottom := r.bottom

/-- The rectangle with sides of at least one unit. -/
def atLeastUnit (r : Rect) : Rect where
  left := r.left
  top := r.top
  right := r.left + max r.width 1
  bottom := r.top + max r.height 1

def text (r : Rect) : String :=
  "(" ++ toString r.left ++ "," ++ toString r.top ++ ")-(" ++ toString r.right ++ "," ++
    toString r.bottom ++ ")"

def edges (r : Rect) : List Int := [r.left, r.top, r.right, r.bottom]

def fieldNames : List String := ["left", "top", "right", "bottom"]

def codec : Codec Rect where
  encode r := .record [("left", .int r.left), ("top", .int r.top), ("right", .int r.right),
    ("bottom", .int r.bottom)]
  decode p := do
    let row ← Row.read? fieldNames p
    return {
      left := ← row.required "left" .i32
      top := ← row.required "top" .i32
      right := ← row.required "right" .i32
      bottom := ← row.required "bottom" .i32 }

end Rect

namespace Point

def codec : Codec Point where
  encode p := .record [("x", .int p.x), ("y", .int p.y)]
  decode p := do
    let row ← Row.read? ["x", "y"] p
    return { x := ← row.required "x" .i32, y := ← row.required "y" .i32 }

end Point

end GuestSeat
