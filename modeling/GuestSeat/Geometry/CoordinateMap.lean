import GuestSeat.Geometry.Rect

/-!
Conversion between guest coordinates, which are those of the virtual screen as the application sees it,
and root coordinates of the host. The virtual screen has its own origin, and a display scale may stand
between the resolution the application asked for ("user") and the output mode ("real").
-/

namespace GuestSeat

/-- A scaling between user and real units; the user area begins at `offset` on the output. -/
structure DisplayScale where
  userWidth : UInt32
  userHeight : UInt32
  realWidth : UInt32
  realHeight : UInt32
  offset : Point
deriving DecidableEq, Inhabited

/-- A binary64 value rounded to a coordinate: halves go away from zero, values out of range to the
nearest end of the range, and a value that is no number to zero. -/
def roundCoordinate (x : Float) : Int := x.round.toInt32.toInt

def extentFloat (size : UInt32) : Float := Float.ofNat size.toNat

namespace DisplayScale

/-- Real units for one user unit, across; a user width of zero counts as one. -/
def factorX (s : DisplayScale) : Float := extentFloat s.realWidth / extentFloat (max s.userWidth 1)

/-- Real units for one user unit, down; a user height of zero counts as one. -/
def factorY (s : DisplayScale) : Float :=
  extentFloat s.realHeight / extentFloat (max s.userHeight 1)

def userToReal (s : DisplayScale) (p : Point) : Point where
  x := s.offset.x + roundCoordinate (Float.ofInt p.x * s.factorX)
  y := s.offset.y + roundCoordinate (Float.ofInt p.y * s.factorY)

/-- A relative step in real units as one in user units. -/
def stepToUser (s : DisplayScale) (d : Point) : Point where
  x := roundCoordinate (Float.ofInt d.x / s.factorX)
  y := roundCoordinate (Float.ofInt d.y / s.factorY)

def realToUser (s : DisplayScale) (p : Point) : Point :=
  s.stepToUser ⟨p.x - s.offset.x, p.y - s.offset.y⟩

def fieldNames : List String := ["user_width", "user_height", "real_width", "real_height", "offset"]

def codec : Codec DisplayScale where
  encode s := .record [("user_width", Codec.u32.encode s.userWidth),
    ("user_height", Codec.u32.encode s.userHeight), ("real_width", Codec.u32.encode s.realWidth),
    ("real_height", Codec.u32.encode s.realHeight), ("offset", Point.codec.encode s.offset)]
  decode p := do
    let row ← Row.read? fieldNames p
    return {
      userWidth := ← row.required "user_width" .u32
      userHeight := ← row.required "user_height" .u32
      realWidth := ← row.required "real_width" .u32
      realHeight := ← row.required "real_height" .u32
      offset := ← row.required "offset" Point.codec }

end DisplayScale

/-- The virtual screen's origin and the scaling in force, if any. -/
structure CoordinateMap where
  virtualOrigin : Point
  scale : Option DisplayScale := none
deriving DecidableEq, Inhabited

namespace CoordinateMap

def userToReal (m : CoordinateMap) (p : Point) : Point :=
  match m.scale with
  | none => p
  | some s => s.userToReal p

def realToUser (m : CoordinateMap) (p : Point) : Point :=
  match m.scale with
  | none => p
  | some s => s.realToUser p

def toRoot (m : CoordinateMap) (p : Point) : Point :=
  let real := m.userToReal p
  ⟨real.x - m.virtualOrigin.x, real.y - m.virtualOrigin.y⟩

def fromRoot (m : CoordinateMap) (p : Point) : Point :=
  m.realToUser ⟨p.x + m.virtualOrigin.x, p.y + m.virtualOrigin.y⟩

/-- The rectangle between the images of two corners. -/
def spanning (topLeft bottomRight : Point) : Rect :=
  ⟨topLeft.x, topLeft.y, bottomRight.x, bottomRight.y⟩

def rectToRoot (m : CoordinateMap) (r : Rect) : Rect :=
  spanning (m.toRoot r.topLeft) (m.toRoot r.bottomRight)

def rectFromRoot (m : CoordinateMap) (r : Rect) : Rect :=
  spanning (m.fromRoot r.topLeft) (m.fromRoot r.bottomRight)

/-- A relative step from host units to guest units. -/
def scaleStep (m : CoordinateMap) (d : Point) : Point :=
  match m.scale with
  | none => d
  | some s => s.stepToUser d

def codec : Codec CoordinateMap where
  encode m := .record [("virtual_origin", Point.codec.encode m.virtualOrigin),
    ("scale", DisplayScale.codec.option.encode m.scale)]
  decode p := do
    let row ← Row.read? ["virtual_origin", "scale"] p
    return {
      virtualOrigin := ← row.required "virtual_origin" Point.codec
      scale := ← row.defaulted "scale" DisplayScale.codec.option none }

end CoordinateMap

end GuestSeat
