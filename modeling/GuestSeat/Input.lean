import GuestSeat.Flags
import GuestSeat.Geometry.Rect
import GuestSeat.Ids

/-!
Input made for the guest: mouse input with absolute or relative coordinates and key input, and the
mouse input that a host button stands for.
-/

namespace GuestSeat

def mouseFlagNames : FlagTable :=
  [("MOVE", 0x0001), ("LEFTDOWN", 0x0002), ("LEFTUP", 0x0004), ("RIGHTDOWN", 0x0008),
    ("RIGHTUP", 0x0010), ("MIDDLEDOWN", 0x0020), ("MIDDLEUP", 0x0040), ("XDOWN", 0x0080),
    ("XUP", 0x0100), ("WHEEL", 0x0800), ("HWHEEL", 0x1000), ("ABSOLUTE", 0x8000)]

abbrev MouseFlags := Flags mouseFlagNames

namespace MouseFlags

def move : MouseFlags := ⟨0x0001⟩

def leftDown : MouseFlags := ⟨0x0002⟩

def leftUp : MouseFlags := ⟨0x0004⟩

def rightDown : MouseFlags := ⟨0x0008⟩

def rightUp : MouseFlags := ⟨0x0010⟩

def middleDown : MouseFlags := ⟨0x0020⟩

def middleUp : MouseFlags := ⟨0x0040⟩

def sideDown : MouseFlags := ⟨0x0080⟩

def sideUp : MouseFlags := ⟨0x0100⟩

def wheel : MouseFlags := ⟨0x0800⟩

def tilt : MouseFlags := ⟨0x1000⟩

def absolute : MouseFlags := ⟨0x8000⟩

end MouseFlags

structure MouseInput where
  /-- A place or a step, depending on the flags. -/
  position : Point
  /-- The turn of the wheel or the number of a side button, depending on the flags. -/
  data : Int := 0
  flags : MouseFlags
  time : Timestamp := 0
deriving DecidableEq, Inhabited

namespace MouseInput

def placed (p : Point) (flags : MouseFlags) (data : Int) (time : Timestamp) : MouseInput :=
  { position := p, data, flags := flags ||| MouseFlags.absolute, time }

def step (d : Point) (time : Timestamp) : MouseInput :=
  { position := d, flags := MouseFlags.move, time }

def isAbsolute (m : MouseInput) : Bool := m.flags.contains MouseFlags.absolute

def codec : Codec MouseInput where
  encode m := .record [("dx", .int m.position.x), ("dy", .int m.position.y), ("data", .int m.data),
    ("flags", Flags.codec.encode m.flags), ("time", Codec.u32.encode m.time)]
  decode p := do
    let row ← Row.read? ["dx", "dy", "data", "flags", "time"] p
    return {
      position := { x := ← row.required "dx" .i32, y := ← row.required "dy" .i32 }
      data := ← row.defaulted "data" .i32 0
      flags := ← row.required "flags" Flags.codec
      time := ← row.defaulted "time" .u32 0 }

end MouseInput

structure KeyInput where
  keycode : UInt8
  pressed : Bool
  time : Timestamp := 0
deriving DecidableEq, Inhabited

def KeyInput.codec : Codec KeyInput where
  encode k := .record [("keycode", Codec.u8.encode k.keycode), ("pressed", .bool k.pressed),
    ("time", Codec.u32.encode k.time)]
  decode p := do
    let row ← Row.read? ["keycode", "pressed", "time"] p
    return {
      keycode := ← row.required "keycode" .u8
      pressed := ← row.required "pressed" .bool
      time := ← row.defaulted "time" .u32 0 }

inductive GuestInput
  | mouse (input : MouseInput)
  | key (input : KeyInput)
deriving DecidableEq, Inhabited

def Tree.withEntry (t : Tree) (name : String) (value : Tree) : Tree :=
  match t with
  | .record entries => .record ((name, value) :: entries)
  | t => t

def GuestInput.codec : Codec GuestInput where
  encode
    | .mouse m => (MouseInput.codec.encode m).withEntry "input" (.str "mouse")
    | .key k => (KeyInput.codec.encode k).withEntry "input" (.str "key")
  decode p := do
    let (kind, p) ← p.tagged? "input" ["mouse", "key"]
    match kind with
    | "mouse" => return .mouse (← MouseInput.codec.decode p)
    | "key" => return .key (← KeyInput.codec.decode p)
    | _ => none

def wheelNotch : Int := 120

/-- The flags and data of a host button, if the guest has anything like it. The buttons four to seven
are the wheel's, and letting go of them means nothing. -/
def buttonInput (button : UInt8) (pressed : Bool) : Option (MouseFlags × Int) :=
  let pick := fun (down up : MouseFlags) => if pressed then down else up
  let notch := fun (flags : MouseFlags) (turn : Int) => if pressed then some (flags, turn) else none
  match button.toNat with
  | 1 => some (pick MouseFlags.leftDown MouseFlags.leftUp, 0)
  | 2 => some (pick MouseFlags.middleDown MouseFlags.middleUp, 0)
  | 3 => some (pick MouseFlags.rightDown MouseFlags.rightUp, 0)
  | 4 => notch MouseFlags.wheel wheelNotch
  | 5 => notch MouseFlags.wheel (-wheelNotch)
  | 6 => notch MouseFlags.tilt (-wheelNotch)
  | 7 => notch MouseFlags.tilt wheelNotch
  | 8 => some (pick MouseFlags.sideDown MouseFlags.sideUp, 1)
  | 9 => some (pick MouseFlags.sideDown MouseFlags.sideUp, 2)
  | _ => none

end GuestSeat
