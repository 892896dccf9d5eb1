import GuestSeat.Geometry.Rect
import GuestSeat.Text.Blank
import GuestSeat.Text.Quoted
import GuestSeat.Text.Radix
import GuestSeat.Text.Visible

/-!
The arguments of the command. Options may be given in their long form or, where there is one, by a single
letter, with their value attached or as the next argument; a value of its own is only looked at when the
next argument that is known, or the end, shows that it is complete.
-/

namespace GuestSeat.Cli

inductive Valued
  | config
  | screen
  | trace
deriving DecidableEq

def Valued.usage : Valued → String
  | .config => "--config <CONFIG>"
  | .screen => "--screen <SCREEN>"
  | .trace => "[TRACE]"

inductive Switch
  | debug
  | validate
  | printDefaultConfig
  | help
  | version
deriving DecidableEq

def Switch.usage : Switch → String
  | .debug => "--debug"
  | .validate => "--validate"
  | .printDefaultConfig => "--print-default-config"
  | .help => "--help"
  | .version => "--version"

inductive ScreenFault
  | noSeparator
  | badWidth (fault : Text.NumeralFault)
  | badHeight (fault : Text.NumeralFault)
  | empty
deriving DecidableEq

def ScreenFault.message (s : String) : ScreenFault → String
  | .noSeparator => "expected WIDTHxHEIGHT, got " ++ Text.quoted s
  | .badWidth fault => "bad width: " ++ fault.message
  | .badHeight fault => "bad height: " ++ fault.message
  | .empty => "screen must not be empty, got " ++ Text.quoted s

/-- A screen with its corner at the origin, from its width and height with an `x` between them. -/
def readScreen (s : String) : Except ScreenFault Rect :=
  match Text.cut? 'x' s.toList with
  | none => .error .noSeparator
  | some (width, height) =>
    match Text.signedNumeral 32 (Text.trim width), Text.signedNumeral 32 (Text.trim height) with
    | .error fault, _ => .error (.badWidth fault)
    | _, .error fault => .error (.badHeight fault)
    | .ok width, .ok height =>
      if width ≤ 0 ∨ height ≤ 0 then .error .empty else .ok ⟨0, 0, width, height⟩

inductive UsageError
  | unexpected (argument : String)
  | missingValue (argument : Valued)
  | repeated (usage : String)
  | surplusValue (value : String) (switch : Switch)
  | badScreen (value : String) (fault : ScreenFault)
deriving DecidableEq

/-- The wording of a refusal. Of what the caller wrote it repeats the visible part. -/
def UsageError.message : UsageError → String
  | .unexpected argument => "unexpected argument '" ++ Text.visible argument ++ "' found"
  | .missingValue argument => "a value is required for '" ++ argument.usage ++ "' but none was supplied"
  | .repeated usage => "the argument '" ++ usage ++ "' cannot be used multiple times"
  | .surplusValue value switch =>
    "unexpected value '" ++ Text.visible value ++ "' for '" ++ switch.usage ++
      "' found; no more were expected"
  | .badScreen value fault =>
    "invalid value '" ++ Text.visible value ++ "' for '" ++ Valued.screen.usage ++ "': " ++
      fault.message value

structure Arguments where
  config : Option String := none
  trace : Option String := none
  screen : Option Rect := none
  switches : List Switch := []
  /-- An argument whose value, if it has come, was not looked at yet. -/
  pending : Option (Valued × Option String) := none
  /-- Nothing more is taken for an option. -/
  onlyTrace : Bool := false
deriving DecidableEq

def defaultScreen : Rect := ⟨0, 0, 1920, 1080⟩

namespace Arguments

def has (a : Arguments) (switch : Switch) : Bool := a.switches.contains switch

/-- Whether the command was asked about itself, after which no argument is looked at. -/
def isInquiry (a : Arguments) : Bool := a.has .help || a.has .version

def take (a : Arguments) (argument : Valued) (value : String) : Except UsageError Arguments :=
  match argument with
  | .config =>
    if a.config.isSome then .error (.repeated argument.usage)
    else if value.isEmpty then .error (.missingValue argument)
    else .ok { a with config := some value }
  | .trace =>
    if a.trace.isSome then .error (.repeated argument.usage)
    else if value.isEmpty then .error (.missingValue argument)
    else .ok { a with trace := some value }
  | .screen =>
    if a.screen.isSome then .error (.repeated argument.usage)
    else
      match readScreen value with
      | .error fault => .error (.badScreen value fault)
      | .ok screen => .ok { a with screen := some screen }

def settle (a : Arguments) : Except UsageError Arguments :=
  let rest := { a with pending := none }
  match a.pending with
  | none => .ok rest
  | some (argument, none) => .error (.missingValue argument)
  | some (argument, some value) => rest.take argument value

/-- An option with its value attached, or with the next argument as its value. -/
def startOption (a : Arguments) (argument : Valued) (attached : Option String) :
    Except UsageError Arguments := do
  let a ← a.settle
  match attached with
  | none => return { a with pending := some (argument, none) }
  | some value => a.take argument value

def turnOn (a : Arguments) (switch : Switch) : Except UsageError Arguments := do
  let a ← a.settle
  if a.has switch then .error (.repeated switch.usage)
  else return { a with switches := switch :: a.switches }

/-- A switch in its long form, which takes no value. -/
def longSwitch (a : Arguments) (switch : Switch) (attached : Option String) :
    Except UsageError Arguments :=
  match attached with
  | none => a.turnOn switch
  | some value => .error (.surplusValue value switch)

/-- An option in its long form, after its two dashes. -/
def long (a : Arguments) (cs : List Char) : Except UsageError Arguments :=
  let (name, attached) :=
    match Text.cut? '=' cs with
    | none => (String.ofList cs, none)
    | some (name, value) => (String.ofList name, some (String.ofList value))
  match name with
  | "config" => a.startOption .config attached
  | "screen" => a.startOption .screen attached
  | "debug" => a.longSwitch .debug attached
  | "validate" => a.longSwitch .validate attached
  | "print-default-config" => a.longSwitch .printDefaultConfig attached
  | "help" => a.longSwitch .help attached
  | "version" => a.longSwitch .version attached
  | _ => .error (.unexpected ("--" ++ name))

def short (a : Arguments) : List Char → Except UsageError Arguments
  | [] => .ok a
  | 'd' :: rest => do (← a.turnOn .debug).short rest
  | 'h' :: _ => a.turnOn .help
  | 'V' :: _ => a.turnOn .version
  | ['c'] => a.startOption .config none
  | 'c' :: '=' :: value => a.startOption .config (some (String.ofList value))
  | 'c' :: value => a.startOption .config (some (String.ofList value))
  | c :: _ => .error (.unexpected (String.ofList ['-', c]))

/-- An argument that is no option: the value of the option before it, or else the trace. -/
def plain (a : Arguments) (text : String) : Except UsageError Arguments :=
  match a.pending with
  | some (.config, none) => .ok { a with pending := some (.config, some text) }
  | some (.screen, none) => .ok { a with pending := some (.screen, some text) }
  | _ =>
    if a.trace.isSome || a.pending.any fun p => p.1 == .trace then .error (.unexpected text)
    else do return { (← a.settle) with pending := some (.trace, some text) }

def next (a : Arguments) (text : String) : Except UsageError Arguments :=
  if a.isInquiry then .ok a
  else if a.onlyTrace then
    if a.trace.isSome || a.pending.any fun p => p.1 == .trace then .error (.unexpected text)
    else do return { (← a.settle) with pending := some (.trace, some text) }
  else
    match text.toList with
    | ['-', '-'] => .ok { a with onlyTrace := true }
    | '-' :: '-' :: name => a.long name
    | '-' :: c :: letters => a.short (c :: letters)
    | _ => a.plain text

def ofList (texts : List String) : Except UsageError Arguments := do
  (← texts.foldlM next {}).settle

end Arguments

end GuestSeat.Cli
