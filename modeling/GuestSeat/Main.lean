import GuestSeat.Cli.Run

/-!
The command line.
-/

namespace GuestSeat.Cli

def contentOf (handle : IO.FS.Handle) : IO Place := do
  try
    return .file (← handle.readToEnd)
  catch _ =>
    return .unreadable

def placeOf (path : String) : IO Place := do
  try
    contentOf (← IO.FS.Handle.mk path .read)
  catch _ =>
    return .absent

def identity : Identity where
  name := "guestseat"
  version := "0.1.0"
  purpose := "Replay traces of host display events through the guest seat"

/-- Run the command with the places that its arguments name. -/
def execute (arguments : List String) : IO UInt32 := do
  let places ← (pathsNamed arguments).mapM fun path => do return (path, ← placeOf path)
  let outcome := run identity (fun path => (places.lookup path).getD .absent) arguments
  for line in outcome.output do
    IO.println line
  match outcome.error with
  | none => pure ()
  | some message => IO.eprintln message
  return outcome.exitCode.toUInt32

end GuestSeat.Cli

def main (arguments : List String) : IO UInt32 := GuestSeat.Cli.execute arguments
