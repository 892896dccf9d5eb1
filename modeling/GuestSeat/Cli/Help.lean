import GuestSeat.Cli.Arguments

/-!
What the command prints about itself: its purpose, how it is called, and a line for each argument. The
descriptions of a section begin in one column, two blanks after its widest argument.
-/

namespace GuestSeat.Cli

/-- What the command is called, which version it is and what it is for. -/
structure Identity where
  name : String
  version : String
  purpose : String
deriving DecidableEq

namespace Help

/-- A line of a section: how an argument is written, and what it means. -/
structure Entry where
  form : String
  meaning : String
deriving DecidableEq

def lettered (letter : Char) (usage meaning : String) : Entry :=
  { form := String.ofList ['-', letter, ',', ' '] ++ usage, meaning }

/-- An option without a letter, set in as far as the others. -/
def unlettered (usage meaning : String) : Entry := { form := "    " ++ usage, meaning }

def block (title : String) (entries : List Entry) : List String :=
  let width := (entries.map fun entry => entry.form.length).foldl max 0
  (title ++ ":") :: entries.map fun entry =>
    "  " ++ entry.form.pushn ' ' (width + 2 - entry.form.length) ++ entry.meaning

def operands : List Entry :=
  [{ form := Valued.trace.usage, meaning := "Trace to replay, one JSON step per line" }]

def options : List Entry :=
  [lettered 'c' Valued.config.usage "Path to configuration file",
    lettered 'd' Switch.debug.usage "Run in debug mode with verbose logging",
    unlettered Switch.validate.usage "Validate configuration and exit",
    unlettered Switch.printDefaultConfig.usage "Print default configuration to stdout",
    unlettered Valued.screen.usage
      "Virtual screen size as WIDTHxHEIGHT [default: 1920x1080]",
    lettered 'h' Switch.help.usage "Print help",
    lettered 'V' Switch.version.usage "Print version"]

end Help

namespace Identity

def versionLine (identity : Identity) : String := identity.name ++ " " ++ identity.version

def helpLines (identity : Identity) : List String :=
  [identity.purpose, "", "Usage: " ++ identity.name ++ " [OPTIONS] " ++ Valued.trace.usage, ""] ++
    Help.block "Arguments" Help.operands ++ [""] ++ Help.block "Options" Help.options

end Identity

end GuestSeat.Cli
