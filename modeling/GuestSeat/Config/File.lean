import GuestSeat.Config.Basic
import GuestSeat.Toml.Document

/-!
Settings files. A settings file is a TOML document; what it leaves out has its default, and what it names
beyond the settings is ignored.
-/

namespace GuestSeat

inductive ConfigError
  /-- It is no TOML, or a setting has a value of the wrong type. -/
  | malformed
  | fault (fault : ConfigFault)
deriving DecidableEq

namespace Config

/-- The sections with the number of their settings. -/
def sectionSizes : List (String × Nat) := [("pointer", 6), ("focus", 3), ("window", 2)]

/-- A document in which a section that is spelled as a list of its settings in order has no more items
than it has settings; surplus items are ignored. -/
def withoutSurplus : Tree → Tree
  | .record entries => .record (entries.map fun (name, t) =>
      match t, sectionSizes.lookup name with
      | .list items, some size => (name, .list (items.take size))
      | t, _ => (name, t))
  | t => t

def ofToml (text : String) : Except ConfigError Config :=
  match (Toml.read? text).bind fun t => codec.read? (withoutSurplus t) with
  | none => .error .malformed
  | some c =>
    match c.fault? with
    | some fault => .error (.fault fault)
    | none => .ok c

end Config

end GuestSeat
