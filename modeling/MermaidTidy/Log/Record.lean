import MermaidTidy.Text.Basic

/-!
# Log records

A record says which part of the program speaks, how important it is, and what it says.
-/

namespace MermaidTidy.Log

/-- How important a record is. -/
inductive Level
  | debug
  | info
  | warning
  | error
  | critical
deriving DecidableEq, Repr

namespace Level

/-- The name of a level. -/
def name : Level → Text
  | .debug => "DEBUG".toList
  | .info => "INFO".toList
  | .warning => "WARNING".toList
  | .error => "ERROR".toList
  | .critical => "CRITICAL".toList

/-- The rank of a level: the more important, the higher. -/
def rank : Level → Nat
  | .debug => 10
  | .info => 20
  | .warning => 30
  | .error => 40
  | .critical => 50

/-- The level with the given name. -/
def ofName? (n : Text) : Option Level :=
  [debug, info, warning, error, critical].find? (·.name == n)

end Level

/-- A log record. -/
structure Record where
  source : Text
  level : Level
  message : Text
deriving DecidableEq, Repr

/-- The name under which the whole program logs. -/
def programSource : Text := "mermaid_fmt".toList

/-- The name of a part of the program. -/
def part (name : String) : Text := programSource ++ '.' :: name.toList

/-- Whether a record comes from the program. -/
def Record.isOurs (r : Record) : Bool :=
  r.source = programSource || (programSource ++ ['.']).isPrefixOf r.source

/-- The line of a record, with the time stamp `stamp`. -/
def Record.line (stamp : Text) (r : Record) : Text :=
  let dash := " - ".toList
  stamp ++ dash ++ r.source ++ dash ++ r.level.name ++ dash ++ r.message ++ ['\n']

end MermaidTidy.Log
