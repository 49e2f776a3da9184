import AcceptorHost.Text.Display

/-!
# Log levels

A level is an integer; six of them have names, two of those a second name.  A
record is shown when its level is positive and reaches the threshold.
-/

namespace AcceptorHost

namespace Level

/-- The level of details. -/
def debug : Int := 10

/-- The level of the usual course of things. -/
def info : Int := 20

/-- The level of what deserves attention. -/
def warning : Int := 30

/-- The level of failures. -/
def error : Int := 40

/-- The level of failures that end the program. -/
def critical : Int := 50

/-- The name of a level; a level without a name shows its number. -/
def name (level : Int) : String :=
  if level = critical then "CRITICAL"
  else if level = error then "ERROR"
  else if level = warning then "WARNING"
  else if level = info then "INFO"
  else if level = debug then "DEBUG"
  else if level = 0 then "NOTSET"
  else "Level " ++ Value.intText level

/-- The levels by name. -/
def names : List (String × Int) :=
  [("CRITICAL", critical), ("FATAL", critical), ("ERROR", error), ("WARN", warning),
   ("WARNING", warning), ("INFO", info), ("DEBUG", debug), ("NOTSET", 0)]

/-- The level of a name in upper case. -/
def ofName? (s : String) : Option Int := names.lookup s

/-- A record of a level is shown at a threshold. -/
def shows (threshold level : Int) : Bool := decide (0 < level ∧ threshold ≤ level)

end Level

end AcceptorHost
