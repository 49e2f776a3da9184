import AcceptorHost.Fault
import AcceptorHost.Text.Blank
import AcceptorHost.Text.Digit

/-!
# Whole numbers and seconds of values

`Value.whole` is the integer a settings value stands for: truth values count
as zero and one, floating point numbers lose their fraction, and a text is a
numeral with an optional sign, digits of any script, no more than a limit
allows, and single underscores between them.  `Value.seconds` turns
milliseconds into seconds, rounding once.
-/

namespace AcceptorHost

namespace Numeral

/-- The value of further digits, each with at most one underscore before it. -/
def digits (acc : Nat) : List Char → Option Nat
  | [] => some acc
  | '_' :: c :: rest =>
      match Text.digitValue? c with
      | some d => digits (10 * acc + d) rest
      | none => none
  | c :: rest =>
      match Text.digitValue? c with
      | some d => digits (10 * acc + d) rest
      | none => none

/-- The value of a row of digits that is not empty and starts with one. -/
def magnitude : List Char → Option Nat
  | [] => none
  | c :: rest =>
      match Text.digitValue? c with
      | some d => digits d rest
      | none => none

/-- The blanks that may stand around a numeral; separators of data are none. -/
def isBlank (c : Char) : Bool := Text.isBlank c && !Text.isDataSeparator c

/-- The integer a text writes, blanks around it apart. -/
def parse (s : String) : Option Int :=
  match Text.trim isBlank s.toList with
  | '-' :: rest => (magnitude rest).map fun n => -(n : Int)
  | '+' :: rest => (magnitude rest).map fun n => (n : Int)
  | cs => (magnitude cs).map fun n => (n : Int)

/-- How many digits a text has. -/
def size (s : String) : Nat := s.toList.countP fun c => (Text.digitValue? c).isSome

/-- The limit that so many digits exceed, if there is one. -/
def excess? (limit : Option Nat) (count : Nat) : Option Nat := limit.filter (· < count)

end Numeral

namespace Value

/-- The integer a value stands for, where a numeral may have no more digits than a limit. -/
def whole (limit : Option Nat) : Value → Except Fault Int
  | .int n => .ok n
  | .bool b => .ok (if b then 1 else 0)
  | .float .nan => .error .nanNotWhole
  | .float (.infinite _) => .error .infinityNotWhole
  | .float (.finite s m e) => .ok (((Binary64.finite s m e).truncate?).getD 0)
  | .text s =>
      match Numeral.parse s, Numeral.excess? limit (Numeral.size s) with
      | none, _ => .error (.notANumeral s)
      | some _, some most => .error (.tooManyDigits most (Numeral.size s))
      | some n, none => .ok n
  | _ => .error .wrongType

/-- The floating point number of an integer or a number, if it is one and in range. -/
def number : Value → Except Fault Binary64
  | .float x => .ok x
  | v =>
      match v.integer? with
      | none => .error .wrongType
      | some n =>
          match Binary64.ofInt n with
          | .infinite _ => .error .tooLarge
          | x => .ok x

/-- The seconds of a count of milliseconds. -/
def seconds (v : Value) : Except Fault Binary64 :=
  v.number.map (Binary64.scale 1 1000)

end Value

end AcceptorHost
