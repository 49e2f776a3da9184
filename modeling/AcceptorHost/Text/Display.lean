import AcceptorHost.Number.Decimal
import AcceptorHost.Text.Quoted
import AcceptorHost.Value

/-!
# The text of a value

Log lines and console lines show a value by its text: a text as it is, a
number in its shortest form, and what holds other values in brackets with
texts quoted inside.
-/

namespace AcceptorHost

namespace Value

/-- Numbers are written out from a ten-thousandth to sixteen digits before the point. -/
def numerals : Decimal.Layout :=
  { leastPoint := -3
    greatestPoint := 16
    exponentMark := "e"
    exponentWidth := 2
    wholeEnding := ".0"
    infinity := "inf"
    notANumber := "nan" }

/-- The text of an integer. -/
def intText (n : Int) : String :=
  if n < 0 then "-" ++ String.ofList (Nat.toDigits 10 n.natAbs)
  else String.ofList (Nat.toDigits 10 n.natAbs)

mutual

/-- The text of a value inside another one. -/
def inner (v : Value) : String :=
  match v with
  | .null => "None"
  | .bool b => if b then "True" else "False"
  | .int n => intText n
  | .float x => Decimal.write numerals x
  | .text s => Text.quoted s
  | .list items => "[" ++ ", ".intercalate (innerItems items) ++ "]"
  | .record fields => "\x7b" ++ ", ".intercalate (innerFields fields) ++ "\x7d"
termination_by structural v

/-- The texts of the items of a list. -/
def innerItems (vs : List Value) : List String :=
  match vs with
  | [] => []
  | v :: rest => inner v :: innerItems rest
termination_by structural vs

/-- The texts of the fields of a record. -/
def innerFields (fs : List (String × Value)) : List String :=
  match fs with
  | [] => []
  | f :: rest => innerField f :: innerFields rest
termination_by structural fs

/-- The text of a field. -/
def innerField (f : String × Value) : String :=
  match f with
  | (name, v) => Text.quoted name ++ ": " ++ inner v
termination_by structural f

end

/-- The text of a value on its own. -/
def display : Value → String
  | .text s => s
  | v => inner v

end Value

end AcceptorHost
