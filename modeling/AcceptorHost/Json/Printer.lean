import AcceptorHost.Text.Display

/-!
# Compact JSON text

A value is written on one line without blanks and in ASCII alone: characters
beyond it become escapes, those beyond sixteen bits a pair of them.
-/

namespace AcceptorHost

namespace Json

/-- Numbers are written as elsewhere; the values that are not numbers have names. -/
def numerals : Decimal.Layout :=
  { Value.numerals with infinity := "Infinity", notANumber := "NaN" }

/-- An escape of four hexadecimal digits. -/
def unicodeEscape (n : Nat) : List Char := '\\' :: 'u' :: Hex.padded 4 n

/-- A character inside a string. -/
def escapeChar (c : Char) : List Char :=
  if c = '"' then ['\\', '"']
  else if c = '\\' then ['\\', '\\']
  else if c = '\n' then ['\\', 'n']
  else if c = '\r' then ['\\', 'r']
  else if c = '\t' then ['\\', 't']
  else if c.toNat = 8 then ['\\', 'b']
  else if c.toNat = 12 then ['\\', 'f']
  else if c.toNat < 32 then unicodeEscape c.toNat
  else if c.toNat < 127 then [c]
  else if c.toNat < 0x10000 then unicodeEscape c.toNat
  else if let some half := HalfPair.unit? c then unicodeEscape half
  else
    let n := c.toNat - 0x10000
    unicodeEscape (0xd800 + n / 0x400) ++ unicodeEscape (0xdc00 + n % 0x400)

/-- A text as a JSON string. -/
def string (s : String) : String :=
  String.ofList ('"' :: s.toList.flatMap escapeChar ++ ['"'])

mutual

/-- The JSON text of a value. -/
def compact (v : Value) : String :=
  match v with
  | .null => "null"
  | .bool b => if b then "true" else "false"
  | .int n => Value.intText n
  | .float x => Decimal.write numerals x
  | .text s => string s
  | .list items => "[" ++ ",".intercalate (compactItems items) ++ "]"
  | .record fields => "\x7b" ++ ",".intercalate (compactFields fields) ++ "\x7d"
termination_by structural v

/-- The texts of the items of an array. -/
def compactItems (vs : List Value) : List String :=
  match vs with
  | [] => []
  | v :: rest => compact v :: compactItems rest
termination_by structural vs

/-- The texts of the members of an object. -/
def compactFields (fs : List (String × Value)) : List String :=
  match fs with
  | [] => []
  | f :: rest => compactField f :: compactFields rest
termination_by structural fs

/-- The text of a member. -/
def compactField (f : String × Value) : String :=
  match f with
  | (name, v) => string name ++ ":" ++ compact v
termination_by structural f

end

end Json

end AcceptorHost
