import AcceptorHost.Number.Whole
import AcceptorHost.Text.HalfPair
import AcceptorHost.Text.Hex

/-!
# Reading JSON text

The reader takes one value with blanks around it and nothing else.  Besides
the standard it knows the names of the infinities and of what is not a number.
A number with a fraction or an exponent is rounded once.  Control characters
inside strings are refused, and the last of several members of one name
counts.  The digits of an integer and the depth of nesting have no bound but
the limits that a reader is given.
-/

namespace AcceptorHost

namespace Json

/-- The limits of a reader, where it has any. -/
structure Limits where
  /-- How many digits an integer may have. -/
  digits : Option Nat
  /-- How deep arrays and objects may be nested. -/
  depth : Option Nat
  deriving DecidableEq, Repr

/-- A reader without limits. -/
def Limits.none : Limits := ⟨.none, .none⟩

/-- Why a text is not read. -/
inductive Flaw where
  /-- The text is no JSON. -/
  | malformed
  /-- An integer has so many digits, more than it may have. -/
  | digits (limit count : Nat)
  /-- Arrays and objects are nested deeper than they may be. -/
  | depth
  deriving DecidableEq, Repr

/-- What a part of the reader finds, or that the text is no JSON. -/
def expect {α : Type} : Option α → Except Flaw α
  | some a => .ok a
  | none => .error .malformed

/-- The four characters that may stand between tokens. -/
def isSpace (c : Char) : Bool :=
  c = ' ' || c = '\t' || c = '\n' || c = '\r'

/-- The text from the first character that is no space. -/
def skipSpaces (cs : List Char) : List Char := cs.dropWhile isSpace

/-- The value of four hexadecimal digits. -/
def codeUnit? (a b c d : Char) : Option Nat := Hex.value? [a, b, c, d]

/-- A unit opens a pair of units. -/
def isHighUnit (n : Nat) : Bool := decide (0xd800 ≤ n ∧ n < 0xdc00)

/-- A unit closes a pair of units. -/
def isLowUnit (n : Nat) : Bool := decide (0xdc00 ≤ n ∧ n < 0xe000)

/-- The character of a pair of units. -/
def pairedChar (high low : Nat) : Char :=
  Char.ofNat (0x10000 + (high - 0xd800) * 0x400 + (low - 0xdc00))

/-- The character of a unit that stands alone. -/
def loneChar (n : Nat) : Char :=
  if isHighUnit n || isLowUnit n then HalfPair.ofUnit n else Char.ofNat n

/-- The character of a short escape. -/
def shortEscape? (c : Char) : Option Char :=
  if c = '"' || c = '\\' || c = '/' then some c
  else if c = 'b' then some (Char.ofNat 8)
  else if c = 'f' then some (Char.ofNat 12)
  else if c = 'n' then some '\n'
  else if c = 'r' then some '\r'
  else if c = 't' then some '\t'
  else none

/-- The characters of a string up to its closing quote, with `high` a unit that waits for its
pair. -/
def stringBody (high : Option Nat) : List Char → Option (List Char × List Char)
  | [] => none
  | '\\' :: 'u' :: a :: b :: c :: d :: rest =>
      match codeUnit? a b c d, high with
      | none, _ => none
      | some n, some h =>
          if isLowUnit n then
            (stringBody none rest).map fun r => (pairedChar h n :: r.1, r.2)
          else if isHighUnit n then
            (stringBody (some n) rest).map fun r => (loneChar h :: r.1, r.2)
          else (stringBody none rest).map fun r => (loneChar h :: loneChar n :: r.1, r.2)
      | some n, none =>
          if isHighUnit n then stringBody (some n) rest
          else (stringBody none rest).map fun r => (loneChar n :: r.1, r.2)
  | '\\' :: c :: rest =>
      match shortEscape? c with
      | none => none
      | some e =>
          (stringBody none rest).map fun r => ((high.map loneChar).toList ++ e :: r.1, r.2)
  | c :: rest =>
      if c = '"' then some ((high.map loneChar).toList, rest)
      else if c = '\\' || decide (c.toNat < 32) then none
      else (stringBody none rest).map fun r => ((high.map loneChar).toList ++ c :: r.1, r.2)

/-- A digit of ASCII. -/
def isDigit (c : Char) : Bool := decide ('0' ≤ c ∧ c ≤ '9')

/-- The value of a row of digits. -/
def digitsValue (ds : List Char) : Nat :=
  ds.foldl (fun n c => 10 * n + (c.toNat - 48)) 0

/-- The digits before the point: a lone zero or a row that starts with none. -/
def wholePart (cs : List Char) : Option (List Char × List Char) :=
  match cs with
  | '0' :: rest => some (['0'], rest)
  | c :: rest =>
      if isDigit c then some (c :: rest.takeWhile isDigit, rest.dropWhile isDigit) else none
  | [] => none

/-- The digits behind the point, if a point with digits follows. -/
def fractionPart (cs : List Char) : List Char × List Char :=
  match cs with
  | '.' :: rest =>
      let ds := rest.takeWhile isDigit
      if ds.isEmpty then ([], cs) else (ds, rest.dropWhile isDigit)
  | _ => ([], cs)

/-- The exponent, if a mark with an optional sign and digits follows. -/
def exponentPart (cs : List Char) : Option Int × List Char :=
  match cs with
  | c :: rest =>
      if c = 'e' || c = 'E' then
        let (negative, body) :=
          match rest with
          | '-' :: r => (true, r)
          | '+' :: r => (false, r)
          | r => (false, r)
        let ds := body.takeWhile isDigit
        if ds.isEmpty then (none, cs)
        else
          let n : Int := digitsValue ds
          (some (if negative then -n else n), body.dropWhile isDigit)
      else (none, cs)
  | [] => (none, cs)

/-- The integer of a row of digits. -/
def integer (limits : Limits) (negative : Bool) (ds : List Char) : Except Flaw Value :=
  match Numeral.excess? limits.digits ds.length with
  | some limit => .error (.digits limit ds.length)
  | none =>
      let n : Int := digitsValue ds
      .ok (.int (if negative then -n else n))

/-- The number at the start of a text, without its sign. -/
def unsigned (limits : Limits) (negative : Bool) (cs : List Char) :
    Except Flaw (Value × List Char) :=
  match wholePart cs with
  | none => .error .malformed
  | some (whole, afterWhole) =>
      let (fraction, afterFraction) := fractionPart afterWhole
      let (exponent, rest) := exponentPart afterFraction
      if fraction.isEmpty && exponent.isNone then
        (integer limits negative whole).map fun v => (v, rest)
      else
        let x := Binary64.ofDecimal negative (digitsValue (whole ++ fraction))
          (exponent.getD 0 - fraction.length)
        .ok (.float x, rest)

/-- The number, the literal name or nothing at the start of a text. -/
def scalar (limits : Limits) (cs : List Char) : Except Flaw (Value × List Char) :=
  match cs with
  | 'n' :: 'u' :: 'l' :: 'l' :: rest => .ok (.null, rest)
  | 't' :: 'r' :: 'u' :: 'e' :: rest => .ok (.bool true, rest)
  | 'f' :: 'a' :: 'l' :: 's' :: 'e' :: rest => .ok (.bool false, rest)
  | 'N' :: 'a' :: 'N' :: rest => .ok (.float .nan, rest)
  | 'I' :: 'n' :: 'f' :: 'i' :: 'n' :: 'i' :: 't' :: 'y' :: rest =>
      .ok (.float (.infinite false), rest)
  | '-' :: 'I' :: 'n' :: 'f' :: 'i' :: 'n' :: 'i' :: 't' :: 'y' :: rest =>
      .ok (.float (.infinite true), rest)
  | '-' :: rest => unsigned limits true rest
  | _ => unsigned limits false cs

/-- One level of nesting more, if so many are allowed. -/
def deeper (limits : Limits) (depth : Nat) : Except Flaw Nat :=
  if limits.depth.any (· ≤ depth) then .error .depth else .ok (depth + 1)

mutual

/-- The value at the start of a text at some depth; the fuel bounds the values and members still
to come. -/
def value (limits : Limits) : Nat → Nat → List Char → Except Flaw (Value × List Char)
  | 0, _, _ => .error .malformed
  | fuel + 1, depth, cs =>
      match cs with
      | '"' :: rest =>
          (expect (stringBody none rest)).map fun r => (.text (String.ofList r.1), r.2)
      | '[' :: rest =>
          (deeper limits depth).bind fun depth =>
            match skipSpaces rest with
            | ']' :: after => .ok (.list [], after)
            | body => (items limits fuel depth body).map fun r => (.list r.1, r.2)
      | '\x7b' :: rest =>
          (deeper limits depth).bind fun depth =>
            match skipSpaces rest with
            | '\x7d' :: after => .ok (.record [], after)
            | body => (members limits fuel depth [] body).map fun r => (.record r.1, r.2)
      | _ => scalar limits cs

/-- The values of an array from the first or next one to the closing bracket. -/
def items (limits : Limits) : Nat → Nat → List Char → Except Flaw (List Value × List Char)
  | 0, _, _ => .error .malformed
  | fuel + 1, depth, cs =>
      (value limits fuel depth cs).bind fun r =>
        match skipSpaces r.2 with
        | ']' :: rest => .ok ([r.1], rest)
        | ',' :: rest =>
            (items limits fuel depth (skipSpaces rest)).map fun later => (r.1 :: later.1, later.2)
        | _ => .error .malformed

/-- The members of an object added to those already read, up to the closing brace. -/
def members (limits : Limits) : Nat → Nat → List (String × Value) → List Char →
    Except Flaw (List (String × Value) × List Char)
  | 0, _, _, _ => .error .malformed
  | fuel + 1, depth, fields, cs =>
      match cs with
      | '"' :: afterQuote =>
          (expect (stringBody none afterQuote)).bind fun name =>
            match skipSpaces name.2 with
            | ':' :: afterColon =>
                (value limits fuel depth (skipSpaces afterColon)).bind fun r =>
                  let fields := Value.put (String.ofList name.1) r.1 fields
                  match skipSpaces r.2 with
                  | '\x7d' :: rest => .ok (fields, rest)
                  | ',' :: rest => members limits fuel depth fields (skipSpaces rest)
                  | _ => .error .malformed
            | _ => .error .malformed
      | _ => .error .malformed

end

/-- The value of a whole text. -/
def parse (limits : Limits) (s : String) : Except Flaw Value :=
  let cs := s.toList
  (value limits (2 * cs.length + 2) 0 (skipSpaces cs)).bind fun r =>
    if (skipSpaces r.2).isEmpty then .ok r.1 else .error .malformed

end Json

end AcceptorHost
