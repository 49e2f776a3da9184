/-!
# Hexadecimal digits

Digits of either case, numbers padded to a width, and the reading of a digit.
`digitValue?_lowerDigit` and `digitValue?_upperDigit` say that reading undoes
writing.
-/

namespace AcceptorHost

namespace Hex

/-- The lower case digit of a number below sixteen. -/
def lowerDigit (n : Nat) : Char :=
  if n < 10 then Char.ofNat (48 + n) else Char.ofNat (87 + n)

/-- The upper case digit of a number below sixteen. -/
def upperDigit (n : Nat) : Char :=
  if n < 10 then Char.ofNat (48 + n) else Char.ofNat (55 + n)

/-- The value of a digit of either case. -/
def digitValue? (c : Char) : Option Nat :=
  if '0' ≤ c ∧ c ≤ '9' then some (c.toNat - 48)
  else if 'a' ≤ c ∧ c ≤ 'f' then some (c.toNat - 87)
  else if 'A' ≤ c ∧ c ≤ 'F' then some (c.toNat - 55)
  else none

theorem digitValue?_lowerDigit
    {n : Nat}
    (h : n < 16) :
    digitValue? (lowerDigit n) = some n := by
  have all : ∀ k : Fin 16, digitValue? (lowerDigit k.val) = some k.val := by decide
  exact all ⟨n, h⟩

theorem digitValue?_upperDigit
    {n : Nat}
    (h : n < 16) :
    digitValue? (upperDigit n) = some n := by
  have all : ∀ k : Fin 16, digitValue? (upperDigit k.val) = some k.val := by decide
  exact all ⟨n, h⟩

/-- The last `width` lower case digits of a number. -/
def padded : Nat → Nat → List Char
  | 0, _ => []
  | width + 1, n => padded width (n / 16) ++ [lowerDigit (n % 16)]

/-- The value of a row of digits. -/
def value? (cs : List Char) : Option Nat :=
  cs.foldl (fun acc c => acc.bind fun n => (digitValue? c).map (16 * n + ·)) (some 0)

end Hex

end AcceptorHost
