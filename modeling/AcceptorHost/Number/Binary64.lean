import AcceptorHost.Number.Power

/-!
# Binary floating point numbers of 64 bits

A number is a sign, a mantissa and a power of two, or one of the values that
are not numbers.  Every operation is computed on exact natural numbers and
rounded once, to the nearest representable value and to the even mantissa when
two are equally near.  `ofRatio` is that rounding; the arithmetic that polling
needs (whole numbers, scaling by a ratio, order, truncation) is stated through
it.
-/

namespace AcceptorHost

/-- A 64 bit floating point number; `finite s m e` stands for `±m · 2^e`. -/
inductive Binary64 where
  | nan
  | infinite (negative : Bool)
  | finite (negative : Bool) (mantissa : Nat) (exponent : Int)
  deriving DecidableEq, Repr, Inhabited

namespace Binary64

/-- The exponent of the numbers nearest to zero. -/
def leastExponent : Int := -1074

/-- The exponent of the numbers farthest from zero. -/
def greatestExponent : Int := 971

/-- Mantissas stay below this bound. -/
def mantissaBound : Nat := Power.two 53

/-- The quotient rounded to the nearest natural number, ties to the even one. -/
def roundHalfEven (num den : Nat) : Nat :=
  let q := num / den
  let r := num % den
  if 2 * r < den then q
  else if den < 2 * r then q + 1
  else q + q % 2

/-- The ratio `num / den` divided by `2 ^ e`, again as a ratio. -/
def scaledRatio (num den : Nat) (e : Int) : Nat × Nat :=
  if 0 ≤ e then (num, den * Power.two e.toNat) else (num * Power.two (-e).toNat, den)

/-- The least exponent at which the whole part of a positive ratio is a mantissa. -/
def ratioExponent (num den : Nat) : Int :=
  let guess : Int := (num.log2 : Int) - (den.log2 : Int) - 53
  let scaled := scaledRatio num den guess
  let exact := if mantissaBound ≤ scaled.1 / scaled.2 then guess + 1 else guess
  max exact leastExponent

/-- A rounded mantissa at its exponent, renormalised and bounded. -/
def pack (negative : Bool) (m : Nat) (e : Int) : Binary64 :=
  let (m', e') := if m = mantissaBound then (Power.two 52, e + 1) else (m, e)
  if greatestExponent < e' then .infinite negative else .finite negative m' e'

/-- The number nearest to `num / den`, infinite when that is out of range. -/
def ofRatio (negative : Bool) (num den : Nat) : Binary64 :=
  if num = 0 then .finite negative 0 leastExponent
  else
    let e := ratioExponent num den
    let scaled := scaledRatio num den e
    pack negative (roundHalfEven scaled.1 scaled.2) e

/-- The exact ratio a mantissa and an exponent stand for. -/
def magnitude (m : Nat) (e : Int) : Nat × Nat :=
  if 0 ≤ e then (m * Power.two e.toNat, 1) else (m, Power.two (-e).toNat)

/-- The number nearest to an integer. -/
def ofInt (n : Int) : Binary64 := ofRatio (decide (n < 0)) n.natAbs 1

/-- The number nearest to `digits · 10 ^ scale`; far out of range is settled without the power. -/
def ofDecimal (negative : Bool) (digits : Nat) (scale : Int) : Binary64 :=
  let size : Int := (Nat.repr digits).length
  if digits = 0 then .finite negative 0 leastExponent
  else if 400 < size + scale then .infinite negative
  else if size + scale < -400 then .finite negative 0 leastExponent
  else if 0 ≤ scale then ofRatio negative (digits * Power.ten scale.toNat) 1
  else ofRatio negative digits (Power.ten (-scale).toNat)

/-- The number times the ratio `num / den`, rounded once. -/
def scale (num den : Nat) : Binary64 → Binary64
  | .nan => .nan
  | .infinite s => .infinite s
  | .finite s m e =>
      let v := magnitude m e
      ofRatio s (v.1 * num) (v.2 * den)

/-- Strict order; nothing is less or greater than a value that is not a number. -/
def lt : Binary64 → Binary64 → Bool
  | .nan, _ => false
  | _, .nan => false
  | .infinite s, .infinite t => s && !t
  | .infinite s, .finite _ _ _ => s
  | .finite _ _ _, .infinite t => !t
  | .finite s m e, .finite t n f =>
      let low := min e f
      let a : Int := (m * Power.two (e - low).toNat : Nat)
      let b : Int := (n * Power.two (f - low).toNat : Nat)
      decide ((if s then -a else a) < (if t then -b else b))

/-- Two numbers of equal value; zero has one value and what is not a number has none. -/
def sameValue (x y : Binary64) : Bool :=
  match x, y with
  | .nan, _ => false
  | _, .nan => false
  | _, _ => !x.lt y && !y.lt x

/-- The larger number; the first one unless the second exceeds it. -/
def larger (x y : Binary64) : Binary64 := if x.lt y then y else x

/-- A number is zero, of either sign. -/
def isZero : Binary64 → Bool
  | .finite _ m _ => m == 0
  | _ => false

/-- The whole part of a finite number, toward zero. -/
def truncate? : Binary64 → Option Int
  | .finite s m e =>
      let v := magnitude m e
      let whole : Int := (v.1 / v.2 : Nat)
      some (if s then -whole else whole)
  | _ => none

end Binary64

end AcceptorHost
