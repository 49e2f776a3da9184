import AcceptorHost.Number.Binary64

/-!
# Decimal text of binary floating point numbers

`shortest` finds the fewest decimal digits that read back as the same number,
and of those the nearest; `Layout` says how they are written.  `fixed` writes
a number with a fixed count of places after the point, rounding its exact
value with ties to even.
-/

namespace AcceptorHost

namespace Decimal

/-- The natural numbers `n` and the exponent `q` of a decimal `n · 10^q`. -/
structure Digits where
  value : Nat
  scale : Int
  deriving DecidableEq, Repr

/-- A positive ratio with the ends of the interval that rounds to it, over one denominator. -/
structure Interval where
  low : Nat
  middle : Nat
  high : Nat
  den : Nat
  closed : Bool

/-- The interval of reals that round to `m · 2^e`. -/
def Interval.around (m : Nat) (e : Int) : Interval :=
  let below := if m = Power.two 52 ∧ Binary64.leastExponent < e then 1 else 2
  let up := (e - 2).toNat
  let down := (2 - e).toNat
  { low := (4 * m - below) * Power.two up
    middle := 4 * m * Power.two up
    high := (4 * m + 2) * Power.two up
    den := Power.two down
    closed := m % 2 == 0 }

/-- The count of decimal digits of a natural number. -/
def width (n : Nat) : Nat := (Nat.toDigits 10 n).length

/-- The least `j`, up to the fuel, at which `num · 10^j` reaches `den`. -/
def leadingZeros : Nat → Nat → Nat → Nat
  | 0, _, _ => 0
  | fuel + 1, num, den => if den ≤ num then 0 else leadingZeros fuel (num * 10) den + 1

/-- The power of ten of the first digit of a positive ratio. -/
def leadingPower (num den : Nat) : Int :=
  if den ≤ num then (width (num / den) : Int) - 1
  else -(leadingZeros 400 num den : Int)

/-- Both sides of a comparison of `num / den` with `n · 10^q`, cleared of fractions. -/
def crossed (num den n : Nat) (q : Int) : Nat × Nat :=
  (num * Power.ten (-q).toNat, n * Power.ten q.toNat * den)

/-- A decimal lies in the interval. -/
def Interval.holds (i : Interval) (n : Nat) (q : Int) : Bool :=
  let low := crossed i.low i.den n q
  let high := crossed i.high i.den n q
  if i.closed then decide (low.1 ≤ low.2 ∧ high.2 ≤ high.1)
  else decide (low.1 < low.2 ∧ high.2 < high.1)

/-- The better of the two grid neighbours of the middle at the scale `q`. -/
def Interval.choose (i : Interval) (q : Int) : Option Nat :=
  let n := i.middle * Power.ten (-q).toNat / (i.den * Power.ten q.toNat)
  let middle := crossed i.middle i.den n q
  let next := crossed i.middle i.den (n + 1) q
  let gapDown := middle.1 - middle.2
  let gapUp := next.2 - next.1
  match i.holds n q, i.holds (n + 1) q with
  | true, true =>
      if gapDown < gapUp then some n
      else if gapUp < gapDown then some (n + 1)
      else some (n + n % 2)
  | true, false => some n
  | false, true => some (n + 1)
  | false, false => none

/-- The first grid with a hit, over counts of digits that start at `count`. -/
def Interval.search (i : Interval) (lead : Int) : Nat → Nat → Digits
  | 0, count => ⟨(i.choose (lead + 1 - count)).getD 0, lead + 1 - count⟩
  | fuel + 1, count =>
      let q := lead + 1 - (count : Int)
      match i.choose q with
      | some n => ⟨n, q⟩
      | none => i.search lead fuel (count + 1)

/-- The fewest digits that read back as `m · 2^e`, and the nearest of those. -/
def shortest (m : Nat) (e : Int) : Digits :=
  let i := Interval.around m e
  i.search (leadingPower i.middle i.den) 16 1

/-- How the digits of a number are written. -/
structure Layout where
  /-- The least position of the point, counted from the first digit, that is written out. -/
  leastPoint : Int
  /-- The greatest position of the point that is written out. -/
  greatestPoint : Int
  /-- The mark before an exponent. -/
  exponentMark : String
  /-- An exponent has at least this many digits. -/
  exponentWidth : Nat
  /-- What follows a number that is whole. -/
  wholeEnding : String
  /-- The text of a positive infinity. -/
  infinity : String
  /-- The text of what is not a number. -/
  notANumber : String

/-- Digits without the zeros at the end. -/
def trimZeros (ds : List Char) : List Char :=
  (ds.reverse.dropWhile (· == '0')).reverse

/-- Text padded on the left with zeros. -/
def padZeros (count : Nat) (ds : List Char) : List Char :=
  List.replicate (count - ds.length) '0' ++ ds

/-- Digits with the point after the first `point` of them. -/
def placePoint (layout : Layout) (ds : List Char) (point : Int) : String :=
  if point ≤ 0 then
    "0." ++ String.ofList (List.replicate (-point).toNat '0' ++ ds)
  else if (ds.length : Int) ≤ point then
    String.ofList (ds ++ List.replicate (point.toNat - ds.length) '0') ++ layout.wholeEnding
  else
    String.ofList (ds.take point.toNat) ++ "." ++ String.ofList (ds.drop point.toNat)

/-- Digits with one of them before the point and an exponent behind. -/
def placeExponent (layout : Layout) (ds : List Char) (point : Int) : String :=
  let e := point - 1
  let rest := ds.drop 1
  let head := String.ofList (ds.take 1)
  let body := if rest.isEmpty then head else head ++ "." ++ String.ofList rest
  let sign := if e < 0 then "-" else "+"
  body ++ layout.exponentMark ++ sign
    ++ String.ofList (padZeros layout.exponentWidth (Nat.toDigits 10 e.natAbs))

/-- The text of a number in a layout. -/
def write (layout : Layout) : Binary64 → String
  | .nan => layout.notANumber
  | .infinite s => (if s then "-" else "") ++ layout.infinity
  | .finite s m e =>
      let sign := if s then "-" else ""
      if m = 0 then sign ++ "0" ++ layout.wholeEnding
      else
        let d := shortest m e
        let all := Nat.toDigits 10 d.value
        let point : Int := all.length + d.scale
        let ds := trimZeros all
        sign ++
          (if layout.leastPoint ≤ point ∧ point ≤ layout.greatestPoint
            then placePoint layout ds point
            else placeExponent layout ds point)

/-- The text of a number with a fixed count of places, ties to even. -/
def fixed (places : Nat) : Binary64 → String
  | .nan => "nan"
  | .infinite s => (if s then "-" else "") ++ "inf"
  | .finite s m e =>
      let v := Binary64.magnitude m e
      let n := Binary64.roundHalfEven (v.1 * Power.ten places) v.2
      let ds := padZeros (places + 1) (Nat.toDigits 10 n)
      let cut := ds.length - places
      (if s then "-" else "") ++ String.ofList (ds.take cut)
        ++ (if places = 0 then "" else "." ++ String.ofList (ds.drop cut))

end Decimal

end AcceptorHost
