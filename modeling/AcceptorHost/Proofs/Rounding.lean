import AcceptorHost.Courier.Loop
import Mathlib.Algebra.Order.Field.Power
import Mathlib.Data.Nat.Log
import Mathlib.Tactic.Linarith
import Mathlib.Tactic.NormNum
import Mathlib.Tactic.Positivity
import Mathlib.Tactic.Ring

/-!
# How far rounding can go

A ratio is rounded at the least exponent that leaves room for its whole part.  From
this follow a bound on what a ratio is rounded to and a bound on every finite number.
They are what the poll interval needs: whatever the whole count of milliseconds that a
courier was made with, the interval counts as milliseconds again without overflow.
-/

namespace AcceptorHost

namespace Binary64

/-- Below the middle above a number, rounding does not go beyond that number. -/
theorem roundHalfEven_le
    {num den bound : Nat}
    (h : 2 * num < (2 * bound + 1) * den) :
    roundHalfEven num den ≤ bound := by
  have hden : 0 < den := by
    rcases Nat.eq_zero_or_pos den with rfl | hpos
    · simp at h
    · exact hpos
  have hmiddle : (2 * bound + 1) * den = 2 * (den * bound) + den := by ring
  have hsplit : den * (num / den) + num % den = num := Nat.div_add_mod num den
  have hrest : num % den < den := Nat.mod_lt num hden
  have hquotient : num / den ≤ bound := by
    by_contra hbeyond
    have hmul : den * (bound + 1) ≤ den * (num / den) :=
      Nat.mul_le_mul_left den (by omega)
    have hnext : den * (bound + 1) = den * bound + den := by ring
    omega
  have hparity : num / den % 2 ≤ 1 := by omega
  have hsmall : num / den = bound → 2 * (num % den) < den := by
    intro hequal
    rw [hequal] at hsplit
    omega
  unfold roundHalfEven
  simp only
  split
  · exact hquotient
  · rename_i hlarge
    have hbelow : num / den ≠ bound := fun hequal => hlarge (hsmall hequal)
    split <;> omega

/-- Multiples of a ratio that is divided by a power of two compare as they should. -/
theorem scaledRatio_lt_iff
    (num den a c : Nat)
    (e : Int) :
    a * (scaledRatio num den e).1 < c * (scaledRatio num den e).2 ↔
      (a : ℚ) * num < c * den * 2 ^ e := by
  unfold scaledRatio
  by_cases he : 0 ≤ e
  · obtain ⟨n, rfl⟩ := Int.eq_ofNat_of_zero_le he
    rw [if_pos he]
    have hpower : Power.two (n : Int).toNat = 2 ^ n := rfl
    simp only [hpower]
    rw [zpow_natCast, ← Nat.mul_assoc]
    exact_mod_cast Iff.rfl
  · obtain ⟨n, hn⟩ := Int.eq_ofNat_of_zero_le (show 0 ≤ -e by omega)
    have hexponent : e = -(n : Int) := by omega
    rw [if_neg he, hn, hexponent, zpow_neg, zpow_natCast]
    have hpower : Power.two (Int.ofNat n).toNat = 2 ^ n := rfl
    have hpos : (0 : ℚ) < 2 ^ n := by positivity
    have hcast : a * (num * Power.two (n : Int).toNat) < c * den ↔
        (a : ℚ) * (num * 2 ^ n) < c * den := by
      exact_mod_cast Iff.rfl
    simp only [hcast]
    rw [← div_eq_mul_inv, lt_div_iff₀ hpos, mul_assoc]

/-- The logarithms of a ratio's parts give its size up to a factor of four. -/
theorem ratio_log2_bounds
    {num den : Nat}
    (hnum : 0 < num)
    (hden : 0 < den) :
    let guess : Int := (num.log2 : Int) - (den.log2 : Int) - 53
    (2 : ℚ) ^ 52 * den * 2 ^ guess ≤ num ∧ (num : ℚ) < 2 ^ 54 * den * 2 ^ guess := by
  intro guess
  constructor
  · have hn : (2 : ℚ) ^ num.log2 ≤ num := by exact_mod_cast Nat.log2_self_le hnum.ne'
    have hd : (den : ℚ) ≤ 2 ^ (den.log2 + 1) := by exact_mod_cast (Nat.lt_log2_self).le
    calc (2 : ℚ) ^ 52 * den * 2 ^ guess
        ≤ 2 ^ 52 * 2 ^ (den.log2 + 1) * 2 ^ guess := by gcongr
      _ = 2 ^ num.log2 := by
          rw [← pow_add, ← zpow_natCast, ← zpow_natCast, ← zpow_add₀ two_ne_zero]
          congr 1
          push_cast
          omega
      _ ≤ num := hn
  · have hn : (num : ℚ) < 2 ^ (num.log2 + 1) := by exact_mod_cast Nat.lt_log2_self
    have hd : (2 : ℚ) ^ den.log2 ≤ den := by exact_mod_cast Nat.log2_self_le hden.ne'
    calc (num : ℚ) < 2 ^ (num.log2 + 1) := hn
      _ = 2 ^ 54 * 2 ^ den.log2 * 2 ^ guess := by
          rw [← pow_add, ← zpow_natCast, ← zpow_natCast, ← zpow_add₀ two_ne_zero]
          congr 1
          push_cast
          omega
      _ ≤ 2 ^ 54 * den * 2 ^ guess := by gcongr

/-- The exponent of a ratio leaves room for its whole part, and is the least one that does. -/
theorem ratioExponent_spec
    {num den : Nat}
    (hnum : 0 < num)
    (hden : 0 < den) :
    let e := ratioExponent num den
    leastExponent ≤ e
      ∧ (num : ℚ) < 2 ^ 53 * den * 2 ^ e
      ∧ (leastExponent < e → (2 : ℚ) ^ 52 * den * 2 ^ e ≤ num) := by
  intro e
  let guess : Int := (num.log2 : Int) - (den.log2 : Int) - 53
  obtain ⟨hlow, hhigh⟩ : (2 : ℚ) ^ 52 * den * 2 ^ guess ≤ num
      ∧ (num : ℚ) < 2 ^ 54 * den * 2 ^ guess := ratio_log2_bounds hnum hden
  have hdouble : (2 : ℚ) ^ (guess + 1) = 2 * 2 ^ guess := by
    rw [zpow_add₀ two_ne_zero, zpow_one, mul_comm]
  obtain ⟨exact, hexact, hbelow, habove⟩ : ∃ exact : Int, e = max exact leastExponent
      ∧ (num : ℚ) < 2 ^ 53 * den * 2 ^ exact ∧ (2 : ℚ) ^ 52 * den * 2 ^ exact ≤ num := by
    have hscaled := scaledRatio_lt_iff num den 1 mantissaBound guess
    have hbound : ((mantissaBound : Nat) : ℚ) = 2 ^ 53 := by norm_num [mantissaBound, Power.two]
    rw [hbound, Nat.cast_one, one_mul, one_mul] at hscaled
    have hpos : 0 < (scaledRatio num den guess).2 := by
      unfold scaledRatio
      split
      · exact Nat.mul_pos hden (Power.two_pos _)
      · exact hden
    by_cases hfull :
        mantissaBound ≤ (scaledRatio num den guess).1 / (scaledRatio num den guess).2
    · refine ⟨guess + 1, ?_, ?_, ?_⟩
      · change max (if _ then _ else _) _ = _
        rw [if_pos hfull]
      · rw [hdouble]
        linarith
      · have hnot := (Nat.le_div_iff_mul_le hpos).mp hfull
        have hge := mt hscaled.mpr (Nat.not_lt.mpr hnot)
        rw [hdouble]
        linarith
    · refine ⟨guess, ?_, ?_, hlow⟩
      · change max (if _ then _ else _) _ = _
        rw [if_neg hfull]
      · rw [Nat.le_div_iff_mul_le hpos, Nat.not_le] at hfull
        exact hscaled.mp hfull
  rw [hexact]
  refine ⟨le_max_right _ _, ?_, ?_⟩
  · refine hbelow.trans_le ?_
    have hmono : (2 : ℚ) ^ exact ≤ 2 ^ max exact leastExponent :=
      zpow_le_zpow_right₀ one_le_two (le_max_left _ _)
    gcongr
  · intro hleast
    have hmax : max exact leastExponent = exact := by omega
    rwa [hmax]

/-- The exponent of a ratio is at most any exponent that leaves room for its whole part. -/
theorem ratioExponent_le
    {num den : Nat}
    {top : Int}
    (hnum : 0 < num)
    (hden : 0 < den)
    (hleast : leastExponent ≤ top)
    (h : (num : ℚ) < 2 ^ 53 * den * 2 ^ top) :
    ratioExponent num den ≤ top := by
  obtain ⟨-, -, htight⟩ := ratioExponent_spec hnum hden
  by_contra hbeyond
  have hlow := htight (by omega)
  have hpower : (2 : ℚ) ^ (top + 1) ≤ 2 ^ ratioExponent num den :=
    zpow_le_zpow_right₀ one_le_two (by omega)
  have hscaled : (2 : ℚ) ^ 52 * den * 2 ^ (top + 1) ≤ num := by
    refine le_trans ?_ hlow
    gcongr
  rw [zpow_add₀ two_ne_zero] at hscaled
  linarith

/-- Below the middle above a number at its exponent, a ratio's mantissa is not beyond it. -/
theorem rounded_le
    {num den bound : Nat}
    {e : Int}
    (h : (2 : ℚ) * num < (2 * bound + 1) * den * 2 ^ e) :
    roundHalfEven (scaledRatio num den e).1 (scaledRatio num den e).2 ≤ bound := by
  refine roundHalfEven_le ((scaledRatio_lt_iff num den 2 (2 * bound + 1) e).mpr ?_)
  push_cast
  exact h

/-- The mantissa of a ratio at its exponent is in range, or just beyond. -/
theorem rounded_ratioExponent_le
    {num den : Nat}
    (hnum : 0 < num)
    (hden : 0 < den) :
    let scaled := scaledRatio num den (ratioExponent num den)
    roundHalfEven scaled.1 scaled.2 ≤ 2 ^ 53 := by
  obtain ⟨-, hroom, -⟩ := ratioExponent_spec hnum hden
  refine rounded_le ?_
  have hpos : (0 : ℚ) < den * 2 ^ ratioExponent num den := by positivity
  push_cast
  linarith

/-- A mantissa that fits its exponent is packed to a number of its value. -/
theorem pack_of_le
    (negative : Bool)
    (m : Nat)
    {e : Int}
    (he : e ≤ greatestExponent)
    (htop : m = 2 ^ 53 → e < greatestExponent) :
    ∃ m' e', pack negative m e = .finite negative m' e' ∧ (m' : ℚ) * 2 ^ e' = m * 2 ^ e := by
  by_cases hfull : m = 2 ^ 53
  · have hbound : m = mantissaBound := hfull
    have hnext : ¬ greatestExponent < e + 1 := by
      have hbelow := htop hfull
      omega
    refine ⟨Power.two 52, e + 1, ?_, ?_⟩
    · unfold pack
      simp only [if_pos hbound, if_neg hnext]
    · have hcarry : ((Power.two 52 : Nat) : ℚ) = 2 ^ 52 := by norm_num [Power.two]
      rw [hcarry, hfull, zpow_add₀ two_ne_zero]
      norm_num
      ring
  · have hbound : ¬ m = mantissaBound := hfull
    refine ⟨m, e, ?_, rfl⟩
    unfold pack
    simp only [if_neg hbound, if_neg (not_lt.mpr he)]

/-- Below the middle above a number of full length, a ratio is rounded to a finite number that
is not beyond that number. -/
theorem ofRatio_le
    (negative : Bool)
    {num den bound : Nat}
    {top : Int}
    (hden : 0 < den)
    (hlong : 2 ^ 52 ≤ bound)
    (hbound : bound < 2 ^ 53)
    (hleast : leastExponent ≤ top)
    (hgreatest : top ≤ greatestExponent)
    (h : (2 : ℚ) * num < (2 * bound + 1) * den * 2 ^ top) :
    ∃ m e, ofRatio negative num den = .finite negative m e
      ∧ (m : ℚ) * 2 ^ e ≤ bound * 2 ^ top := by
  unfold ofRatio
  by_cases hzero : num = 0
  · refine ⟨0, leastExponent, if_pos hzero, ?_⟩
    rw [Nat.cast_zero, zero_mul]
    positivity
  rw [if_neg hzero]
  have hnum : 0 < num := Nat.pos_of_ne_zero hzero
  let e := ratioExponent num den
  let m := roundHalfEven (scaledRatio num den e).1 (scaledRatio num den e).2
  have he : e ≤ top := by
    refine ratioExponent_le hnum hden hleast ?_
    have hboundQ : 2 * (bound : ℚ) + 1 ≤ 2 * 2 ^ 53 := by
      have hnext : (bound : ℚ) + 1 ≤ 2 ^ 53 := by exact_mod_cast hbound
      linarith
    have hmiddle : (2 * (bound : ℚ) + 1) * den * 2 ^ top ≤ (2 * 2 ^ 53) * den * 2 ^ top := by
      gcongr
    linarith
  rcases he.lt_or_eq with hlower | hequal
  · have hm : m ≤ 2 ^ 53 := rounded_ratioExponent_le hnum hden
    obtain ⟨m', e', hpack, hvalue⟩ :=
      pack_of_le negative m (he.trans hgreatest) fun _ => by omega
    refine ⟨m', e', hpack, ?_⟩
    have hpower : (2 : ℚ) ^ (e + 1) ≤ 2 ^ top := zpow_le_zpow_right₀ one_le_two (by omega)
    have hmQ : (m : ℚ) ≤ 2 ^ 53 := by exact_mod_cast hm
    have hlongQ : (2 : ℚ) ^ 52 ≤ bound := by exact_mod_cast hlong
    calc (m' : ℚ) * 2 ^ e' = m * 2 ^ e := hvalue
      _ ≤ 2 ^ 53 * 2 ^ e := by gcongr
      _ = 2 ^ 52 * 2 ^ (e + 1) := by
          rw [zpow_add₀ two_ne_zero]
          ring
      _ ≤ bound * 2 ^ top := by gcongr
  · have hm : m ≤ bound := by
      refine rounded_le ?_
      rw [hequal]
      exact h
    obtain ⟨m', e', hpack, hvalue⟩ :=
      pack_of_le negative m (he.trans hgreatest) fun hfull => by omega
    refine ⟨m', e', hpack, ?_⟩
    rw [hvalue, hequal]
    gcongr

/-- What is packed to a number is packed to a mantissa and an exponent in range. -/
theorem pack_bounds
    {negative s : Bool}
    {k m : Nat}
    {f e : Int}
    (hk : k ≤ 2 ^ 53)
    (h : pack negative k f = .finite s m e) :
    m < 2 ^ 53 ∧ e ≤ greatestExponent := by
  unfold pack at h
  by_cases hfull : k = mantissaBound
  · simp only [if_pos hfull] at h
    split at h
    · cases h
    · rename_i hrange
      cases h
      exact ⟨by decide, not_lt.mp hrange⟩
  · simp only [if_neg hfull] at h
    split at h
    · cases h
    · rename_i hrange
      cases h
      exact ⟨lt_of_le_of_ne hk hfull, not_lt.mp hrange⟩

/-- No number that a ratio is rounded to is beyond the greatest one. -/
theorem le_of_ofRatio
    {negative s : Bool}
    {num den m : Nat}
    {e : Int}
    (hden : 0 < den)
    (h : ofRatio negative num den = .finite s m e) :
    (m : ℚ) * 2 ^ e ≤ (2 ^ 53 - 1) * 2 ^ greatestExponent := by
  unfold ofRatio at h
  by_cases hzero : num = 0
  · rw [if_pos hzero] at h
    cases h
    have hpos : (0 : ℚ) < 2 ^ greatestExponent := zpow_pos two_pos _
    generalize (2 : ℚ) ^ greatestExponent = top at hpos
    rw [Nat.cast_zero, zero_mul]
    positivity
  · rw [if_neg hzero] at h
    have hm := rounded_ratioExponent_le (Nat.pos_of_ne_zero hzero) hden
    obtain ⟨hmantissa, hexponent⟩ := pack_bounds hm h
    have hmQ : (m : ℚ) ≤ 2 ^ 53 - 1 := by
      have hnext : (m : ℚ) + 1 ≤ 2 ^ 53 := by exact_mod_cast hmantissa
      linarith
    have hpower : (2 : ℚ) ^ e ≤ 2 ^ greatestExponent :=
      zpow_le_zpow_right₀ one_le_two hexponent
    have hpos : (0 : ℚ) ≤ 2 ^ e := (zpow_pos two_pos _).le
    exact mul_le_mul hmQ hpower hpos (by norm_num)

/-- The exact ratio of a mantissa and an exponent has their value. -/
theorem magnitude_spec
    (m : Nat)
    (e : Int) :
    0 < (magnitude m e).2 ∧ ((magnitude m e).1 : ℚ) = m * 2 ^ e * (magnitude m e).2 := by
  unfold magnitude
  by_cases he : 0 ≤ e
  · obtain ⟨n, rfl⟩ := Int.eq_ofNat_of_zero_le he
    rw [if_pos he]
    refine ⟨Nat.one_pos, ?_⟩
    simp [Power.two]
  · obtain ⟨n, hn⟩ := Int.eq_ofNat_of_zero_le (show 0 ≤ -e by omega)
    have hexponent : e = -(n : Int) := by omega
    rw [if_neg he, hn, hexponent]
    refine ⟨Power.two_pos _, ?_⟩
    simp [Power.two, zpow_neg]

/-- Scaling below the middle above a number of full length leads to a finite number that is not
beyond that number. -/
theorem scale_le
    (negative : Bool)
    {m num den bound : Nat}
    {e top : Int}
    (hden : 0 < den)
    (hlong : 2 ^ 52 ≤ bound)
    (hbound : bound < 2 ^ 53)
    (hleast : leastExponent ≤ top)
    (hgreatest : top ≤ greatestExponent)
    (h : (2 : ℚ) * (m * 2 ^ e) * num < (2 * bound + 1) * den * 2 ^ top) :
    ∃ m' e', scale num den (.finite negative m e) = .finite negative m' e'
      ∧ (m' : ℚ) * 2 ^ e' ≤ bound * 2 ^ top := by
  obtain ⟨hpos, hvalue⟩ := magnitude_spec m e
  refine ofRatio_le negative (Nat.mul_pos hpos hden) hlong hbound hleast hgreatest ?_
  have hposQ : (0 : ℚ) < (magnitude m e).2 := by exact_mod_cast hpos
  push_cast
  rw [hvalue]
  calc (2 : ℚ) * (m * 2 ^ e * (magnitude m e).2 * num)
      = 2 * (m * 2 ^ e) * num * (magnitude m e).2 := by ring
    _ < (2 * bound + 1) * den * 2 ^ top * (magnitude m e).2 := by gcongr
    _ = (2 * bound + 1) * ((magnitude m e).2 * den) * 2 ^ top := by ring

end Binary64

namespace World

/-- Seconds that are not beyond a thousandth of the greatest number are shown as milliseconds. -/
theorem exists_intervalText
    {negative : Bool}
    {m : Nat}
    {e : Int}
    (h : (m : ℚ) * 2 ^ e ≤ (4611686018427387 : Nat) * 2 ^ (962 : Int)) :
    ∃ text, intervalText (.finite negative m e) = .ok text := by
  -- At the exponent 962 the bound times 1000 is less than the greatest number, whose mantissa
  -- there is 2 ^ 62 - 2 ^ 9.
  have hpower : (2 : ℚ) ^ (971 : Int) = 2 ^ (962 : Int) * 2 ^ 9 := by
    rw [← zpow_natCast, ← zpow_add₀ two_ne_zero]
    norm_num
  have hmiddle : (2 : ℚ) * (m * 2 ^ e) * (1000 : Nat) <
      (2 * (9007199254740991 : Nat) + 1) * (1 : Nat) * 2 ^ (971 : Int) := by
    have hpos : (0 : ℚ) < 2 ^ (962 : Int) := zpow_pos two_pos _
    rw [hpower]
    generalize (2 : ℚ) ^ (962 : Int) = top at hpos h
    push_cast at h ⊢
    linarith
  obtain ⟨m', e', hscale, -⟩ := Binary64.scale_le negative Nat.one_pos (by norm_num)
    (by norm_num) (by decide) (by decide) hmiddle
  unfold intervalText
  rw [hscale]
  exact ⟨_, rfl⟩

end World

namespace Policy

/-- A thousandth of a whole number is finite and rounded by no more than its last place. -/
theorem seconds_le
    {n : Int}
    {s : Bool}
    {m : Nat}
    {e : Int}
    (h : Binary64.ofInt n = .finite s m e) :
    ∃ m' e', Binary64.scale 1 1000 (.finite s m e) = .finite s m' e'
      ∧ (m' : ℚ) * 2 ^ e' ≤ (4611686018427387 : Nat) * 2 ^ (962 : Int) := by
  have hvalue : (m : ℚ) * 2 ^ e ≤ (2 ^ 53 - 1) * 2 ^ (971 : Int) :=
    Binary64.le_of_ofRatio Nat.one_pos h
  have hpower : (2 : ℚ) ^ (971 : Int) = 2 ^ (962 : Int) * 2 ^ 9 := by
    rw [← zpow_natCast, ← zpow_add₀ two_ne_zero]
    norm_num
  refine Binary64.scale_le s (by norm_num) (by norm_num) (by norm_num) (by decide) (by decide) ?_
  have hpos : (0 : ℚ) < 2 ^ (962 : Int) := zpow_pos two_pos _
  rw [hpower] at hvalue
  generalize (2 : ℚ) ^ (962 : Int) = top at hpos hvalue ⊢
  push_cast
  linarith

/-- Whatever whole count of milliseconds gives an interval, the interval is shown again. -/
theorem intervalText_of_interval
    {n : Int}
    {x : Binary64}
    (h : interval (.int n) = .ok x) :
    ∃ text, World.intervalText x = .ok text := by
  have hleast : ∃ text, World.intervalText leastInterval = .ok text := ⟨_, rfl⟩
  unfold interval Value.seconds Value.number at h
  cases hmade : Binary64.ofInt n with
  | nan =>
      simp only [Value.integer?, hmade] at h
      cases h
      exact hleast
  | infinite s =>
      simp only [Value.integer?, hmade] at h
      cases h
  | finite s m e =>
      simp only [Value.integer?, hmade] at h
      obtain ⟨m', e', hscale, hvalue⟩ := seconds_le hmade
      have hx : Binary64.larger leastInterval (.finite s m' e') = x := by
        rw [← hscale]
        exact Except.ok.inj h
      unfold Binary64.larger at hx
      split at hx
      · rw [← hx]
        exact World.exists_intervalText hvalue
      · rw [← hx]
        exact hleast

end Policy

namespace Courier

/-- A courier that was made of whole milliseconds is fresh, and its poll interval can be shown. -/
theorem parts_of_create
    {longest : Option Binary64}
    {codec : Codec}
    {ms : Int}
    {limit timeout : Value}
    {unsigned : Bool}
    {c : Courier}
    (hmade : create longest codec (.int ms) limit timeout unsigned = .ok c) :
    ∃ x, (∃ text, World.intervalText x = .ok text) ∧
      c = ⟨⟨x, limit, timeout, unsigned, longest⟩, codec, .fresh, .empty, .fresh⟩ := by
  unfold create at hmade
  cases hinterval : Policy.interval (.int ms) with
  | error f =>
      rw [hinterval] at hmade
      cases hmade
  | ok x =>
      rw [hinterval] at hmade
      exact ⟨x, Policy.intervalText_of_interval hinterval, (Except.ok.inj hmade).symm⟩

end Courier

end AcceptorHost
