import AcceptorHost.Proofs.Rounding

/-!
# Whole numbers that are out of range

An integer becomes a floating point number unless it is at least half a place beyond the
greatest one; there the tie goes to the even mantissa, which is the one that does not fit.
Finite numbers are in the order of what they stand for.
-/

namespace AcceptorHost

namespace Binary64

/-- Half a place beyond the greatest number, `2 ^ 1024 - 2 ^ 970`. -/
def wholeBound : Nat := (2 ^ 54 - 1) * 2 ^ 970

theorem wholeBound_cast : (wholeBound : ℚ) = (2 ^ 54 - 1) * 2 ^ (970 : Int) := by
  have hpower : (2 : ℚ) ^ (970 : Int) = 2 ^ 970 := zpow_natCast 2 970
  rw [hpower, wholeBound]
  generalize 970 = places
  push_cast
  norm_num

/-- Half a place at the greatest exponent is a place at the one below. -/
theorem place_eq_two_halves : (2 : ℚ) ^ (971 : Int) = 2 * 2 ^ (970 : Int) := by
  rw [← zpow_one_add₀ two_ne_zero]
  norm_num

/-- From the middle below an even number on, rounding comes to that number. -/
theorem le_roundHalfEven
    {num den bound : Nat}
    (hden : 0 < den)
    (heven : bound % 2 = 0)
    (h : 2 * bound * den ≤ 2 * num + den) :
    bound ≤ roundHalfEven num den := by
  have hsplit : den * (num / den) + num % den = num := Nat.div_add_mod num den
  have hrest : num % den < den := Nat.mod_lt num hden
  have hfar : bound ≤ num / den + 1 := by
    by_contra hbeyond
    have hmul : (num / den + 2) * den ≤ bound * den := Nat.mul_le_mul_right den (by omega)
    have htwice : 2 * bound * den = 2 * (bound * den) := Nat.mul_assoc 2 bound den
    have hnext : (num / den + 2) * den = den * (num / den) + 2 * den := by ring
    omega
  have hmiddle : bound = num / den + 1 → den ≤ 2 * (num % den) := by
    rintro rfl
    have hnext : 2 * (num / den + 1) * den = 2 * (den * (num / den)) + 2 * den := by ring
    omega
  unfold roundHalfEven
  simp only
  split
  case isTrue hsmall =>
    have hbelow : bound ≠ num / den + 1 := fun hequal => by
      have hlarge := hmiddle hequal
      omega
    omega
  case isFalse =>
    split <;> omega

/-- What a ratio is rounded to is beyond every number if the ratio is half a place beyond. -/
theorem ofRatio_infinite
    (negative : Bool)
    {num : Nat}
    (h : wholeBound ≤ num) :
    ofRatio negative num 1 = .infinite negative := by
  have hboundQ : (2 ^ 54 - 1) * (2 : ℚ) ^ (970 : Int) ≤ num := by
    rw [← wholeBound_cast]
    exact_mod_cast h
  have hpos : (0 : ℚ) < 2 ^ (970 : Int) := zpow_pos two_pos _
  have hnum : 0 < num := by
    have hpositive : (0 : ℚ) < num := lt_of_lt_of_le (mul_pos (by norm_num) hpos) hboundQ
    exact_mod_cast hpositive
  rw [ofRatio, if_neg hnum.ne']
  simp only
  obtain ⟨-, hroom, -⟩ := ratioExponent_spec hnum Nat.one_pos
  have htop := rounded_ratioExponent_le hnum Nat.one_pos
  simp only at hroom htop
  generalize ratioExponent num 1 = e at hroom htop ⊢
  have he : 971 ≤ e := by
    by_contra hlow
    have hpower : (2 : ℚ) ^ e ≤ 2 ^ (970 : Int) := zpow_le_zpow_right₀ one_le_two (by omega)
    push_cast at hroom
    generalize (2 : ℚ) ^ (970 : Int) = half at hboundQ hpos hpower
    linarith
  rcases he.eq_or_lt with rfl | hbeyond
  · -- At the greatest exponent the mantissa is rounded up to the one that does not fit.
    have hfull : 2 ^ 53 ≤ roundHalfEven (scaledRatio num 1 971).1 (scaledRatio num 1 971).2 := by
      have hscaled := scaledRatio_lt_iff num 1 2 (2 ^ 54 - 1) 971
      have hnot : ¬ ((2 : Nat) : ℚ) * num <
          ((2 ^ 54 - 1 : Nat) : ℚ) * (1 : Nat) * 2 ^ (971 : Int) := by
        rw [place_eq_two_halves, not_lt]
        generalize (2 : ℚ) ^ (970 : Int) = half at hboundQ
        push_cast
        linarith
      have hge := not_lt.mp (mt hscaled.mp hnot)
      have hden : 0 < (scaledRatio num 1 971).2 := Nat.mul_pos Nat.one_pos (Power.two_pos _)
      refine le_roundHalfEven hden (by norm_num) ?_
      omega
    have hmantissa : roundHalfEven (scaledRatio num 1 971).1 (scaledRatio num 1 971).2
        = mantissaBound := le_antisymm htop hfull
    rw [pack, hmantissa, if_pos rfl]
    rfl
  · unfold pack
    simp only
    split
    case isTrue => exact if_pos (by simp only [greatestExponent]; omega)
    case isFalse => exact if_pos hbeyond

/-- An integer is out of range if and only if it is half a place beyond the greatest number. -/
theorem ofInt_cases
    (n : Int) :
    (n.natAbs < wholeBound ∧ ∃ s m e, ofInt n = .finite s m e) ∨
      (wholeBound ≤ n.natAbs ∧ ∃ s, ofInt n = .infinite s) := by
  rcases lt_or_ge n.natAbs wholeBound with hin | hout
  · have hplace : (2 : ℚ) ^ (971 : Int) = 2 * 2 ^ (970 : Int) := by
      rw [← zpow_one_add₀ two_ne_zero]
      norm_num
    have hinQ : (n.natAbs : ℚ) < (2 ^ 54 - 1) * 2 ^ (970 : Int) := by
      rw [← wholeBound_cast]
      exact_mod_cast hin
    have hmiddle : (2 : ℚ) * n.natAbs <
        (2 * (2 ^ 53 - 1 : Nat) + 1) * (1 : Nat) * 2 ^ (971 : Int) := by
      rw [place_eq_two_halves]
      generalize (2 : ℚ) ^ (970 : Int) = half at hinQ
      push_cast
      linarith
    obtain ⟨m, e, hfinite, -⟩ := ofRatio_le (decide (n < 0)) Nat.one_pos (by norm_num)
      (by norm_num) (by decide) (by decide) hmiddle
    exact .inl ⟨hin, decide (n < 0), m, e, hfinite⟩
  · exact .inr ⟨hout, _, ofRatio_infinite _ hout⟩

/-- What a sign, a mantissa and an exponent stand for. -/
def signed (negative : Bool) (m : Nat) (e : Int) : ℚ :=
  if negative then -(m * 2 ^ e) else m * 2 ^ e

/-- Finite numbers are in the order of what they stand for. -/
theorem lt_finite_iff
    {s t : Bool}
    {m n : Nat}
    {e f : Int} :
    (finite s m e).lt (finite t n f) = true ↔ signed s m e < signed t n f := by
  have hpos : (0 : ℚ) < 2 ^ min e f := zpow_pos two_pos _
  -- Both are multiples of the power of two at the smaller exponent.
  have hmultiple : ∀ (r : Bool) (k : Nat) (d : Int), min e f ≤ d →
      signed r k d =
        ((if r then -((k * Power.two (d - min e f).toNat : Nat) : Int)
          else ((k * Power.two (d - min e f).toNat : Nat) : Int) : Int) : ℚ) * 2 ^ min e f := by
    intro r k d hd
    have hpower : (2 : ℚ) ^ d = 2 ^ (d - min e f).toNat * 2 ^ min e f := by
      rw [← zpow_natCast, ← zpow_add₀ two_ne_zero]
      congr 1
      omega
    unfold signed
    rw [hpower]
    cases r <;> simp [Power.two] <;> ring
  rw [hmultiple s m e (min_le_left e f), hmultiple t n f (min_le_right e f),
    mul_lt_mul_iff_left₀ hpos, Int.cast_lt, lt]
  exact decide_eq_true_iff

end Binary64

end AcceptorHost
