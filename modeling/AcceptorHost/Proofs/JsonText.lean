import AcceptorHost.Json.Printer
import AcceptorHost.Json.Reader
import AcceptorHost.Text.Lines

/-!
# The characters of compact JSON text

Whatever a value is, it is written on one line and in printable characters of ASCII alone.  So
the ends of lines in its text may be made uniform, and it stays as it is.
-/

namespace AcceptorHost

namespace Text

/-- A printable character of ASCII, the blank among them. -/
def IsPlain (c : Char) : Prop := 0x20 ≤ c.toNat ∧ c.toNat < 0x7F

instance : DecidablePred IsPlain :=
  fun c => inferInstanceAs (Decidable (0x20 ≤ c.toNat ∧ c.toNat < 0x7F))

/-- A row of printable characters of ASCII. -/
def Plain (cs : List Char) : Prop := ∀ c ∈ cs, IsPlain c

instance : DecidablePred Plain := List.decidableBAll IsPlain

@[simp] theorem plain_append
    (cs ds : List Char) :
    Plain (cs ++ ds) ↔ Plain cs ∧ Plain ds :=
  List.forall_mem_append

@[simp] theorem plain_cons
    (c : Char)
    (cs : List Char) :
    Plain (c :: cs) ↔ IsPlain c ∧ Plain cs :=
  List.forall_mem_cons

@[simp] theorem plain_nil : Plain [] := List.forall_mem_nil _

theorem plain_ite
    {p : Prop}
    [Decidable p]
    {cs ds : List Char}
    (hcs : p → Plain cs)
    (hds : ¬ p → Plain ds) :
    Plain (if p then cs else ds) := by
  split
  · exact hcs ‹p›
  · exact hds ‹¬ p›

theorem Plain.sublist
    {cs ds : List Char}
    (h : Plain ds)
    (hsub : cs.Sublist ds) :
    Plain cs := fun c hc => h c (hsub.subset hc)

theorem plain_zeros
    (count : Nat) :
    Plain (List.replicate count '0') := by
  intro c hc
  rw [List.eq_of_mem_replicate hc]
  decide

theorem plain_toDigits
    (n : Nat) :
    Plain (Nat.toDigits 10 n) := by
  intro c hc
  have hdigit := Nat.isDigit_of_mem_toDigits (by decide) (by decide) hc
  simp only [Char.isDigit, Bool.and_eq_true, decide_eq_true_eq] at hdigit
  have hlow : 48 ≤ c.toNat := hdigit.1
  have hhigh : c.toNat ≤ 57 := hdigit.2
  exact ⟨by omega, by omega⟩

/-- A text between plain texts is plain if it is. -/
theorem plain_intercalate
    {between : List Char}
    {texts : List (List Char)}
    (hbetween : Plain between)
    (htexts : ∀ t ∈ texts, Plain t) :
    Plain (between.intercalate texts) := by
  induction texts with
  | nil =>
      exact plain_nil
  | cons first rest ih =>
      obtain ⟨hfirst, hrest⟩ := List.forall_mem_cons.mp htexts
      cases rest with
      | nil =>
          rwa [List.intercalate_singleton]
      | cons second rest =>
          rw [List.intercalate_cons_cons, plain_append, plain_append]
          exact ⟨⟨hfirst, hbetween⟩, ih hrest⟩

/-- In plain text there is no end of a line. -/
theorem uniformLines_of_plain
    {cs : List Char}
    (h : Plain cs) :
    uniformLines cs = cs := by
  induction cs with
  | nil =>
      rfl
  | cons c rest ih =>
      obtain ⟨hc, hrest⟩ := (plain_cons c rest).mp h
      have hreturn : c ≠ '\r' := by
        rintro rfl
        exact absurd hc (by decide)
      rw [uniformLines.eq_3 c rest (fun _ h => absurd h hreturn), if_neg hreturn, ih hrest]

end Text

namespace Decimal

open Text

variable {layout : Layout}

/-- What a layout writes beside digits is plain. -/
structure Layout.IsPlain (layout : Layout) : Prop where
  exponentMark : Plain layout.exponentMark.toList
  wholeEnding : Plain layout.wholeEnding.toList
  infinity : Plain layout.infinity.toList
  notANumber : Plain layout.notANumber.toList

theorem plain_placePoint
    (hlayout : layout.IsPlain)
    {ds : List Char}
    (hds : Plain ds)
    (point : Int) :
    Plain (placePoint layout ds point).toList := by
  have htake := hds.sublist (List.take_sublist point.toNat ds)
  have hdrop := hds.sublist (List.drop_sublist point.toNat ds)
  unfold placePoint
  split
  · simp only [String.toList_append, String.toList_ofList, plain_append]
    exact ⟨by decide, plain_zeros _, hds⟩
  · split
    · simp only [String.toList_append, String.toList_ofList, plain_append]
      exact ⟨⟨hds, plain_zeros _⟩, hlayout.wholeEnding⟩
    · simp only [String.toList_append, String.toList_ofList, plain_append]
      exact ⟨⟨htake, by decide⟩, hdrop⟩

theorem plain_placeExponent
    (hlayout : layout.IsPlain)
    {ds : List Char}
    (hds : Plain ds)
    (point : Int) :
    Plain (placeExponent layout ds point).toList := by
  have htake := hds.sublist (List.take_sublist 1 ds)
  have hdrop := hds.sublist (List.drop_sublist 1 ds)
  have hsign : ∀ e : Int, Plain (if e < 0 then "-" else "+").toList := by
    intro e
    split <;> decide
  have hbody : Plain
      (if (ds.drop 1).isEmpty then String.ofList (ds.take 1)
        else String.ofList (ds.take 1) ++ "." ++ String.ofList (ds.drop 1)).toList := by
    split
    · simpa only [String.toList_ofList] using htake
    · simp only [String.toList_append, String.toList_ofList, plain_append]
      exact ⟨⟨htake, by decide⟩, hdrop⟩
  simp only [placeExponent, padZeros, String.toList_append, String.toList_ofList, plain_append]
  exact ⟨⟨⟨hbody, hlayout.exponentMark⟩, hsign _⟩, plain_zeros _, plain_toDigits _⟩

/-- Every number is written in plain text. -/
theorem plain_write
    (hlayout : layout.IsPlain)
    (x : Binary64) :
    Plain (write layout x).toList := by
  have hsign : ∀ s : Bool, Plain (if s then "-" else "").toList := by decide
  cases x with
  | nan =>
      exact hlayout.notANumber
  | infinite s =>
      simp [write, hsign, hlayout.infinity]
  | finite s m e =>
      have hdigits : Plain (trimZeros (Nat.toDigits 10 (shortest m e).value)) := by
        refine (plain_toDigits (shortest m e).value).sublist ?_
        have hdrop := (List.dropWhile_sublist (· == '0')
          (l := (Nat.toDigits 10 (shortest m e).value).reverse)).reverse
        rwa [List.reverse_reverse] at hdrop
      simp only [write]
      split
      · simp only [String.toList_append, plain_append]
        exact ⟨⟨hsign s, by decide⟩, hlayout.wholeEnding⟩
      · rw [String.toList_append, plain_append]
        refine ⟨hsign s, ?_⟩
        split
        · exact plain_placePoint hlayout hdigits _
        · exact plain_placeExponent hlayout hdigits _

end Decimal

namespace Json

open Text

theorem plain_padded
    (width n : Nat) :
    Plain (Hex.padded width n) := by
  have hdigit : ∀ k : Fin 16, IsPlain (Hex.lowerDigit k) := by decide
  induction width generalizing n with
  | zero =>
      exact plain_nil
  | succ width ih =>
      have hlast : IsPlain (Hex.lowerDigit (n % 16)) :=
        hdigit ⟨n % 16, Nat.mod_lt n (by decide)⟩
      simp [Hex.padded, ih, hlast]

theorem plain_unicodeEscape
    (n : Nat) :
    Plain (unicodeEscape n) := by
  have hmark : IsPlain '\\' ∧ IsPlain 'u' := by decide
  simp [unicodeEscape, hmark, plain_padded]

/-- A character inside a string is written in plain text. -/
theorem plain_escapeChar
    (c : Char) :
    Plain (escapeChar c) := by
  unfold escapeChar
  -- The short escapes come first; a character that is written as it is lies in the range.
  refine plain_ite (fun _ => by decide) fun _ => ?_
  refine plain_ite (fun _ => by decide) fun _ => ?_
  refine plain_ite (fun _ => by decide) fun _ => ?_
  refine plain_ite (fun _ => by decide) fun _ => ?_
  refine plain_ite (fun _ => by decide) fun _ => ?_
  refine plain_ite (fun _ => by decide) fun _ => ?_
  refine plain_ite (fun _ => by decide) fun _ => ?_
  refine plain_ite (fun _ => plain_unicodeEscape _) fun hlow => ?_
  refine plain_ite (fun hhigh => ?_) fun _ => ?_
  · exact (plain_cons c []).mpr ⟨⟨Nat.not_lt.mp hlow, hhigh⟩, plain_nil⟩
  · refine plain_ite (fun _ => plain_unicodeEscape _) fun _ => ?_
    split
    · exact plain_unicodeEscape _
    · exact (plain_append _ _).mpr ⟨plain_unicodeEscape _, plain_unicodeEscape _⟩

/-- A half of a pair that was read alone is written as the escape that it was read from. -/
theorem escapeChar_loneChar
    {n : Nat}
    (h : isHighUnit n = true ∨ isLowUnit n = true) :
    escapeChar (loneChar n) = unicodeEscape n := by
  have hunit : loneChar n = HalfPair.ofUnit n := if_pos (by simpa using h)
  have hrange : 0xd800 ≤ n ∧ n < 0xe000 := by
    simp only [isHighUnit, isLowUnit, decide_eq_true_eq] at h
    omega
  have hhalf := HalfPair.unit?_ofUnit hrange.1 hrange.2
  have hfar : 0x10000 ≤ (HalfPair.ofUnit n).toNat := by
    rw [HalfPair.toNat_ofUnit hrange.2]
    exact Nat.le_trans (by decide) (Nat.le_add_right _ _)
  -- The character lies beyond all those that have an escape of their own.
  have hother : ∀ d : Char, d.toNat < 0x10000 → HalfPair.ofUnit n ≠ d := by
    rintro d hd rfl
    omega
  rw [hunit, escapeChar, if_neg (hother _ (by decide)), if_neg (hother _ (by decide)),
    if_neg (hother _ (by decide)), if_neg (hother _ (by decide)), if_neg (hother _ (by decide)),
    if_neg (by omega), if_neg (by omega), if_neg (by omega), if_neg (by omega),
    if_neg (by omega), hhalf]

theorem plain_string
    (s : String) :
    Plain (string s).toList := by
  have hquote : IsPlain '"' := by decide
  simp only [string, String.toList_ofList, List.cons_append, plain_cons, plain_append, hquote,
    plain_nil, and_true, true_and]
  intro c hc
  obtain ⟨d, -, hc⟩ := List.mem_flatMap.mp hc
  exact plain_escapeChar d c hc

theorem plain_intText
    (n : Int) :
    Plain (Value.intText n).toList := by
  have hminus : IsPlain '-' := by decide
  unfold Value.intText
  split <;> simp [plain_toDigits, hminus]

theorem isPlain_numerals : numerals.IsPlain where
  exponentMark := by decide
  wholeEnding := by decide
  infinity := by decide
  notANumber := by decide

mutual

/-- Every value is written in plain text. -/
theorem plain_compact (v : Value) : Plain (compact v).toList :=
  match v with
  | .null => by decide
  | .bool b => by cases b <;> decide
  | .int n => plain_intText n
  | .float x => Decimal.plain_write isPlain_numerals x
  | .text s => plain_string s
  | .list items => by
      have hitems : Plain (",".toList.intercalate ((compactItems items).map String.toList)) :=
        plain_intercalate (by decide) (plain_compactItems items)
      simp only [compact, String.toList_append, plain_append, String.toList_intercalate]
      exact ⟨⟨by decide, hitems⟩, by decide⟩
  | .record fields => by
      have hfields : Plain (",".toList.intercalate ((compactFields fields).map String.toList)) :=
        plain_intercalate (by decide) (plain_compactFields fields)
      simp only [compact, String.toList_append, plain_append, String.toList_intercalate]
      exact ⟨⟨by decide, hfields⟩, by decide⟩
termination_by structural v

theorem plain_compactItems (vs : List Value) :
    ∀ t ∈ (compactItems vs).map String.toList, Plain t :=
  match vs with
  | [] => by simp [compactItems]
  | v :: rest => by
      simp only [compactItems, List.map_cons, List.forall_mem_cons]
      exact ⟨plain_compact v, plain_compactItems rest⟩
termination_by structural vs

theorem plain_compactFields (fs : List (String × Value)) :
    ∀ t ∈ (compactFields fs).map String.toList, Plain t :=
  match fs with
  | [] => by simp [compactFields]
  | f :: rest => by
      simp only [compactFields, List.map_cons, List.forall_mem_cons]
      exact ⟨plain_compactField f, plain_compactFields rest⟩
termination_by structural fs

theorem plain_compactField (f : String × Value) : Plain (compactField f).toList :=
  match f with
  | (name, v) => by
      have hcolon : IsPlain ':' := by decide
      have hvalue := plain_compact v
      simp [compactField, plain_string, hvalue, hcolon]
termination_by structural f

end

end Json

end AcceptorHost
