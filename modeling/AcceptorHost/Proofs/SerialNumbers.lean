import AcceptorHost.Text.Hex
import AcceptorHost.Wire.SerialNumber
import Mathlib.Data.List.Induction
import Mathlib.Data.Nat.Digits.Defs

/-!
# Serial numbers identify the device

The text of a serial number can be read back.  Its leading digits have a fixed width,
and what follows them is read by its sign: the last byte itself, or what it lacks of
256.  So the text gives the low bytes of all five elements, whichever way the last one
was written.
-/

namespace AcceptorHost

namespace Hex

/-- The lower case digits are the usual ones. -/
theorem lowerDigit_eq_digitChar
    {n : Nat}
    (h : n < 16) :
    lowerDigit n = Nat.digitChar n := by
  have all : ∀ k : Fin 16, lowerDigit k.val = Nat.digitChar k.val := by decide
  exact all ⟨n, h⟩

theorem length_padded
    (width n : Nat) :
    (padded width n).length = width := by
  induction width generalizing n with
  | zero => rfl
  | succ width ih => rw [padded, List.length_append, ih, List.length_singleton]

/-- A row of digits is read one digit after the other. -/
theorem value?_append_digit
    (cs : List Char)
    {d : Nat}
    (h : d < 16) :
    value? (cs ++ [lowerDigit d]) = (value? cs).map (16 * · + d) := by
  rw [value?, List.foldl_append, List.foldl_cons, List.foldl_nil, digitValue?_lowerDigit h]
  change (value? cs).bind _ = _
  cases value? cs <;> rfl

/-- Reading the last digits of a number gives what they leave of it. -/
theorem value?_padded
    (width n : Nat) :
    value? (padded width n) = some (n % 16 ^ width) := by
  induction width generalizing n with
  | zero => rw [Nat.pow_zero, Nat.mod_one]; rfl
  | succ width ih =>
    rw [padded, value?_append_digit _ (Nat.mod_lt n (by decide)), ih, Option.map_some,
      Nat.pow_succ', Nat.mod_mul, Nat.add_comm]

/-- Reading the digits of a number gives the number. -/
theorem value?_toDigits
    (n : Nat) :
    value? (Nat.toDigits 16 n) = some n := by
  induction n using Nat.strongRecOn with
  | ind n ih =>
    rw [Nat.toDigits_eq_if (by decide)]
    split
    case isTrue hsmall =>
      rw [← lowerDigit_eq_digitChar hsmall]
      exact value?_append_digit [] hsmall |>.trans (by simp [value?])
    case isFalse hlarge =>
      have hless : n / 16 < n := Nat.div_lt_self (by omega) (by decide)
      have hdigit : n % 16 < 16 := Nat.mod_lt n (by decide)
      rw [← lowerDigit_eq_digitChar hdigit, value?_append_digit _ hdigit, ih _ hless,
        Option.map_some, Nat.div_add_mod]

/-- What starts with a sign is no row of digits. -/
theorem value?_sign
    (cs : List Char) :
    value? ('-' :: cs) = none := by
  have hnone : ∀ ds : List Char,
      ds.foldl (fun acc c => acc.bind fun n => (digitValue? c).map (16 * n + ·)) none = none := by
    intro ds
    induction ds with
    | nil => rfl
    | cons d ds ih => exact ih
  exact hnone cs

/-- What is read as a row of digits consists of digits. -/
theorem isSome_of_value?
    {cs : List Char}
    {n : Nat}
    (h : value? cs = some n) :
    ∀ c ∈ cs, (digitValue? c).isSome = true := by
  induction cs using List.reverseRecOn generalizing n with
  | nil =>
    intro c hc
    cases hc
  | append_singleton cs d ih =>
    rw [value?, List.foldl_append, List.foldl_cons, List.foldl_nil] at h
    obtain ⟨m, hrest, hdigit⟩ := Option.bind_eq_some_iff.mp h
    obtain ⟨k, hd, -⟩ := Option.map_eq_some_iff.mp hdigit
    intro c hc
    rcases List.mem_append.mp hc with hc | hc
    · exact ih hrest c hc
    · rw [List.mem_singleton.mp hc, hd]
      rfl

end Hex

namespace SerialNumber

/-- The last byte that a text stands for, by its sign. -/
def lastByte? : List Char → Option Nat
  | '-' :: cs => (Hex.value? cs).map (256 - ·)
  | cs => Hex.value? cs

theorem lowByte_lt
    (n : Int) :
    lowByte n < 256 := by
  unfold lowByte
  omega

/-- The low bytes of two integers are the same if and only if these agree modulo 256. -/
theorem lowByte_eq_iff
    {a b : Int} :
    lowByte a = lowByte b ↔ a % 256 = b % 256 := by
  unfold lowByte
  omega

/-- A leading byte is read back from its digits. -/
theorem value?_leading
    (n : Int) :
    Hex.value? (leading n) = some (lowByte n) := by
  rw [leading, Hex.value?_padded]
  exact congrArg some (Nat.mod_eq_of_lt (lowByte_lt n))

theorem length_leading
    (n : Int) :
    (leading n).length = 2 := Hex.length_padded 2 _

/-- The last byte is read back from its text, whichever way it was written. -/
theorem lastByte?_trailing
    (unsigned : Bool)
    (n : Int) :
    lastByte? (trailing unsigned n) = some (lowByte n) := by
  have hbyte := lowByte_lt n
  simp only [trailing, bare]
  split
  case isTrue hplain =>
    have hread := Hex.value?_toDigits (lowByte n)
    -- Digits that are read do not start with the sign.
    unfold lastByte?
    split
    case h_1 cs hsign =>
      rw [hsign, Hex.value?_sign] at hread
      cases hread
    case h_2 => exact hread
  case isFalse hsigned =>
    rw [lastByte?, Hex.value?_toDigits, Option.map_some]
    congr 1
    omega

/-- The texts of leading bytes are the same only if the bytes are. -/
theorem lowByte_eq_of_leading
    {a b : Int}
    (h : leading a = leading b) :
    lowByte a = lowByte b := by
  have hread := congrArg Hex.value? h
  rw [value?_leading, value?_leading] at hread
  exact Option.some.inj hread

/-- The texts of last bytes are the same only if the bytes are, whichever way either was written. -/
theorem lowByte_eq_of_trailing
    {m n : Bool}
    {a b : Int}
    (h : trailing m a = trailing n b) :
    lowByte a = lowByte b := by
  have hread := congrArg lastByte? h
  rw [lastByte?_trailing, lastByte?_trailing] at hread
  exact Option.some.inj hread

theorem leading_congr
    {a b : Int}
    (h : a % 256 = b % 256) :
    leading a = leading b := by
  rw [leading, leading, lowByte_eq_iff.mpr h]

theorem trailing_congr
    (unsigned : Bool)
    {a b : Int}
    (h : a % 256 = b % 256) :
    trailing unsigned a = trailing unsigned b := by
  rw [trailing, trailing, lowByte_eq_iff.mpr h]

/-- The decimal digits that five elements pack: two in each of the first four, one in the last. -/
def packedDigits (elements : List Int) : List Nat :=
  ((elements.take 4).flatMap fun n => [lowByte n / 16, lowByte n % 16])
    ++ (elements.drop 4).map lowByte

/-- Two decimal digits in a byte are written as they are. -/
theorem leading_of_digits
    {n : Int}
    (hhigh : lowByte n / 16 ≤ 9) :
    leading n = [Nat.digitChar (lowByte n / 16), Nat.digitChar (lowByte n % 16)] := by
  have hlow : lowByte n % 16 < 16 := Nat.mod_lt _ (by decide)
  rw [← Hex.lowerDigit_eq_digitChar (n := lowByte n / 16) (by omega),
    ← Hex.lowerDigit_eq_digitChar hlow, leading, Hex.padded, Hex.padded, Hex.padded,
    Nat.mod_eq_of_lt (a := lowByte n / 16) (by omega)]
  rfl

/-- A decimal digit in the last byte is written as it is, whichever way the byte is read. -/
theorem trailing_of_digit
    (unsigned : Bool)
    {n : Int}
    (h : lowByte n ≤ 9) :
    trailing unsigned n = [Nat.digitChar (lowByte n)] := by
  have hplain : (unsigned || decide (lowByte n < 128)) = true := by
    rw [decide_eq_true (show lowByte n < 128 by omega), Bool.or_true]
  simp only [trailing, hplain, if_true, bare]
  exact Nat.toDigits_of_lt_base (by omega)

/-- The text gives the low bytes of the elements, whichever way either last byte was written. -/
theorem mod_eq_of_render
    {m n : Bool}
    {s t : List Int}
    (hs : s.length = size)
    (ht : t.length = size)
    (h : render m s = render n t) :
    s.map (· % 256) = t.map (· % 256) := by
  match s, t, hs, ht with
  | [a, b, c, d, e], [a', b', c', d', e'], _, _ =>
    have htext := String.ofList_injective (Except.ok.inj h)
    -- The widths of the leading digits tell where each byte's text ends.
    have hwidth : ∀ x y : Int, (leading x).length = (leading y).length :=
      fun x y => (length_leading x).trans (length_leading y).symm
    simp only [List.append_assoc] at htext
    obtain ⟨ha, htext⟩ := List.append_inj htext (hwidth a a')
    obtain ⟨hb, htext⟩ := List.append_inj htext (hwidth b b')
    obtain ⟨hc, htext⟩ := List.append_inj htext (hwidth c c')
    obtain ⟨hd, he⟩ := List.append_inj htext (hwidth d d')
    simp only [List.map_cons, List.map_nil]
    rw [lowByte_eq_iff.mp (lowByte_eq_of_leading ha), lowByte_eq_iff.mp (lowByte_eq_of_leading hb),
      lowByte_eq_iff.mp (lowByte_eq_of_leading hc), lowByte_eq_iff.mp (lowByte_eq_of_leading hd),
      lowByte_eq_iff.mp (lowByte_eq_of_trailing he)]

/-- The text of a serial number is not empty, and it stands on one line. -/
theorem one_line_of_render
    {m : Bool}
    {s : List Int}
    {text : String}
    (h : render m s = .ok text) :
    text.isEmpty = false ∧ '\n' ∉ text.toList := by
  have hplain : ∀ {cs : List Char} {n : Nat}, Hex.value? cs = some n → '\n' ∉ cs := by
    intro cs n hread hmem
    exact absurd (Hex.isSome_of_value? hread _ hmem) (by decide)
  have hleading (n : Int) : '\n' ∉ leading n := hplain (value?_leading n)
  have htrailing (n : Int) : '\n' ∉ trailing m n := by
    simp only [trailing, bare]
    split
    · exact hplain (Hex.value?_toDigits _)
    · rintro (_ | ⟨_, hmem⟩)
      exact hplain (Hex.value?_toDigits _) hmem
  unfold render at h
  split at h
  case h_1 a b c d e =>
    cases h
    constructor
    · rw [← Bool.not_eq_true, String.isEmpty_iff, ← String.toList_inj, String.toList_ofList]
      intro hempty
      have hsize := congrArg List.length hempty
      simp [length_leading] at hsize
    · rw [String.toList_ofList]
      simp only [List.mem_append, not_or]
      exact ⟨⟨⟨⟨hleading a, hleading b⟩, hleading c⟩, hleading d⟩, htrailing e⟩
  case h_2 => cases h

/-- Elements that agree modulo 256 have one text. -/
theorem render_congr
    (m : Bool)
    {s t : List Int}
    (hs : s.length = size)
    (ht : t.length = size)
    (h : s.map (· % 256) = t.map (· % 256)) :
    ∃ text, render m s = .ok text ∧ render m t = .ok text := by
  match s, t, hs, ht with
  | [a, b, c, d, e], [a', b', c', d', e'], _, _ =>
    simp only [List.map_cons, List.map_nil, List.cons.injEq, and_true] at h
    obtain ⟨ha, hb, hc, hd, he⟩ := h
    refine ⟨_, rfl, ?_⟩
    rw [render, leading_congr ha, leading_congr hb, leading_congr hc, leading_congr hd,
      trailing_congr m he]

/-- Elements that pack nine decimal digits are written as these digits. -/
theorem render_of_digits
    (m : Bool)
    {s : List Int}
    (hs : s.length = size)
    (h : ∀ d ∈ packedDigits s, d ≤ 9) :
    render m s = .ok (String.ofList ((packedDigits s).map Nat.digitChar)) := by
  match s, hs with
  | [a, b, c, d, e], _ =>
    simp only [packedDigits, List.take, List.drop, List.flatMap_cons, List.flatMap_nil,
      List.map_cons, List.map_nil, List.cons_append, List.nil_append, List.append_nil,
      List.forall_mem_cons] at h ⊢
    obtain ⟨ha, -, hb, -, hc, -, hd, -, he, -⟩ := h
    rw [render, leading_of_digits ha, leading_of_digits hb, leading_of_digits hc,
      leading_of_digits hd, trailing_of_digit m he]
    rfl

theorem length_packedDigits
    {s : List Int}
    (hs : s.length = size) :
    (packedDigits s).length = 9 := by
  match s, hs with
  | [_, _, _, _, _], _ => rfl

/--
Two rows of five integers, of any size and sign, have one text only if they agree modulo
256 element by element, whichever way either last byte is written, and rows that agree so
have one text.  If the row packs decimal digits, two in each of the first four bytes and
one in the last, its text is these nine digits, whichever way the last byte is written.
-/
theorem text_identifies_device
    {s t : List Int}
    (hs : s.length = size)
    (ht : t.length = size) :
    (∀ m n, render m s = render n t → s.map (· % 256) = t.map (· % 256)) ∧
    (s.map (· % 256) = t.map (· % 256) →
      ∀ m, ∃ text, render m s = .ok text ∧ render m t = .ok text) ∧
    ((∀ d ∈ packedDigits s, d ≤ 9) →
      (packedDigits s).length = 9 ∧
      ∀ m, render m s = .ok (String.ofList ((packedDigits s).map Nat.digitChar))) := by
  refine ⟨fun m n => mod_eq_of_render hs ht, fun h m => render_congr m hs ht h, fun h => ?_⟩
  exact ⟨length_packedDigits hs, fun m => render_of_digits m hs h⟩

/-- Rows that agree modulo 256 have one text, in which the last byte takes the sign; a row of nine
packed digits has another one, these digits. -/
theorem text_identifies_device_signed :
    let s := [0x112, 0x34, -0xAA, 0x78, -0x80]
    let t := [0x12, 0x134, 0x56, -0x88, 0x180]
    let u := [0x12, 0x34, 0x56, 0x78, 9]
    (render false s = .ok "12345678-80" ∧ render false t = .ok "12345678-80" ∧
      s.map (· % 256) = t.map (· % 256)) ∧
    (∃ text, render true s = .ok text ∧ render true t = .ok text) ∧
    (∀ m n, render m s ≠ render n u) ∧
    ∀ m, render m u = .ok "123456789" := by
  have hst := text_identifies_device (s := [0x112, 0x34, -0xAA, 0x78, -0x80])
    (t := [0x12, 0x134, 0x56, -0x88, 0x180]) rfl rfl
  have hsu := text_identifies_device (s := [0x112, 0x34, -0xAA, 0x78, -0x80])
    (t := [0x12, 0x34, 0x56, 0x78, 9]) rfl rfl
  have huu := text_identifies_device (s := [0x12, 0x34, 0x56, 0x78, 9])
    (t := [0x12, 0x34, 0x56, 0x78, 9]) rfl rfl
  refine ⟨⟨by decide +kernel, by decide +kernel, hst.1 false false (by decide +kernel)⟩,
    hst.2.1 (by decide) true, fun m n h => ?_, fun m => ?_⟩
  · exact absurd (hsu.1 m n h) (by decide)
  · have hdigits : packedDigits [0x12, 0x34, 0x56, 0x78, 9] = [1, 2, 3, 4, 5, 6, 7, 8, 9] := rfl
    rw [(huu.2.2 (by decide)).2 m, hdigits]
    decide +kernel

end SerialNumber

end AcceptorHost
