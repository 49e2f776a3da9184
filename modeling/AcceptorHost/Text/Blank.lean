/-!
# Blank characters

The characters that Unicode gives a white space property, a separator role
between words, or the role of a paragraph or segment separator.
-/

namespace AcceptorHost

namespace Text

/-- The ranges of blank characters, first and last. -/
def blankRanges : List (Nat × Nat) :=
  [(0x9, 0xd), (0x1c, 0x20), (0x85, 0x85), (0xa0, 0xa0), (0x1680, 0x1680), (0x2000, 0x200a),
    (0x2028, 0x2029), (0x202f, 0x202f), (0x205f, 0x205f), (0x3000, 0x3000)]

/-- A character is blank. -/
def isBlank (c : Char) : Bool :=
  blankRanges.any fun r => decide (r.1 ≤ c.toNat ∧ c.toNat ≤ r.2)

/-- A character separates records, groups or units of data. -/
def isDataSeparator (c : Char) : Bool := decide (0x1c ≤ c.toNat ∧ c.toNat ≤ 0x1f)

/-- Text without the characters of a class at its end. -/
def trimEnd (p : Char → Bool) (cs : List Char) : List Char := (cs.reverse.dropWhile p).reverse

/-- Text without the characters of a class at either end. -/
def trim (p : Char → Bool) (cs : List Char) : List Char := trimEnd p (cs.dropWhile p)

end Text

end AcceptorHost
