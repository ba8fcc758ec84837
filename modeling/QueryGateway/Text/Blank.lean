/-!
# Blank characters

White space as statements and names are read: the ASCII controls from tab to
carriage return and from file separator to unit separator, the space, the
next-line control, and the separators of Unicode.  Numerals are read with the
narrower class that Unicode calls white space, without the four ASCII
separators.
-/

namespace QueryGateway.Text

/-- Whether a character is white space. -/
def isBlank (c : Char) : Bool :=
  let code := c.toNat
  (0x09 ≤ code && code ≤ 0x0d) || (0x1c ≤ code && code ≤ 0x20) || code = 0x85 || code = 0xa0 ||
    code = 0x1680 || (0x2000 ≤ code && code ≤ 0x200a) || code = 0x2028 || code = 0x2029 ||
    code = 0x202f || code = 0x205f || code = 0x3000

/-- The characters without the ones of a class at their end. -/
def dropEndWhile (drop : Char → Bool) (cs : List Char) : List Char :=
  (cs.reverse.dropWhile drop).reverse

/-- The characters without blanks at either end. -/
def trimBlanks (cs : List Char) : List Char :=
  dropEndWhile isBlank (cs.dropWhile isBlank)

/-- Whether a character is white space in the sense of Unicode: a blank other than the separators
of files, groups, records and units. -/
def isWhiteSpace (c : Char) : Bool :=
  isBlank c && !(0x1c ≤ c.toNat && c.toNat ≤ 0x1f)

/-- The characters without white space at either end. -/
def trimWhiteSpace (cs : List Char) : List Char :=
  dropEndWhile isWhiteSpace (cs.dropWhile isWhiteSpace)

/-- Whether a text holds nothing but blanks. -/
def isBlankText (text : String) : Bool :=
  text.toList.all isBlank

/-- Dropping at the end looks only at the last character. -/
theorem dropEndWhile_append_singleton
    (drop : Char → Bool)
    (cs : List Char)
    (c : Char) :
    dropEndWhile drop (cs ++ [c]) =
      if drop c then dropEndWhile drop cs else cs ++ [c] := by
  unfold dropEndWhile
  by_cases dropped : drop c <;> simp [dropped]

end QueryGateway.Text
