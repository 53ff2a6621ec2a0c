/-!
# The Unicode property White_Space

Two notions of blank meet in this library: the white space of Unicode, which decides how a text is
recognised and where a printed table text ends, and the four blanks of JSON.
-/

namespace EntityModel.Text

def isWhiteSpace (c : Char) : Bool :=
  let n := c.toNat
  (9 ≤ n && n ≤ 13) || n == 0x20 || n == 0x85 || n == 0xa0 || n == 0x1680 ||
    (0x2000 ≤ n && n ≤ 0x200a) || n == 0x2028 || n == 0x2029 || n == 0x202f ||
    n == 0x205f || n == 0x3000

/-- The four blanks that may stand between JSON tokens. -/
def isJsonBlank (c : Char) : Bool :=
  c == ' ' || c == '\n' || c == '\t' || c == '\r'

/-- Every JSON blank is white space. -/
theorem isWhiteSpace_of_isJsonBlank {c : Char} (h : isJsonBlank c = true) :
    isWhiteSpace c = true := by
  simp only [isJsonBlank, Bool.or_eq_true, beq_iff_eq] at h
  rcases h with ((rfl | rfl) | rfl) | rfl <;> decide

/-- The characters without the white space at their end. -/
def trimEnd (cs : List Char) : List Char :=
  (cs.reverse.dropWhile isWhiteSpace).reverse

end EntityModel.Text
