/-!
# Blank characters

A blank is a character with the Unicode property `White_Space`.  This file
holds the property and the removal of blanks from the ends of a text.  Texts
that are taken apart are lists of characters throughout the library.
-/

namespace Scaffold.Text

/-- Whether a character has the property `White_Space`: the controls from tab
to carriage return, next line, the space and no-break space, and the wider
spaces and separators of the later blocks. -/
def isBlank (c : Char) : Bool :=
  let n := c.toNat
  (0x09 ≤ n && n ≤ 0x0D) || n == 0x20 || n == 0x85 || n == 0xA0 || n == 0x1680 ||
    (0x2000 ≤ n && n ≤ 0x200A) || n == 0x2028 || n == 0x2029 || n == 0x202F ||
    n == 0x205F || n == 0x3000

/-- The text without its leading blanks. -/
def trimStart (text : List Char) : List Char :=
  text.dropWhile isBlank

/-- The text without its trailing blanks. -/
def trimEnd (text : List Char) : List Char :=
  (text.reverse.dropWhile isBlank).reverse

/-- The text without the blanks at both ends. -/
def trim (text : List Char) : List Char :=
  trimEnd (trimStart text)

/-- A text is blank if it holds blanks only, as the empty text does. -/
def isBlankText (text : List Char) : Bool :=
  text.all isBlank

@[simp]
theorem isBlank_newline : isBlank '\n' = true :=
  rfl

/-- The blanks of ASCII that the core library knows are blanks. -/
theorem isBlank_of_isWhitespace {c : Char} (blank : c.isWhitespace = true) :
    isBlank c = true := by
  simp only [Char.isWhitespace, Bool.or_eq_true, decide_eq_true_eq] at blank
  rcases blank with ((rfl | rfl) | rfl) | rfl <;> rfl

theorem isBlankText_append (first second : List Char) :
    isBlankText (first ++ second) = (isBlankText first && isBlankText second) := by
  simp [isBlankText]

end Scaffold.Text
