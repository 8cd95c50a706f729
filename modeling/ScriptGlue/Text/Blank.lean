/-!
# Blanks

Blank characters, trimming, and the words of a text. `collapse` joins the words of a text by single
spaces, so it is the one spelling of a text up to blanks.
-/

namespace ScriptGlue.Text

/-- A blank: space, the control characters for tabs, line ends and separators, and the spaces and line
separators of Unicode. -/
def isBlank (c : Char) : Bool :=
  let n := c.toNat
  (9 ≤ n && n ≤ 13) || (28 ≤ n && n ≤ 32) || n == 0x85 || n == 0xA0 || n == 0x1680 ||
    (0x2000 ≤ n && n ≤ 0x200A) || n == 0x2028 || n == 0x2029 || n == 0x202F || n == 0x205F || n == 0x3000

theorem ne_of_isBlank {c d : Char} (hc : isBlank c = true) (hd : isBlank d = false) : c ≠ d := by
  rintro rfl
  exact Bool.false_ne_true (hd.symm.trans hc)

/-! ### Trimming -/

/-- The characters from the first that is no blank. -/
def trimStartChars (s : List Char) : List Char := s.dropWhile isBlank

/-- The characters up to the last that is no blank. -/
def trimEndChars (s : List Char) : List Char := (s.reverse.dropWhile isBlank).reverse

/-- The characters between the outer blanks. -/
def trimChars (s : List Char) : List Char := trimEndChars (trimStartChars s)

/-- The text without blanks at its ends. -/
def trim (s : String) : String := String.ofList (trimChars s.toList)

/-! ### Words -/

/-- The word that a text begins with, empty before a blank, and the words after it. -/
def splitWords : List Char → List Char × List (List Char)
  | [] => ([], [])
  | c :: s =>
    let (word, later) := splitWords s
    if isBlank c then ([], if word.isEmpty then later else word :: later) else (c :: word, later)

/-- The maximal runs of characters that are no blanks. -/
def words (s : List Char) : List (List Char) :=
  let (word, later) := splitWords s
  if word.isEmpty then later else word :: later

/-- The words of a text joined by single spaces. -/
def collapseChars (s : List Char) : List Char := [' '].intercalate (words s)

/-- The text with every run of blanks made one space and none at its ends. -/
def collapse (s : String) : String := String.ofList (collapseChars s.toList)

end ScriptGlue.Text
