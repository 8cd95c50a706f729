import ScriptGlue.Text.Numeral

/-!
# Integer literals

The number that a C++ integer literal stands for: an optional sign, a decimal, octal, hexadecimal or
binary magnitude, and any suffix of `u` and `l` in either case. A magnitude that begins with a zero and
has octal digits only is octal; any other with a leading zero is refused unless it is zero.
-/

namespace ScriptGlue.Cpp

open ScriptGlue.Text

/-- A letter of an integer suffix. -/
def isSuffixLetter (c : Char) : Bool := c == 'u' || c == 'U' || c == 'l' || c == 'L'

/-- The literal without its suffix. -/
def dropSuffix (s : List Char) : List Char := (s.reverse.dropWhile isSuffixLetter).reverse

/-- An octal digit. -/
def isOctalDigit (c : Char) : Bool := '0' ≤ c && c ≤ '7'

/-- The number of an unsigned literal with a leading zero and octal digits after it. -/
def readOctal? : List Char → Option Nat
  | '0' :: c :: s =>
    if (c :: s).all isOctalDigit then (digits? 8 (c :: s)).map (ofDigits 8) else none
  | _ => none

/-- The base that the letter after a leading zero stands for. -/
def baseOf? (c : Char) : Option Nat :=
  if c == 'x' || c == 'X' then some 16
  else if c == 'o' || c == 'O' then some 8
  else if c == 'b' || c == 'B' then some 2
  else none

/-- The number of an unsigned literal whose base is given by its beginning; an underscore may follow
the letter of the base. -/
def readMagnitude? (s : List Char) : Option Nat :=
  match s with
  | '0' :: c :: body =>
    match baseOf? c with
    | some base =>
      let digits := match body with
        | '_' :: rest => rest
        | _ => body
      (digits? base digits).map (ofDigits base)
    | none => (readNatural? s).filter (· == 0)
  | _ => readNatural? s

/-- The number of an integer literal. -/
def readLiteral? (text : String) : Option Int :=
  let literal := dropSuffix (trimChars text.toList)
  let (negative, body) := cutSign literal
  match readOctal? body with
  | some n => some (withSign negative n)
  | none =>
    let (negative, body) := cutSign (numeralChars literal)
    (readMagnitude? body).map (withSign negative)

end ScriptGlue.Cpp
