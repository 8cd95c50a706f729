import ScriptGlue.Text.Blank

/-!
# Numerals

Reading and spelling whole numbers. A numeral is a sequence of digits in some base, where a single
underscore may stand between two digits; decimal digits of every script count as digits. Decimal
numerals are limited to `maxDecimalDigits` digits, both read and spelled; other bases have no limit.
-/

namespace ScriptGlue.Text

/-- The digits a decimal numeral may have. -/
def maxDecimalDigits : Nat := 4300

/-- The zeros of the decimal digits beyond ASCII, by Unicode 14; the digits follow in order. -/
def decimalZeros : List Nat :=
  [0x660, 0x6F0, 0x7C0, 0x966, 0x9E6, 0xA66, 0xAE6, 0xB66, 0xBE6, 0xC66, 0xCE6, 0xD66, 0xDE6, 0xE50,
    0xED0, 0xF20, 0x1040, 0x1090, 0x17E0, 0x1810, 0x1946, 0x19D0, 0x1A80, 0x1A90, 0x1B50, 0x1BB0,
    0x1C40, 0x1C50, 0xA620, 0xA8D0, 0xA900, 0xA9D0, 0xA9F0, 0xAA50, 0xABF0, 0xFF10, 0x104A0,
    0x10D30, 0x11066, 0x110F0, 0x11136, 0x111D0, 0x112F0, 0x11450, 0x114D0, 0x11650, 0x116C0,
    0x11730, 0x118E0, 0x11950, 0x11C50, 0x11D50, 0x11DA0, 0x16A60, 0x16AC0, 0x16B50, 0x1D7CE,
    0x1D7D8, 0x1D7E2, 0x1D7EC, 0x1D7F6, 0x1E140, 0x1E2F0, 0x1E950, 0x1FBF0]

/-- The ASCII character read for a character: a digit for a decimal digit of any script, a space for a
blank beyond ASCII, and any other character itself. -/
def asciiForm (c : Char) : Char :=
  if c.toNat < 0x7F then c
  else if isBlank c then ' '
  else
    match decimalZeros.find? fun first => first ≤ c.toNat && c.toNat < first + 10 with
    | some first => Char.ofNat ('0'.toNat + (c.toNat - first))
    | none => c

/-- A blank that may stand around a numeral. -/
def isMargin (c : Char) : Bool := c == ' ' || (9 ≤ c.toNat && c.toNat ≤ 13)

/-- The ASCII form of a text without the blanks around it. -/
def numeralChars (s : List Char) : List Char :=
  (((s.map asciiForm).dropWhile isMargin).reverse.dropWhile isMargin).reverse

/-! ### Digits -/

/-- The value of a digit in base `base`, letters of either case standing for ten and more. -/
def digitValue? (base : Nat) (c : Char) : Option Nat :=
  let value? :=
    if '0' ≤ c && c ≤ '9' then some (c.toNat - '0'.toNat)
    else if 'a' ≤ c && c ≤ 'z' then some (10 + c.toNat - 'a'.toNat)
    else if 'A' ≤ c && c ≤ 'Z' then some (10 + c.toNat - 'A'.toNat)
    else none
  value?.filter (· < base)

/-- The digits of a numeral, each of a value below `base`. -/
def digits? (base : Nat) : List Char → Option (List Nat)
  | [] => none
  | c :: s =>
    match digitValue? base c, s with
    | none, _ => none
    | some d, [] => some [d]
    | some d, '_' :: s => (digits? base s).map (d :: ·)
    | some d, s => (digits? base s).map (d :: ·)

/-- The number with the given digits, most significant first. -/
def ofDigits (base : Nat) (digits : List Nat) : Nat := digits.foldl (fun n d => n * base + d) 0

/-- The number of an unsigned decimal numeral. -/
def readNatural? (s : List Char) : Option Nat :=
  ((digits? 10 s).filter (·.length ≤ maxDecimalDigits)).map (ofDigits 10)

/-- Whether a numeral has a minus sign, and the numeral without its sign. -/
def cutSign : List Char → Bool × List Char
  | '-' :: s => (true, s)
  | '+' :: s => (false, s)
  | s => (false, s)

/-- The number with the given sign and magnitude. -/
def withSign (negative : Bool) (n : Nat) : Int := if negative then -(n : Int) else n

/-- The number of a decimal numeral with an optional sign. -/
def readInteger? (s : String) : Option Int :=
  let (negative, body) := cutSign (numeralChars s.toList)
  (readNatural? body).map (withSign negative)

/-- The decimal spelling of a number, if it is not too long. -/
def spell? (n : Int) : Option String :=
  if (Nat.toDigits 10 n.natAbs).length ≤ maxDecimalDigits then some (toString n) else none

end ScriptGlue.Text
