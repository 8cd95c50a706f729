import ScriptGlue.Text.Identifier
import ScriptGlue.Text.Quoted

/-!
# Replacement texts

What a text is replaced by. A backslash begins an escape: for a control character, for a character by its
octal number, for the backslash itself, or, as `\g<0>`, for the text that is replaced. There are no groups
beside the whole text, which has the number zero.
-/

namespace ScriptGlue.Text

/-- What is wrong with an escape. -/
inductive EscapeFault where
  /-- A backslash ends the text. -/
  | unfinished
  /-- The letter has no meaning. -/
  | unknown (letter : Char)
  /-- The octal number is that of no character of one byte. -/
  | tooLarge (digits : String)
  /-- A group is not named in angle brackets. -/
  | unbracketed
  /-- A group is named by nothing. -/
  | unnamed
  /-- The name of a group has no end. -/
  | unclosed
  /-- A group is named by something that is neither a number nor an identifier. -/
  | misnamed (name : String)
  /-- There is no group of the number. -/
  | noNumber (number : Nat)
  /-- There is no group of the name. -/
  | noName (name : String)
  deriving DecidableEq, Repr

/-- An escape that cannot be read. -/
structure BadEscape where
  /-- What is wrong with it. -/
  fault : EscapeFault
  /-- The number of characters before the fault. -/
  position : Nat
  /-- The whole replacement text. -/
  text : String
  deriving DecidableEq, Repr

/-- The fault in words. -/
def EscapeFault.phrase : EscapeFault → String
  | unfinished => "bad escape (end of pattern)"
  | unknown letter => "bad escape " ++ String.ofList ['\\', letter]
  | tooLarge digits => "octal escape value \\" ++ digits ++ " outside of range 0-0o377"
  | unbracketed => "missing <"
  | unnamed => "missing group name"
  | unclosed => "missing >, unterminated name"
  | misnamed name => "bad character in group name " ++ quoted name
  | noNumber number => "invalid group reference " ++ toString number
  | noName name => "unknown group name " ++ quoted name

/-- What is said about the escape: the fault, and where it is unless it is the name of a group. In a text of
several lines the line and column are told too. -/
def BadEscape.message (e : BadEscape) : String :=
  let before := e.text.toList.take e.position
  let line := before.count '\n' + 1
  let column := (before.reverse.takeWhile (· != '\n')).length + 1
  let place := if e.text.toList.contains '\n' then s!" (line {line}, column {column})" else ""
  match e.fault with
  | .noName _ => e.fault.phrase
  | _ => s!"{e.fault.phrase} at position {e.position}{place}"

/-! ### Reading -/

/-- An octal digit. -/
def isOctalDigit (c : Char) : Bool := '0' ≤ c && c ≤ '7'

/-- The character with an octal number. -/
def octalChar (digits : List Char) : Char := Char.ofNat (ofDigits 8 (digits.map fun c => c.toNat - '0'.toNat) % 256)

/-- The character that an escaped letter stands for. -/
def controlChar? (letter : Char) : Option Char :=
  [('a', '\x07'), ('b', '\x08'), ('f', '\x0c'), ('n', '\n'), ('r', '\r'), ('t', '\t'), ('v', '\x0b'),
    ('\\', '\\')].lookup letter

/-- The name of a group and what follows it, its closing bracket included; an escape inside the name is a
part of it. -/
def takeGroupName : List Char → List Char × List Char
  | [] => ([], [])
  | ['\\'] => ([], ['\\'])
  | '\\' :: c :: s => ('\\' :: c :: (takeGroupName s).1, (takeGroupName s).2)
  | c :: s => if c == '>' then ([], c :: s) else (c :: (takeGroupName s).1, (takeGroupName s).2)

theorem length_takeGroupName_le (s : List Char) : (takeGroupName s).2.length ≤ s.length := by
  fun_induction takeGroupName s with
  | case1 => simp
  | case2 => simp
  | case3 c s ih => simp only [List.length_cons]; omega
  | case4 => simp
  | case5 c s _ _ ih => simp only [List.length_cons]; omega

/-- What an escape with the letter `g` stands for, or the fault and the number of characters between the
backslash and it; and what follows the escape. -/
def takeGroup (whole : List Char) : List Char → Except (Nat × EscapeFault) (List Char) × List Char
  | '<' :: s =>
    let name := String.ofList (takeGroupName s).1
    match (takeGroupName s).2 with
    | '>' :: rest =>
      if name.isEmpty then (.error (3, .unnamed), rest)
      else if isIdentifier (takeGroupName s).1 then (.error (3, .noName name), rest)
      else
        match readInteger? name with
        | some (.ofNat 0) => (.ok whole, rest)
        | some (.ofNat n) => (.error (3, .noNumber n), rest)
        | _ => (.error (3, .misnamed name), rest)
    | rest => (.error (3, if name.isEmpty then .unnamed else .unclosed), rest)
  | s => (.error (2, .unbracketed), s)

/-- What an escape with a letter or digit stands for where `whole` is replaced, or the fault and the number
of characters between the backslash and it; and what follows the escape. -/
def takeEscape (whole : List Char) (letter : Char) (s : List Char) :
    Except (Nat × EscapeFault) (List Char) × List Char :=
  if letter == 'g' then takeGroup whole s
  else if letter == '0' then
    let digits := (s.take 2).takeWhile isOctalDigit
    (.ok [octalChar digits], s.drop digits.length)
  else if letter.isDigit then
    match s with
    | d :: e :: rest =>
      if isOctalDigit letter && isOctalDigit d && isOctalDigit e then
        if letter ≤ '3' then (.ok [octalChar [letter, d, e]], rest)
        else (.error (0, .tooLarge (String.ofList [letter, d, e])), rest)
      else takeNumber letter s
    | _ => takeNumber letter s
  else
    match controlChar? letter with
    | some c => (.ok [c], s)
    | none => if letter.isAlpha then (.error (0, .unknown letter), s) else (.ok ['\\', letter], s)
where
  /-- The number of a group, of one or two digits; there is no such group. -/
  takeNumber (letter : Char) (s : List Char) : Except (Nat × EscapeFault) (List Char) × List Char :=
    let digits := (s.take 1).takeWhile Char.isDigit
    (.error (1, .noNumber (ofDigits 10 ((letter :: digits).map fun c => c.toNat - '0'.toNat))), s.drop digits.length)

theorem length_takeGroup_le (whole s : List Char) : (takeGroup whole s).2.length ≤ s.length := by
  unfold takeGroup
  split
  · next s =>
    have hname := length_takeGroupName_le s
    simp only [List.length_cons]
    split
    · next heq =>
      rw [heq] at hname
      simp only [List.length_cons] at hname
      split
      · dsimp only
        omega
      · split
        · dsimp only
          omega
        · split <;> dsimp only <;> omega
    · dsimp only
      omega
  · simp

theorem length_takeEscape_le (whole : List Char) (letter : Char) (s : List Char) :
    (takeEscape whole letter s).2.length ≤ s.length := by
  unfold takeEscape
  split
  · exact length_takeGroup_le whole s
  · split
    · simp
    · split
      · split
        · split
          · split <;> simp only [List.length_cons] <;> omega
          · simp [takeEscape.takeNumber]
        · simp [takeEscape.takeNumber]
      · split
        · simp
        · split <;> simp

/-- The characters that the rest of a replacement text stands for where `whole` is replaced, or the first
fault in it and the number of characters after that. A backslash at the end is noticed by the escape before
it. -/
def readReplacement (whole s : List Char) : Except (EscapeFault × Nat) (List Char) :=
  match s with
  | [] => .ok []
  | ['\\'] => .error (.unfinished, 1)
  | '\\' :: letter :: rest =>
    have := length_takeEscape_le whole letter rest
    match (takeEscape whole letter rest).1 with
    | .ok chars => (readReplacement whole (takeEscape whole letter rest).2).map (chars ++ ·)
    | .error (offset, fault) =>
      .error (if (takeEscape whole letter rest).2 == ['\\'] then (.unfinished, 1) else (fault, s.length - offset))
  | c :: rest => (readReplacement whole rest).map (c :: ·)
termination_by s.length
decreasing_by all_goals simp_all; try omega

/-- The characters that a replacement text stands for where `whole` is replaced. -/
def replacementOf (whole : List Char) (text : String) : Except BadEscape (List Char) :=
  (readReplacement whole text.toList).mapError fun (fault, left) => ⟨fault, text.length - left, text⟩

end ScriptGlue.Text
