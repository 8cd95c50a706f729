import ScriptGlue.Proofs.Spacing
import ScriptGlue.Proofs.SpelledNumbers

/-!
# Spellings of integer literals

An integer literal is a magnitude in one of four bases, with a sign before it, a suffix behind it and blanks around
(`SpellsInteger`). The letters of suffixes, bases and digits are told apart by several rules in turn, all on one text.
**`readLiteral?_of_spells`** says that no rule takes a character that belongs to another: every spelling is read as the
integer that its digits denote.
-/

namespace ScriptGlue.Cpp

open ScriptGlue.Text

/-! ### Spellings -/

/-- The character is the digit of a value; a letter may be of either case. -/
def IsDigitOf (v : Nat) (c : Char) : Prop := c = Nat.digitChar v ∨ c = (Nat.digitChar v).toUpper

instance (v : Nat) (c : Char) : Decidable (IsDigitOf v c) := inferInstanceAs (Decidable (_ ∨ _))

/-- Digits in a base, the most significant first, denote a number. -/
inductive Denotes (base : Nat) : List Char → Nat → Prop where
  /-- A digit denotes its value. -/
  | digit {v : Nat} {c : Char} (hv : v < base) (hc : IsDigitOf v c) : Denotes base [c] v
  /-- One more digit moves those before it up by a place. -/
  | next {s : List Char} {n v : Nat} {c : Char} (hs : Denotes base s n) (hv : v < base) (hc : IsDigitOf v c) :
    Denotes base (s ++ [c]) (n * base + v)

/-- The letters that name a base behind a zero. -/
def baseLetters : List (Char × Nat) := [('x', 16), ('X', 16), ('o', 8), ('O', 8), ('b', 2), ('B', 2)]

/-- A magnitude denotes a number. -/
inductive IsMagnitude : List Char → Nat → Prop where
  /-- Zero alone is decimal. -/
  | zero : IsMagnitude ['0'] 0
  /-- Any other decimal magnitude has no zero before it, and not too many digits. -/
  | decimal {s : List Char} {n : Nat} (h : Denotes 10 s n) (hlead : s.head? ≠ some '0')
    (hlength : s.length ≤ maxDecimalDigits) : IsMagnitude s n
  /-- Digits behind a zero are octal. -/
  | octal {s : List Char} {n : Nat} (h : Denotes 8 s n) : IsMagnitude ('0' :: s) n
  /-- Digits of a base that is named. -/
  | based {letter : Char} {base : Nat} {s : List Char} {n : Nat} (hletter : (letter, base) ∈ baseLetters)
    (h : Denotes base s n) : IsMagnitude ('0' :: letter :: s) n

/-- A magnitude, with or without a sign, denotes an integer. -/
inductive IsSigned : List Char → Int → Prop where
  | unsigned {s : List Char} {n : Nat} (h : IsMagnitude s n) : IsSigned s n
  | positive {s : List Char} {n : Nat} (h : IsMagnitude s n) : IsSigned ('+' :: s) n
  | negative {s : List Char} {n : Nat} (h : IsMagnitude s n) : IsSigned ('-' :: s) (-n)

/-- A text is a spelling of an integer: a literal with any suffix, and blanks around them. -/
inductive SpellsInteger : List Char → Int → Prop where
  | intro {literal : List Char} {n : Int} (before suffix after : List Char) (h : IsSigned literal n)
    (hbefore : ∀ c ∈ before, isBlank c = true) (hsuffix : ∀ c ∈ suffix, c ∈ ['u', 'U', 'l', 'L'])
    (hafter : ∀ c ∈ after, isBlank c = true) : SpellsInteger (before ++ literal ++ suffix ++ after) n

/-! ### Characters -/

/-- The characters of magnitudes: all digits, and the letters of bases. -/
def magnitudeChars : List Char := "0123456789abcdefABCDEFxXoO".toList

/-- The characters of literals. -/
def literalChars : List Char := '+' :: '-' :: magnitudeChars

/-- No character of a literal is dropped from an end or read as another. -/
theorem of_mem_literalChars {c : Char} (h : c ∈ literalChars) :
    isBlank c = false ∧ isSuffixLetter c = false ∧ isMargin c = false ∧ asciiForm c = c := by
  have hall : (literalChars.all fun c => !isBlank c && !isSuffixLetter c && !isMargin c && asciiForm c == c) = true := by
    decide
  have hc := List.all_eq_true.1 hall c h
  simpa [and_assoc] using hc

section

variable {v base : Nat} {c : Char} (hc : IsDigitOf v c) (hv : v < base) (hbase : base ≤ 16)

include hc hv hbase

theorem IsDigitOf.mem_magnitudeChars : c ∈ magnitudeChars := by
  have hall : ∀ v < 16, Nat.digitChar v ∈ magnitudeChars ∧ (Nat.digitChar v).toUpper ∈ magnitudeChars := by decide
  obtain ⟨hlower, hupper⟩ := hall v (by omega)
  rcases hc with rfl | rfl
  · exact hlower
  · exact hupper

theorem IsDigitOf.digitValue?_eq : digitValue? base c = some v := by
  have hall : ∀ v < 16, digitValue? 16 (Nat.digitChar v) = some v ∧ digitValue? 16 (Nat.digitChar v).toUpper = some v := by
    decide
  have hread : digitValue? 16 c = some v := by
    obtain ⟨hlower, hupper⟩ := hall v (by omega)
    rcases hc with rfl | rfl
    · exact hlower
    · exact hupper
  simp only [digitValue?, Option.filter_eq_some_iff, decide_eq_true_eq] at hread ⊢
  exact ⟨hread.1, hv⟩

end

theorem IsDigitOf.isOctalDigit {v : Nat} {c : Char} (hc : IsDigitOf v c) (hv : v < 8) : isOctalDigit c = true := by
  have hall : ∀ v < 8, Cpp.isOctalDigit (Nat.digitChar v) = true ∧ Cpp.isOctalDigit (Nat.digitChar v).toUpper = true := by
    decide
  obtain ⟨hlower, hupper⟩ := hall v hv
  rcases hc with rfl | rfl
  · exact hlower
  · exact hupper

/-! ### Digits -/

theorem digits?_singleton {base v : Nat} {c : Char} (hc : digitValue? base c = some v) : digits? base [c] = some [v] := by
  rw [digits?.eq_def]
  simp only [hc]

/-- A digit behind a numeral is read last. -/
theorem digits?_concat {base v : Nat} {c : Char} (hc : digitValue? base c = some v) {s : List Char} {ds : List Nat}
    (h : digits? base s = some ds) : digits? base (s ++ [c]) = some (ds ++ [v]) := by
  fun_induction digits? base s generalizing ds with
  | case1 => cases h
  | case2 d s hd => cases h
  | case3 d e hd =>
    cases h
    have hunderscore : c ≠ '_' := by
      rintro rfl
      cases hc
    rw [List.singleton_append, digits?_cons hd hunderscore, digits?_singleton hc]
    rfl
  | case4 d e s hd ih =>
    obtain ⟨later, hlater, rfl⟩ := Option.map_eq_some_iff.1 h
    rw [List.cons_append, List.cons_append, digits?.eq_def]
    simp only [hd, ih hlater, Option.map_some, List.cons_append]
  | case5 d e s hne hunderscore hd ih =>
    obtain ⟨later, hlater, rfl⟩ := Option.map_eq_some_iff.1 h
    obtain ⟨first, s, rfl⟩ := List.exists_cons_of_ne_nil hne
    have hfirst : first ≠ '_' := by
      rintro rfl
      exact hunderscore s rfl
    rw [List.cons_append, List.cons_append, digits?_cons hd hfirst, ← List.cons_append, ih hlater]
    rfl

theorem Denotes.ne_nil {base n : Nat} {s : List Char} (h : Denotes base s n) : s ≠ [] := by
  cases h <;> simp

/-- Every character of a numeral is the digit of some value. -/
theorem Denotes.isDigitOf {base n : Nat} {s : List Char} (h : Denotes base s n) : ∀ c ∈ s, ∃ v < base, IsDigitOf v c := by
  induction h with
  | digit hv hc =>
    intro d hd
    rw [List.mem_singleton.1 hd]
    exact ⟨_, hv, hc⟩
  | next _ hv hc ih =>
    intro d hd
    rcases List.mem_append.1 hd with hd | hd
    · exact ih d hd
    · rw [List.mem_singleton.1 hd]
      exact ⟨_, hv, hc⟩

/-- The digits of a numeral are read, one for each character, and make up the number. -/
theorem Denotes.exists_digits {base n : Nat} {s : List Char} (h : Denotes base s n) (hbase : base ≤ 16) :
    ∃ ds, digits? base s = some ds ∧ ofDigits base ds = n ∧ ds.length = s.length := by
  induction h with
  | digit hv hc => exact ⟨_, digits?_singleton (hc.digitValue?_eq hv hbase), by simp [ofDigits], rfl⟩
  | next _ hv hc ih =>
    obtain ⟨ds, hds, hvalue, hlength⟩ := ih
    refine ⟨_, digits?_concat (hc.digitValue?_eq hv hbase) hds, ?_, by simp [hlength]⟩
    rw [ofDigits, List.foldl_append, ← ofDigits, hvalue]
    rfl

/-! ### Magnitudes -/

section

variable {s : List Char} {n : Nat}

theorem Denotes.mem_magnitudeChars {base : Nat} (h : Denotes base s n) (hbase : base ≤ 16) :
    ∀ c ∈ s, c ∈ magnitudeChars := by
  intro c hc
  obtain ⟨v, hv, hdigit⟩ := h.isDigitOf c hc
  exact hdigit.mem_magnitudeChars hv hbase

theorem le_of_mem_baseLetters {letter : Char} {base : Nat} (h : (letter, base) ∈ baseLetters) :
    base ≤ 16 ∧ letter ∈ magnitudeChars ∧ isOctalDigit letter = false ∧ baseOf? letter = some base := by
  have hall : ∀ p ∈ baseLetters, p.2 ≤ 16 ∧ p.1 ∈ magnitudeChars ∧ isOctalDigit p.1 = false ∧ baseOf? p.1 = some p.2 := by
    decide
  exact hall _ h

theorem IsMagnitude.mem_magnitudeChars (h : IsMagnitude s n) : ∀ c ∈ s, c ∈ magnitudeChars := by
  cases h with
  | zero => exact List.forall_mem_singleton.2 (by decide)
  | decimal h => exact h.mem_magnitudeChars (by decide)
  | octal h => exact List.forall_mem_cons.2 ⟨by decide, h.mem_magnitudeChars (by decide)⟩
  | based hletter h =>
    obtain ⟨hbase, hmem, -⟩ := le_of_mem_baseLetters hletter
    exact List.forall_mem_cons.2 ⟨by decide, List.forall_mem_cons.2 ⟨hmem, h.mem_magnitudeChars hbase⟩⟩

/-- What the rule for octal magnitudes reads, or what the rule for all others does where it finds none. -/
theorem IsMagnitude.read_eq (h : IsMagnitude s n) :
    readOctal? s = some n ∨ readOctal? s = none ∧ readMagnitude? s = some n := by
  cases h with
  | zero => exact .inr (by decide)
  | decimal h hlead hlength =>
    obtain ⟨ds, hds, hvalue, hcount⟩ := h.exists_digits (by decide)
    obtain ⟨c, s, rfl⟩ := List.exists_cons_of_ne_nil h.ne_nil
    have hc : c ≠ '0' := by simpa using hlead
    have hoctal : readOctal? (c :: s) = none := by
      unfold readOctal?
      split
      · next heq => exact absurd (List.cons.inj heq).1 hc
      · rfl
    have hread : readMagnitude? (c :: s) = readNatural? (c :: s) := by
      unfold readMagnitude?
      split
      · next heq => exact absurd (List.cons.inj heq).1 hc
      · rfl
    refine .inr ⟨hoctal, ?_⟩
    rw [hread, readNatural?, hds, Option.filter_some, hcount, if_pos (by simpa using hlength), Option.map_some, hvalue]
  | @octal s _ h =>
    obtain ⟨ds, hds, hvalue, -⟩ := h.exists_digits (by decide)
    have hall : s.all isOctalDigit = true := by
      refine List.all_eq_true.2 fun c hc => ?_
      obtain ⟨v, hv, hdigit⟩ := h.isDigitOf c hc
      exact hdigit.isOctalDigit hv
    obtain ⟨c, s, rfl⟩ := List.exists_cons_of_ne_nil h.ne_nil
    rw [readOctal?, if_pos hall, hds, Option.map_some, hvalue]
    exact .inl rfl
  | @based letter base s _ hletter h =>
    obtain ⟨hbase, -, hnot, hbaseOf⟩ := le_of_mem_baseLetters hletter
    obtain ⟨ds, hds, hvalue, -⟩ := h.exists_digits hbase
    have hoctal : readOctal? ('0' :: letter :: s) = none := by
      rw [readOctal?, List.all_cons, hnot, Bool.false_and, if_neg Bool.false_ne_true]
    have hread : readMagnitude? ('0' :: letter :: s) = (digits? base s).map (ofDigits base) := by
      simp only [readMagnitude?, hbaseOf]
      split
      · exact absurd (h.mem_magnitudeChars hbase '_' List.mem_cons_self) (by decide)
      · rfl
    rw [hread, hds, Option.map_some, hvalue]
    exact .inr ⟨hoctal, rfl⟩

end

/-! ### Literals -/

section

variable {s : List Char} {n : Int}

theorem IsSigned.mem_literalChars (h : IsSigned s n) : ∀ c ∈ s, c ∈ literalChars := by
  have hmagnitude : ∀ {s : List Char} {n : Nat}, IsMagnitude s n → ∀ c ∈ s, c ∈ literalChars := fun h c hc =>
    List.mem_cons_of_mem _ (List.mem_cons_of_mem _ (h.mem_magnitudeChars c hc))
  cases h with
  | unsigned h => exact hmagnitude h
  | positive h | negative h => exact List.forall_mem_cons.2 ⟨by decide, hmagnitude h⟩

/-- The sign is cut off, and what is left denotes the number without it. -/
theorem IsSigned.exists_cutSign (h : IsSigned s n) :
    ∃ negative body m, cutSign s = (negative, body) ∧ IsMagnitude body m ∧ withSign negative m = n := by
  cases h with
  | unsigned h =>
    have hunsigned : cutSign s = (false, s) := by
      have hchars := h.mem_magnitudeChars
      unfold cutSign
      split
      · exact absurd (hchars '-' List.mem_cons_self) (by decide)
      · exact absurd (hchars '+' List.mem_cons_self) (by decide)
      · rfl
    exact ⟨false, s, _, hunsigned, h, rfl⟩
  | positive h => exact ⟨false, _, _, rfl, h, rfl⟩
  | negative h => exact ⟨true, _, _, rfl, h, rfl⟩

/-- Nothing is dropped from a literal but the blanks and the suffix. -/
theorem IsSigned.dropSuffix_trimChars (h : IsSigned s n) {before suffix after : List Char}
    (hbefore : ∀ c ∈ before, isBlank c = true) (hsuffix : ∀ c ∈ suffix, c ∈ ['u', 'U', 'l', 'L'])
    (hafter : ∀ c ∈ after, isBlank c = true) : dropSuffix (trimChars (before ++ s ++ suffix ++ after)) = s := by
  have hletters : ∀ c ∈ ['u', 'U', 'l', 'L'], isBlank c = false ∧ isSuffixLetter c = true := fun c hc => by
    have hall : (['u', 'U', 'l', 'L'].all fun c => !isBlank c && isSuffixLetter c) = true := by decide
    simpa using List.all_eq_true.1 hall c hc
  have hsolid : ∀ c ∈ s ++ suffix, isBlank c = false := fun c hc =>
    (List.mem_append.1 hc).elim (fun hc => (of_mem_literalChars (h.mem_literalChars c hc)).1) fun hc =>
      (hletters c (hsuffix c hc)).1
  have htrim : trimChars (before ++ s ++ suffix ++ after) = s ++ suffix := by
    rw [trimChars_append_blanks _ hafter, List.append_assoc, trimChars_blanks_append hbefore, trimChars, trimStartChars,
      dropWhile_of_forall hsolid, trimEndChars, dropEnd_of_forall hsolid]
  rw [htrim, dropSuffix, List.reverse_append, List.dropWhile_append_of_pos fun c hc =>
    (hletters c (hsuffix c (List.mem_reverse.1 hc))).2]
  exact dropEnd_of_forall fun c hc => (of_mem_literalChars (h.mem_literalChars c hc)).2.1

theorem IsSigned.numeralChars_eq (h : IsSigned s n) : numeralChars s = s := by
  have hmargin : ∀ c ∈ s, isMargin c = false := fun c hc => (of_mem_literalChars (h.mem_literalChars c hc)).2.2.1
  have hascii : s.map asciiForm = s :=
    (List.map_congr_left fun c hc => (of_mem_literalChars (h.mem_literalChars c hc)).2.2.2).trans (List.map_id s)
  rw [numeralChars, hascii, dropWhile_of_forall hmargin, dropEnd_of_forall hmargin]

end

/-- **Every spelling of an integer is read as that integer**: with or without a sign, in any of the four bases, with any
zeros behind the letter of a base, any suffix, and any blanks around. -/
theorem readLiteral?_of_spells {text : String} {n : Int} (h : SpellsInteger text.toList n) : readLiteral? text = some n := by
  generalize htext : text.toList = chars at h
  obtain ⟨before, suffix, after, hsigned, hbefore, hsuffix, hafter⟩ := h
  obtain ⟨negative, body, m, hcut, hmagnitude, hsign⟩ := hsigned.exists_cutSign
  simp only [readLiteral?, htext, hsigned.dropSuffix_trimChars hbefore hsuffix hafter, hsigned.numeralChars_eq, hcut]
  rcases hmagnitude.read_eq with hoctal | ⟨hoctal, hread⟩
  · rw [hoctal, ← hsign]
  · rw [hoctal, hread, ← hsign]
    rfl

theorem readLiteral?_of_spells_hexadecimal : readLiteral? " -0X00bFull\n" = some (-191) := by
  have hzero : Denotes 16 ['0'] 0 := .digit (by decide) (by decide)
  have hzeros : Denotes 16 ['0', '0'] 0 := hzero.next (v := 0) (c := '0') (by decide) (by decide)
  have heleven : Denotes 16 ['0', '0', 'b'] 11 := hzeros.next (v := 11) (c := 'b') (by decide) (by decide)
  have hdigits : Denotes 16 ['0', '0', 'b', 'F'] 191 := heleven.next (v := 15) (c := 'F') (by decide) (by decide)
  have hsigned : IsSigned ['-', '0', 'X', '0', '0', 'b', 'F'] (-191) := .negative (.based (by decide) hdigits)
  have hbefore : ∀ c ∈ [' '], isBlank c = true := List.all_eq_true.1 rfl
  have hsuffix : ∀ c ∈ ['u', 'l', 'l'], c ∈ ['u', 'U', 'l', 'L'] := by simp
  have hafter : ∀ c ∈ ['\n'], isBlank c = true := List.all_eq_true.1 rfl
  exact readLiteral?_of_spells (.intro [' '] ['u', 'l', 'l'] ['\n'] hsigned hbefore hsuffix hafter)

end ScriptGlue.Cpp
