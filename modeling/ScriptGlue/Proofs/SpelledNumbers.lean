import ScriptGlue.Cpp.IntegerLiteral

/-!
# Spelled numbers

The decimal spelling of a number is read as that number (**`readLiteral?_toString`**): it has no blanks, no suffix and no
leading zero, so no rule for literals takes it for anything else. Numbers with up to `maxDecimalDigits` digits are spelled,
and just these are read back.
-/

namespace ScriptGlue.Text

/-! ### Digits -/

theorem digitValue?_of_isDigit {c : Char} (hc : c.isDigit = true) : digitValue? 10 c = some (c.toNat - '0'.toNat) := by
  have hbounds : ('0' ≤ c && c ≤ '9') = true := by
    simpa [Char.isDigit, Char.le_def] using hc
  have hlt : c.toNat - '0'.toNat < 10 := by
    rw [Bool.and_eq_true, decide_eq_true_eq, decide_eq_true_eq] at hbounds
    have hle : c.toNat ≤ '9'.toNat := hbounds.2
    have h9 : '9'.toNat = '0'.toNat + 9 := rfl
    omega
  simp only [digitValue?, if_pos hbounds, Option.filter_some, hlt, decide_true, if_true]

theorem digits?_cons {base v : Nat} {c d : Char} (hc : digitValue? base c = some v) (hd : d ≠ '_') (s : List Char) :
    digits? base (c :: d :: s) = (digits? base (d :: s)).map (v :: ·) := by
  rw [digits?.eq_def]
  simp [hc, hd]

theorem digits?_of_isDigit {s : List Char} (hne : s ≠ []) (h : ∀ c ∈ s, c.isDigit = true) :
    digits? 10 s = some (s.map fun c => c.toNat - '0'.toNat) := by
  induction s with
  | nil => exact absurd rfl hne
  | cons c s ih =>
    obtain ⟨hc, hs⟩ := List.forall_mem_cons.1 h
    cases s with
    | nil => simp [digits?, digitValue?_of_isDigit hc]
    | cons d s =>
      have hd : d ≠ '_' := by
        rintro rfl
        exact absurd (hs '_' List.mem_cons_self) (by decide)
      rw [digits?_cons (digitValue?_of_isDigit hc) hd, ih (List.cons_ne_nil d s) hs]
      rfl

theorem ofDigits_map (s : List Char) : ofDigits 10 (s.map fun c => c.toNat - '0'.toNat) = Nat.ofDigitChars 10 s 0 := by
  rw [ofDigits, List.foldl_map, Nat.ofDigitChars_eq_foldl]
  simp only [Nat.mul_comm]

theorem readNatural?_toDigits (n : Nat) :
    readNatural? (Nat.toDigits 10 n) = if (Nat.toDigits 10 n).length ≤ maxDecimalDigits then some n else none := by
  rw [readNatural?, digits?_of_isDigit Nat.toDigits_ne_nil fun _ => Nat.isDigit_of_mem_toDigits (by decide) (by decide)]
  simp only [Option.filter_some, List.length_map, decide_eq_true_eq]
  split
  · rw [Option.map_some, ofDigits_map, Nat.ofDigitChars_ten_toDigits]
  · rfl

/-- No spelling has a leading zero, but that of zero itself. -/
theorem toDigits_ne_zero_cons (n : Nat) (c : Char) (s : List Char) : Nat.toDigits 10 n ≠ '0' :: c :: s := by
  induction n using Nat.strongRecOn generalizing c s with
  | ind n ih =>
    rcases Nat.lt_or_ge n 10 with hlt | hge
    · rw [Nat.toDigits_of_lt_base hlt]
      simp
    · rw [Nat.toDigits_of_base_le (by decide) hge]
      intro h
      match hstart : Nat.toDigits 10 (n / 10), ih (n / 10) (by omega) with
      | [], _ => exact Nat.toDigits_ne_nil hstart
      | [d], _ =>
        -- The digits before the last are those of a number that is not zero.
        have hvalue : Nat.ofDigitChars 10 [d] 0 = n / 10 := by rw [← hstart, Nat.ofDigitChars_ten_toDigits]
        rw [hstart] at h
        obtain ⟨rfl, -⟩ := List.cons.inj h
        have hzero : n / 10 = 0 := hvalue.symm
        omega
      | d :: e :: t, hne =>
        rw [hstart] at h
        obtain ⟨rfl, -⟩ := List.cons.inj h
        exact hne e t rfl

/-! ### Characters of spellings -/

/-- The character is a digit or the minus sign. -/
def IsNumeric (c : Char) : Prop := c.isDigit = true ∨ c = '-'

/-- The characters of a spelling: those of the magnitude, and a minus sign before them if the number is negative. -/
theorem toList_toString (n : Int) :
    (toString n).toList = if n < 0 then '-' :: Nat.toDigits 10 n.natAbs else Nat.toDigits 10 n.natAbs := by
  rw [Int.toString_eq_repr]
  cases n with
  | ofNat m => exact Nat.toList_repr
  | negSucc m =>
    rw [if_pos (Int.negSucc_lt_zero m)]
    exact (String.toList_append ..).trans (congrArg _ Nat.toList_repr)

theorem toList_toString_ne_nil (n : Int) : (toString n).toList ≠ [] := by
  rw [toList_toString]
  split
  · exact List.cons_ne_nil _ _
  · exact Nat.toDigits_ne_nil

theorem isNumeric_of_mem_toString {n : Int} {c : Char} (hc : c ∈ (toString n).toList) : IsNumeric c := by
  have hnumeric (h : c ∈ Nat.toDigits 10 n.natAbs) : IsNumeric c :=
    .inl (Nat.isDigit_of_mem_toDigits (by decide) (by decide) h)
  rw [toList_toString] at hc
  split at hc
  · rcases List.mem_cons.1 hc with rfl | hc
    · exact .inr rfl
    · exact hnumeric hc
  · exact hnumeric hc

namespace IsNumeric

variable {c : Char} (h : IsNumeric c)

include h

theorem toNat : c.toNat = 45 ∨ (48 ≤ c.toNat ∧ c.toNat ≤ 57) := by
  rcases h with h | rfl
  · rw [Char.isDigit, Bool.and_eq_true, decide_eq_true_eq, decide_eq_true_eq] at h
    exact .inr h
  · exact .inl rfl

theorem isBlank : isBlank c = false := by
  have := h.toNat
  simp only [Text.isBlank, Bool.or_eq_false_iff, Bool.and_eq_false_iff, decide_eq_false_iff_not, beq_eq_false_iff_ne]
  omega

theorem isMargin : isMargin c = false := by
  have := h.toNat
  have hspace : c ≠ ' ' := by
    rintro rfl
    exact absurd this (by decide)
  simp only [Text.isMargin, Bool.or_eq_false_iff, Bool.and_eq_false_iff, decide_eq_false_iff_not, beq_eq_false_iff_ne]
  exact ⟨hspace, by omega⟩

theorem asciiForm : asciiForm c = c := by
  have := h.toNat
  rw [Text.asciiForm, if_pos (by omega)]

theorem isSuffixLetter : Cpp.isSuffixLetter c = false := by
  have := h.toNat
  simp only [Cpp.isSuffixLetter, Bool.or_eq_false_iff, beq_eq_false_iff_ne]
  refine ⟨⟨⟨?_, ?_⟩, ?_⟩, ?_⟩ <;> rintro rfl <;> exact absurd this (by decide)

end IsNumeric

/-- Nothing is dropped at either end of a text without characters that are dropped. -/
theorem dropWhile_of_forall {p : Char → Bool} {s : List Char} (h : ∀ c ∈ s, p c = false) : s.dropWhile p = s := by
  cases s with
  | nil => rfl
  | cons c s => rw [List.dropWhile_cons_of_neg (by simp [h c List.mem_cons_self])]

theorem dropEnd_of_forall {p : Char → Bool} {s : List Char} (h : ∀ c ∈ s, p c = false) :
    (s.reverse.dropWhile p).reverse = s := by
  rw [dropWhile_of_forall (by simpa using h), List.reverse_reverse]

section

variable {s : List Char} (h : ∀ c ∈ s, IsNumeric c)

include h

theorem trimChars_of_isNumeric : trimChars s = s := by
  have hblank : ∀ c ∈ s, isBlank c = false := fun c hc => (h c hc).isBlank
  rw [trimChars, trimStartChars, dropWhile_of_forall hblank, trimEndChars, dropEnd_of_forall hblank]

theorem dropSuffix_of_isNumeric : Cpp.dropSuffix s = s := dropEnd_of_forall fun c hc => (h c hc).isSuffixLetter

theorem numeralChars_of_isNumeric : numeralChars s = s := by
  have hmargin : ∀ c ∈ s, isMargin c = false := fun c hc => (h c hc).isMargin
  have hascii : s.map asciiForm = s := (List.map_congr_left fun c hc => (h c hc).asciiForm).trans (List.map_id s)
  rw [numeralChars, hascii, dropWhile_of_forall hmargin, dropEnd_of_forall hmargin]

end

theorem cutSign_toString (n : Int) : cutSign (toString n).toList = (decide (n < 0), Nat.toDigits 10 n.natAbs) := by
  rw [toList_toString]
  split
  · next hneg => simp [cutSign, hneg]
  · next hneg =>
    have hdigits : ∀ c ∈ Nat.toDigits 10 n.natAbs, c.isDigit = true :=
      fun c => Nat.isDigit_of_mem_toDigits (by decide) (by decide)
    rw [decide_eq_false hneg]
    unfold cutSign
    split
    · next heq => exact absurd (hdigits '-' (heq ▸ List.mem_cons_self)) (by decide)
    · next heq => exact absurd (hdigits '+' (heq ▸ List.mem_cons_self)) (by decide)
    · rfl

theorem withSign_natAbs (n : Int) : withSign (decide (n < 0)) n.natAbs = n := by
  unfold withSign
  split
  · next hneg =>
    have hneg' := of_decide_eq_true hneg
    omega
  · next hneg =>
    have hneg' : ¬ n < 0 := fun h => hneg (decide_eq_true h)
    omega

end ScriptGlue.Text

namespace ScriptGlue.Cpp

open ScriptGlue.Text

theorem readOctal?_toDigits (n : Nat) : readOctal? (Nat.toDigits 10 n) = none := by
  unfold readOctal?
  split
  · next heq => exact absurd heq (toDigits_ne_zero_cons n _ _)
  · rfl

theorem readMagnitude?_toDigits (n : Nat) : readMagnitude? (Nat.toDigits 10 n) = readNatural? (Nat.toDigits 10 n) := by
  unfold readMagnitude?
  split
  · next heq => exact absurd heq (toDigits_ne_zero_cons n _ _)
  · rfl

/-- **What is spelled is read back.** The decimal spelling of a number stands for that number, up to the greatest length. -/
theorem readLiteral?_toString (n : Int) :
    readLiteral? (toString n) = if (Nat.toDigits 10 n.natAbs).length ≤ maxDecimalDigits then some n else none := by
  have hnumeric : ∀ c ∈ (toString n).toList, IsNumeric c := fun c => isNumeric_of_mem_toString
  simp only [readLiteral?, trimChars_of_isNumeric hnumeric, dropSuffix_of_isNumeric hnumeric,
    numeralChars_of_isNumeric hnumeric, cutSign_toString, readOctal?_toDigits, readMagnitude?_toDigits,
    readNatural?_toDigits]
  split
  · rw [Option.map_some, withSign_natAbs]
  · rfl

end ScriptGlue.Cpp
