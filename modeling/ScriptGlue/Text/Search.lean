/-!
# Searching

Beginnings, ends and occurrences of one text in another, and cutting at an occurrence.
-/

namespace ScriptGlue.Text

/-! ### Characters -/

/-- What stands before and after the first occurrence of `p`. -/
def cutFirst (p : List Char) : List Char → Option (List Char × List Char)
  | [] => if p.isEmpty then some ([], []) else none
  | c :: s =>
    if p.isPrefixOf (c :: s) then some ([], (c :: s).drop p.length)
    else (cutFirst p s).map fun (before, after) => (c :: before, after)

/-- What stands before and after the last occurrence of `p`. -/
def cutLast (p : List Char) : List Char → Option (List Char × List Char)
  | [] => if p.isEmpty then some ([], []) else none
  | c :: s =>
    match cutLast p s with
    | some (before, after) => some (c :: before, after)
    | none => if p.isPrefixOf (c :: s) then some ([], (c :: s).drop p.length) else none

/-- The pieces between the occurrences of a separating character. -/
def splitAtChar (sep : Char) : List Char → List (List Char)
  | [] => [[]]
  | c :: s =>
    if c == sep then [] :: splitAtChar sep s
    else
      match splitAtChar sep s with
      | piece :: later => (c :: piece) :: later
      | [] => [[c]]

theorem cutFirst_length {p s before after : List Char} (h : cutFirst p s = some (before, after)) :
    before.length + p.length + after.length = s.length := by
  induction s generalizing before after with
  | nil =>
    simp only [cutFirst] at h
    split at h <;> simp_all
  | cons c s ih =>
    simp only [cutFirst] at h
    split at h
    · next hp =>
      have := (List.isPrefixOf_iff_prefix.1 hp).length_le
      simp only [Option.some.injEq, Prod.mk.injEq] at h
      obtain ⟨rfl, rfl⟩ := h
      simp only [List.length_nil, List.length_drop]
      omega
    · simp only [Option.map_eq_some_iff, Prod.exists, Prod.mk.injEq] at h
      obtain ⟨b, a, hc, rfl, rfl⟩ := h
      have := ih hc
      simp only [List.length_cons]
      omega

/-- A cut goes on behind a character that is not cut at. -/
theorem cutFirst_cons {c d : Char} (h : c ≠ d) (s : List Char) :
    cutFirst [c] (d :: s) = (cutFirst [c] s).map fun p => (d :: p.1, p.2) := by
  rw [cutFirst, if_neg (by simpa using h)]

theorem cutFirst_append {c : Char} {s : List Char} (h : c ∉ s) (t : List Char) : cutFirst [c] (s ++ c :: t) = some (s, t) := by
  induction s with
  | nil => simp [cutFirst]
  | cons d s ih =>
    obtain ⟨hd, hs⟩ := List.ne_and_not_mem_of_not_mem_cons h
    rw [List.cons_append, cutFirst_cons hd, ih hs]
    rfl

theorem cutLast_eq_none_of_length {p s : List Char} (h : s.length < p.length) : cutLast p s = none := by
  have hne : p.isEmpty = false := by
    cases p with
    | nil => simp at h
    | cons => rfl
  induction s with
  | nil => rw [cutLast, hne, if_neg Bool.false_ne_true]
  | cons c s ih =>
    have hstart : ¬ p.isPrefixOf (c :: s) = true := by
      intro hp
      have := (List.isPrefixOf_iff_prefix.1 hp).length_le
      omega
    rw [List.length_cons] at h
    rw [cutLast, ih (by omega)]
    exact if_neg hstart

/-- What ends a text is cut off its end. -/
theorem cutLast_concat {p : List Char} (hne : p ≠ []) (s : List Char) : cutLast p (s ++ p) = some (s, []) := by
  induction s with
  | nil =>
    cases p with
    | nil => exact absurd rfl hne
    | cons c p =>
      rw [List.nil_append, cutLast, cutLast_eq_none_of_length (Nat.lt_succ_self _)]
      simp
  | cons c s ih => rw [List.cons_append, cutLast, ih]

theorem splitAtChar_of_not_mem {sep : Char} {s : List Char} (h : sep ∉ s) : splitAtChar sep s = [s] := by
  induction s with
  | nil => rfl
  | cons c s ih =>
    rw [List.mem_cons, not_or] at h
    simp [splitAtChar, Ne.symm h.1, ih h.2]

theorem not_mem_of_mem_splitAtChar {sep : Char} {s piece : List Char} (h : piece ∈ splitAtChar sep s) : sep ∉ piece := by
  induction s generalizing piece with
  | nil =>
    rw [splitAtChar, List.mem_singleton] at h
    rw [h]
    exact List.not_mem_nil
  | cons c s ih =>
    rw [splitAtChar] at h
    by_cases hc : c = sep
    · rw [if_pos (beq_iff_eq.2 hc)] at h
      rcases List.mem_cons.1 h with rfl | h
      · exact List.not_mem_nil
      · exact ih h
    · rw [if_neg (mt beq_iff_eq.1 hc)] at h
      cases hpieces : splitAtChar sep s with
      | nil =>
        rw [hpieces, List.mem_singleton] at h
        simp [h, Ne.symm hc]
      | cons first later =>
        rw [hpieces] at h ih
        rcases List.mem_cons.1 h with rfl | h
        · have := ih List.mem_cons_self
          simp [Ne.symm hc, this]
        · exact ih (List.mem_cons_of_mem _ h)

theorem splitAtChar_append {sep : Char} {piece : List Char} (h : sep ∉ piece) (s : List Char) :
    splitAtChar sep (piece ++ sep :: s) = piece :: splitAtChar sep s := by
  induction piece with
  | nil => simp [splitAtChar]
  | cons c piece ih =>
    rw [List.mem_cons, not_or] at h
    simp [splitAtChar, Ne.symm h.1, ih h.2]

/-- Pieces that are joined by a character come apart at it. -/
theorem splitAtChar_intercalate {sep : Char} {pieces : List (List Char)} (hne : pieces ≠ [])
    (h : ∀ piece ∈ pieces, sep ∉ piece) : splitAtChar sep ([sep].intercalate pieces) = pieces := by
  induction pieces with
  | nil => exact absurd rfl hne
  | cons first later ih =>
    have hfirst := h first List.mem_cons_self
    cases later with
    | nil => simpa using splitAtChar_of_not_mem hfirst
    | cons second later =>
      rw [List.intercalate_cons_cons, List.append_assoc, List.singleton_append, splitAtChar_append hfirst,
        ih (List.cons_ne_nil _ _) fun piece hpiece => h piece (List.mem_cons_of_mem _ hpiece)]

theorem splitAtChar_ne_nil (sep : Char) (s : List Char) : splitAtChar sep s ≠ [] := by
  cases s with
  | nil => exact List.cons_ne_nil _ _
  | cons c s =>
    rw [splitAtChar]
    split
    · exact List.cons_ne_nil _ _
    · split <;> exact List.cons_ne_nil _ _

/-! ### Texts -/

/-- The text begins with `p`. -/
def startsWith (s p : String) : Bool := p.toList.isPrefixOf s.toList

/-- The text ends with `p`. -/
def endsWith (s p : String) : Bool := p.toList.isSuffixOf s.toList

/-- `p` occurs in the text. -/
def occursIn (p s : String) : Bool := (cutFirst p.toList s.toList).isSome

/-- The text after its first `n` characters. -/
def dropStart (s : String) (n : Nat) : String := String.ofList (s.toList.drop n)

/-- The text before its last `n` characters. -/
def dropEnd (s : String) (n : Nat) : String := String.ofList (s.toList.take (s.length - n))

end ScriptGlue.Text
