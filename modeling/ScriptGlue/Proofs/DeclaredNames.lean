import ScriptGlue.Cpp.Qualified
import ScriptGlue.Proofs.DenotedNames

/-!
# Names in declarations

The spelling of a type in a declaration has the names of the type without their qualifications, but with those that the
configuration lists. Both changes are made to the qualified names of a text one by one (`IsNamewise`), and what stands
between them stays. What becomes of a single name is said by **`IsQualified.dropQualifications_chars`** and, for the
built-in tables, **`requalify_word`**.
-/

namespace ScriptGlue.Cpp

open ScriptGlue.Text

/-! ### Changes to single names -/

/-- A character that may stand in a qualified name. -/
def isNamePart (c : Char) : Bool := isWordChar c || c == ':'

/-- No qualified name goes on from one text into the other. -/
def Parted (s t : List Char) : Prop :=
  (∀ c ∈ s.getLast?, isNamePart c = false) ∨ ∀ c ∈ t.head?, isNamePart c = false

theorem Parted.of_append {a s t : List Char} (h : Parted (a ++ s) t) : Parted s t := by
  cases s with
  | nil => exact .inl nofun
  | cons c s => rwa [Parted, List.getLast?_append_of_ne_nil a (List.cons_ne_nil c s)] at h

/-- A text that ends in a name is followed by a gap. -/
theorem Parted.head?_of_getLast? {s t : List Char} {c : Char} (h : Parted s t) (hlast : s.getLast? = some c)
    (hc : isNamePart c = true) : ∀ d ∈ t.head?, isNamePart d = false := by
  refine h.resolve_left fun hs => ?_
  rw [hs c hlast] at hc
  cases hc

/-- The change is made to the qualified names of a text, one by one. -/
structure IsNamewise (f : List Char → List Char) : Prop where
  append {s t : List Char} : Parted s t → f (s ++ t) = f s ++ f t
  gap {c : Char} : isNamePart c = false → f [c] = [c]

namespace IsNamewise

variable {f : List Char → List Char} (hf : IsNamewise f)

include hf

theorem nil : f [] = [] := by
  have h := hf.append (s := []) (t := []) (.inl nofun)
  simpa using h

theorem gaps {u : List Char} (hu : ∀ c ∈ u, isNamePart c = false) : f u = u := by
  induction u with
  | nil => exact hf.nil
  | cons c u ih =>
    obtain ⟨hc, hu⟩ := List.forall_mem_cons.1 hu
    have hparted : Parted [c] u := .inr fun d hd => hu d (List.mem_of_mem_head? hd)
    rw [← List.singleton_append, hf.append hparted, hf.gap hc, ih hu]

theorem gaps_append {u : List Char} (hu : ∀ c ∈ u, isNamePart c = false) (s : List Char) : f (u ++ s) = u ++ f s := by
  rw [hf.append (.inl fun c hc => hu c (List.mem_of_getLast? hc)), hf.gaps hu]

theorem append_gaps {u : List Char} (hu : ∀ c ∈ u, isNamePart c = false) (s : List Char) : f (s ++ u) = f s ++ u := by
  rw [hf.append (.inr fun c hc => hu c (List.mem_of_mem_head? hc)), hf.gaps hu]

end IsNamewise

/-! ### Dropping qualifications -/

/-- A run of characters at the start of a text ends where it does if what follows does not go on with it. -/
theorem takeWhile_append_of_head? {p : Char → Bool} {s t : List Char}
    (h : s.dropWhile p = [] → ∀ c ∈ t.head?, p c = false) :
    (s ++ t).takeWhile p = s.takeWhile p ∧ (s ++ t).dropWhile p = s.dropWhile p ++ t := by
  induction s with
  | nil =>
    cases t with
    | nil => exact ⟨rfl, rfl⟩
    | cons c t =>
      have hc := h rfl c rfl
      simp [hc]
  | cons c s ih =>
    cases hc : p c with
    | false => simp [hc]
    | true =>
      have ih := ih (by simpa [hc] using h)
      simp [hc, ih]

theorem isNamePart_of_isWordChar {c : Char} (h : isWordChar c = true) : isNamePart c = true := by
  rw [isNamePart, h, Bool.true_or]

/-- A name that reaches to the end of a text is followed by a gap. -/
theorem Parted.head?_of_dropWhile {c : Char} {s t : List Char} (h : Parted (c :: s) t) (hc : isNamePart c = true)
    (hall : s.dropWhile isWordChar = []) : ∀ d ∈ t.head?, isNamePart d = false := by
  have hmem := List.getLast_mem (List.cons_ne_nil c s)
  refine h.head?_of_getLast? (List.getLast?_eq_some_getLast (List.cons_ne_nil c s)) ?_
  rcases List.mem_cons.1 hmem with hlast | hlast
  · rwa [hlast]
  · exact isNamePart_of_isWordChar (List.dropWhile_eq_nil_iff.1 hall _ hlast)

theorem Parted.takeWhile_append {c : Char} {s t : List Char} (h : Parted (c :: s) t) (hc : isNamePart c = true) :
    (s ++ t).takeWhile isWordChar = s.takeWhile isWordChar ∧
      (s ++ t).dropWhile isWordChar = s.dropWhile isWordChar ++ t := by
  refine takeWhile_append_of_head? fun hall d hd => ?_
  have hgap := h.head?_of_dropWhile hc hall d hd
  rw [isNamePart, Bool.or_eq_false_iff] at hgap
  exact hgap.1

/-- What follows a word is parted as the word is. -/
theorem Parted.dropWhile {c : Char} {s t : List Char} (h : Parted (c :: s) t) : Parted (s.dropWhile isWordChar) t := by
  rw [← List.takeWhile_append_dropWhile (p := isWordChar) (l := s), ← List.cons_append] at h
  exact h.of_append

theorem takeChain_nil : takeChain [] = ([], []) := by
  refine takeChain.eq_2 [] fun rest h => ?_
  cases h

theorem takeChain_colons (rest : List Char) :
    takeChain (':' :: ':' :: rest) =
      if (rest.takeWhile isWordChar).isEmpty then ([], ':' :: ':' :: rest)
      else
        (rest.takeWhile isWordChar :: (takeChain (rest.dropWhile isWordChar)).1,
          (takeChain (rest.dropWhile isWordChar)).2) := by
  rw [takeChain]

theorem suffix_takeChain (s : List Char) : (takeChain s).2 <:+ s := by
  fun_induction takeChain s with
  | case1 => exact List.suffix_refl _
  | case2 rest word hne hle words after heq ih =>
    rw [heq] at ih
    exact (ih.trans (List.dropWhile_suffix _)).trans ((List.suffix_cons _ _).trans (List.suffix_cons _ _))
  | case3 => exact List.suffix_refl _

/-- The words that are joined to a name end where they do if the text is parted from what follows. -/
theorem takeChain_append {s t : List Char} (h : Parted s t) (hnil : s = [] → ∀ c ∈ t.head?, isNamePart c = false) :
    takeChain (s ++ t) = ((takeChain s).1, (takeChain s).2 ++ t) := by
  have hcolon : isNamePart ':' = true := by decide
  fun_induction takeChain s with
  | case1 rest word hempty =>
    have h : Parted (':' :: rest) t := h.of_append (a := [':'])
    rw [List.cons_append, List.cons_append, takeChain_colons, (h.takeWhile_append hcolon).1, if_pos hempty]
  | case2 rest word hne hle words after heq ih =>
    have h : Parted (':' :: rest) t := h.of_append (a := [':'])
    have ih := ih h.dropWhile (h.head?_of_dropWhile hcolon)
    rw [List.cons_append, List.cons_append, takeChain_colons, (h.takeWhile_append hcolon).1,
      (h.takeWhile_append hcolon).2, if_neg hne, ih, heq]
  | case3 s hno =>
    refine takeChain.eq_2 _ fun rest hrest => ?_
    match s with
    | [] => exact absurd hcolon (by simp [hnil rfl ':' (by rw [List.nil_append] at hrest; rw [hrest]; rfl)])
    | [c] =>
      obtain ⟨rfl, rfl⟩ : c = ':' ∧ t = ':' :: rest := by simpa using hrest
      exact absurd hcolon (by simp [h.head?_of_getLast? rfl hcolon ':' rfl])
    | c :: d :: s =>
      obtain ⟨rfl, rfl, -⟩ : c = ':' ∧ d = ':' ∧ s ++ t = rest := by simpa using hrest
      exact hno s rfl

theorem dropQualifications_word {c : Char} (hc : isWordChar c = true) (rest : List Char) :
    dropQualifications (c :: rest) =
      unqualified ((c :: rest.takeWhile isWordChar) :: (takeChain (rest.dropWhile isWordChar)).1) ++
        dropQualifications (takeChain (rest.dropWhile isWordChar)).2 := by
  rw [dropQualifications, if_pos hc]

theorem dropQualifications_gap {c : Char} (hc : ¬ isWordChar c = true) (rest : List Char) :
    dropQualifications (c :: rest) = c :: dropQualifications rest := by
  rw [dropQualifications, if_neg hc]

/-- Qualifications are dropped from the names of a text one by one. -/
theorem isNamewise_dropQualifications : IsNamewise dropQualifications where
  append {s t} h := by
    fun_induction dropQualifications s with
    | case1 => rfl
    | case2 c rest hc word chain hle hle' ih =>
      have hpart := isNamePart_of_isWordChar hc
      obtain ⟨init, hinit⟩ := suffix_takeChain (rest.dropWhile isWordChar)
      have hchain : Parted chain.2 t := by
        have hdrop := h.dropWhile
        rw [← hinit] at hdrop
        exact hdrop.of_append
      rw [List.cons_append, dropQualifications_word hc, (h.takeWhile_append hpart).1, (h.takeWhile_append hpart).2,
        takeChain_append h.dropWhile (h.head?_of_dropWhile hpart), ih hchain, List.append_assoc]
    | case3 c rest hc ih =>
      rw [List.cons_append, dropQualifications_gap hc, ih (h.of_append (a := [c])), List.cons_append]
  gap {c} hc := by
    rw [isNamePart, Bool.or_eq_false_iff] at hc
    rw [dropQualifications_gap (by simp [hc.1]), dropQualifications]

/-! ### Putting qualifications in -/

/-- The name stands at the start of a text, with no part of a name around it. -/
structure Stands (name : List Char) (before : Option Char) (s : List Char) : Prop where
  opened : ∀ c ∈ before, isNamePart c = false
  isPrefix : name <+: s
  closed : ∀ c ∈ (s.drop name.length).head?, isWordChar c = false

-- these instances run over the option and not over all characters
instance (name : List Char) (before : Option Char) (s : List Char) : Decidable (Stands name before s) :=
  let _ : Decidable (∀ c ∈ before, isNamePart c = false) := Option.decidableForallMem before
  let _ : Decidable (∀ c ∈ (s.drop name.length).head?, isWordChar c = false) := Option.decidableForallMem _
  decidable_of_iff ((∀ c ∈ before, isNamePart c = false) ∧ name <+: s ∧
      ∀ c ∈ (s.drop name.length).head?, isWordChar c = false)
    ⟨fun ⟨hopened, hbegins, hclosed⟩ => ⟨hopened, hbegins, hclosed⟩, fun h => ⟨h.opened, h.isPrefix, h.closed⟩⟩

section Replacing

variable {name : List Char} (hne : name ≠ []) (hname : ∀ c ∈ name, isWordChar c = true) (replacement : List Char)

/-- The text with the replacement for the name, behind a character. -/
def qualifiedAfter (name replacement : List Char) (before : Option Char) (s : List Char) : List Char :=
  replaceName (fun before => !before.any isNamePart) name replacement before s

theorem qualifyName_eq (name replacement s : List Char) :
    qualifyName name replacement s = qualifiedAfter name replacement none s := rfl

include hne

theorem qualifiedAfter_nil (before : Option Char) : qualifiedAfter name replacement before [] = [] := by
  obtain ⟨n, others, rfl⟩ := List.exists_cons_of_ne_nil hne
  rw [qualifiedAfter, replaceName]
  simp

include hname

theorem qualifiedAfter_cons (before : Option Char) (c : Char) (rest : List Char) :
    qualifiedAfter name replacement before (c :: rest) =
      if Stands name before (c :: rest) then
        replacement ++ qualifiedAfter name replacement name.getLast? ((c :: rest).drop name.length)
      else c :: qualifiedAfter name replacement (some c) rest := by
  have hlast : name.getLast?.any isWordChar = true := by
    rw [List.getLast?_eq_some_getLast hne]
    exact hname _ (List.getLast_mem hne)
  have hstands : Stands name before (c :: rest) ↔
      ((!before.any isNamePart) && name.isPrefixOf (c :: rest) &&
        isBoundary name.getLast? ((c :: rest).drop name.length).head?) = true := by
    rw [isBoundary, hlast, Bool.and_eq_true, Bool.and_eq_true, List.isPrefixOf_iff_prefix, Bool.not_eq_true']
    simp only [Bool.true_bne, Bool.not_eq_true', Option.any_eq_false]
    exact ⟨fun h => ⟨⟨h.opened, h.isPrefix⟩, h.closed⟩, fun ⟨⟨hopened, hbegins⟩, hclosed⟩ => ⟨hopened, hbegins, hclosed⟩⟩
  obtain ⟨n, others, rfl⟩ := List.exists_cons_of_ne_nil hne
  rw [qualifiedAfter, replaceName]
  simp only [List.isEmpty_cons, Bool.false_eq_true, if_false, ← hstands]
  rfl

omit hne in
theorem stands_append_iff {s t : List Char} (hs : s ≠ []) (h : Parted s t) (before : Option Char) :
    Stands name before (s ++ t) ↔ Stands name before s := by
  have hgap : ∀ {c}, isNamePart c = false → c ∉ name := by
    intro c hc hmem
    rw [isNamePart_of_isWordChar (hname c hmem)] at hc
    cases hc
  have hbegins : name <+: s ++ t ↔ name <+: s := by
    rcases h with h | h
    · obtain ⟨init, last, rfl⟩ := List.eq_nil_or_concat' s |>.resolve_left hs
      have hlast := hgap (h last (by simp))
      rw [List.append_assoc, List.singleton_append, prefix_append_cons_iff hlast, prefix_append_cons_iff hlast]
    · cases t with
      | nil => rw [List.append_nil]
      | cons d t => exact prefix_append_cons_iff (hgap (h d rfl))
  have hclosed (hstart : name <+: s) : (∀ c ∈ ((s ++ t).drop name.length).head?, isWordChar c = false) ↔
      ∀ c ∈ (s.drop name.length).head?, isWordChar c = false := by
    obtain ⟨u, rfl⟩ := hstart
    rw [List.append_assoc, List.drop_left, List.drop_left]
    cases u with
    | cons d u => rfl
    | nil =>
      rw [List.append_nil] at hs h
      have hhead := h.head?_of_getLast? (List.getLast?_eq_some_getLast hs)
        (isNamePart_of_isWordChar (hname _ (List.getLast_mem hs)))
      refine iff_of_true (fun c hc => ?_) nofun
      have hc := hhead c hc
      rw [isNamePart, Bool.or_eq_false_iff] at hc
      exact hc.1
  constructor
  · rintro ⟨hopened, hstart, hend⟩
    have hstart := hbegins.1 hstart
    exact ⟨hopened, hstart, (hclosed hstart).1 hend⟩
  · rintro ⟨hopened, hstart, hend⟩
    exact ⟨hopened, hbegins.2 hstart, (hclosed hstart).2 hend⟩

/-- Two texts can be taken one after the other if no name goes on from one into the other. -/
theorem qualifiedAfter_append {s t : List Char} {before : Option Char}
    (h : (∀ c ∈ s.getLast?.or before, isNamePart c = false) ∨ ∀ c ∈ t.head?, isNamePart c = false) :
    qualifiedAfter name replacement before (s ++ t) =
      qualifiedAfter name replacement before s ++ qualifiedAfter name replacement none t := by
  match s with
  | [] =>
    rw [List.nil_append, qualifiedAfter_nil hne, List.nil_append]
    cases t with
    | nil => rw [qualifiedAfter_nil hne, qualifiedAfter_nil hne]
    | cons d t =>
      have hstands : Stands name before (d :: t) ↔ Stands name none (d :: t) := by
        constructor
        · rintro ⟨-, hstart, hend⟩
          exact ⟨nofun, hstart, hend⟩
        · rintro ⟨-, hstart, hend⟩
          refine ⟨h.resolve_right fun hd => ?_, hstart, hend⟩
          obtain ⟨n, others, rfl⟩ := List.exists_cons_of_ne_nil hne
          have hhead := isNamePart_of_isWordChar (hname n List.mem_cons_self)
          rw [(List.cons_prefix_cons.1 hstart).1, hd d rfl] at hhead
          cases hhead
      rw [qualifiedAfter_cons hne hname, qualifiedAfter_cons hne hname]
      exact if_congr hstands rfl rfl
  | c :: rest =>
    have hparted : Parted (c :: rest) t := by
      rwa [List.getLast?_eq_some_getLast (List.cons_ne_nil c rest), Option.some_or,
        ← List.getLast?_eq_some_getLast (List.cons_ne_nil c rest)] at h
    have hstands := stands_append_iff hname (List.cons_ne_nil c rest) hparted before
    rw [List.cons_append, qualifiedAfter_cons hne hname, qualifiedAfter_cons hne hname, ← List.cons_append]
    by_cases hs : Stands name before (c :: rest)
    · obtain ⟨u, hu⟩ := hs.isPrefix
      have hshorter : u.length < (c :: rest).length := by
        rw [← hu, List.length_append]
        exact Nat.lt_add_of_pos_left (List.length_pos_of_ne_nil hne)
      rw [if_pos (hstands.2 hs), if_pos hs, ← hu, List.append_assoc, List.drop_left, List.drop_left,
        qualifiedAfter_append (s := u), List.append_assoc]
      rwa [← List.getLast?_append, hu]
    · rw [if_neg (mt hstands.1 hs), if_neg hs, List.cons_append, qualifiedAfter_append (s := rest)]
      rwa [← List.getLast?_singleton (a := c), ← List.getLast?_append]
termination_by s.length
decreasing_by
  · exact hshorter
  · exact Nat.lt_succ_self rest.length

/-- Behind a word no name stands in what goes on with it. -/
theorem qualifiedAfter_inside {c : Char} (hc : isNamePart c = true) {s : List Char} (hs : ∀ c ∈ s, isWordChar c = true) :
    qualifiedAfter name replacement (some c) s = s := by
  induction s generalizing c with
  | nil => exact qualifiedAfter_nil hne replacement _
  | cons d s ih =>
    obtain ⟨hd, hs⟩ := List.forall_mem_cons.1 hs
    have hnot : ¬ Stands name (some c) (d :: s) := fun h => by simpa [hc] using h.opened
    rw [qualifiedAfter_cons hne hname, if_neg hnot, ih (isNamePart_of_isWordChar hd) hs]

theorem qualifyName_word {w : List Char} (hw : ∀ c ∈ w, isWordChar c = true) :
    qualifyName name replacement w = if w = name then replacement else w := by
  rw [qualifyName_eq]
  cases w with
  | nil => rw [qualifiedAfter_nil hne, if_neg hne.symm]
  | cons c rest =>
    obtain ⟨hc, hrest⟩ := List.forall_mem_cons.1 hw
    have hstands : Stands name none (c :: rest) ↔ c :: rest = name := by
      constructor
      · rintro ⟨-, ⟨u, hu⟩, hclosed⟩
        rw [← hu, List.drop_left] at hclosed
        cases u with
        | nil => rw [← hu, List.append_nil]
        | cons d u =>
          have hd := hw d (by simp [← hu])
          rw [hclosed d rfl] at hd
          cases hd
      · intro heq
        rw [heq]
        exact ⟨nofun, List.prefix_refl name, by simp⟩
    rw [qualifiedAfter_cons hne hname, if_congr hstands rfl rfl]
    split
    · next heq => rw [heq, List.drop_length, qualifiedAfter_nil hne, List.append_nil]
    · rw [qualifiedAfter_inside hne hname replacement (isNamePart_of_isWordChar hc) hrest]

/-- A name is qualified wherever it stands by itself. -/
theorem isNamewise_qualifyName : IsNamewise (qualifyName name replacement) where
  append h := by
    rw [qualifyName_eq, qualifyName_eq, qualifyName_eq]
    exact qualifiedAfter_append hne hname replacement (by rwa [Option.or_none])
  gap {c} hc := by
    have hnot : ¬ Stands name none [c] := by
      intro h
      obtain ⟨n, others, rfl⟩ := List.exists_cons_of_ne_nil hne
      have hhead := isNamePart_of_isWordChar (hname n List.mem_cons_self)
      rw [(List.cons_prefix_cons.1 h.isPrefix).1, hc] at hhead
      cases hhead
    rw [qualifyName_eq, qualifiedAfter_cons hne hname, if_neg hnot, qualifiedAfter_nil hne]

end Replacing

/-! ### Single names -/

/-- The characters of names are those of words. -/
theorem isWordChar_of_isNameChar {c : Char} (h : isNameChar c = true) : isWordChar c = true := by
  have hall : ∀ n < 128, isNameChar (Char.ofNat n) = true → isWordChar (Char.ofNat n) = true := by decide +kernel
  have hrange := toNat_of_isNameChar h
  have hc := hall c.toNat (by omega)
  rw [Char.ofNat_toNat] at hc
  exact hc h

theorem IsWord.isWordChar {w : String} (h : IsWord w) : ∀ c ∈ w.toList, isWordChar c = true :=
  fun c hc => isWordChar_of_isNameChar (h.chars c hc)

theorem qualifiedChars_cons (first : String) (qualifiers : List String) (name : String) :
    qualifiedChars (first :: qualifiers) name = first.toList ++ ("::".toList ++ qualifiedChars qualifiers name) := by
  simp [qualifiedChars]

theorem intercalate_toList (qualifiers : List String) (name : String) :
    "::".toList.intercalate ((qualifiers ++ [name]).map String.toList) = qualifiedChars qualifiers name := by
  induction qualifiers with
  | nil => simp [qualifiedChars, List.intercalate]
  | cons first qualifiers ih =>
    obtain ⟨next, later, hrest⟩ := List.exists_cons_of_ne_nil (l := (qualifiers ++ [name]).map String.toList) (by simp)
    rw [qualifiedChars_cons, ← ih, List.cons_append, List.map_cons, hrest, List.intercalate_cons_cons, List.append_assoc]

/-- A word before the colons that join it to others. -/
theorem takeWhile_colons {w : String} (h : IsWord w) (s : List Char) :
    (w.toList ++ ("::".toList ++ s)).takeWhile isWordChar = w.toList ∧
      (w.toList ++ ("::".toList ++ s)).dropWhile isWordChar = "::".toList ++ s := by
  have hcolon : isWordChar ':' = false := by decide
  constructor
  · rw [List.takeWhile_append_of_pos h.isWordChar]
    simp [hcolon]
  · rw [List.dropWhile_append_of_pos h.isWordChar]
    simp [hcolon]

theorem takeChain_qualifiedChars {qualifiers : List String} {name : String} (h : ∀ w ∈ qualifiers ++ [name], IsWord w) :
    takeChain ("::".toList ++ qualifiedChars qualifiers name) = ((qualifiers ++ [name]).map String.toList, []) := by
  have hempty {w : String} (hw : IsWord w) : ¬ w.toList.isEmpty = true := by simpa using hw.ne_empty
  have hcolons (s : List Char) : "::".toList ++ s = ':' :: ':' :: s := rfl
  induction qualifiers with
  | nil =>
    have hname := h name (by simp)
    have hall : name.toList.takeWhile isWordChar = name.toList := List.takeWhile_eq_self_iff.2 hname.isWordChar
    have hnone : name.toList.dropWhile isWordChar = [] := List.dropWhile_eq_nil_iff.2 hname.isWordChar
    have hchars : qualifiedChars [] name = name.toList := rfl
    rw [hchars, hcolons, takeChain_colons, hall, hnone, if_neg (hempty hname), takeChain_nil]
    rfl
  | cons first qualifiers ih =>
    obtain ⟨hfirst, h⟩ := List.forall_mem_cons.1 h
    obtain ⟨htake, hdrop⟩ := takeWhile_colons hfirst (qualifiedChars qualifiers name)
    rw [qualifiedChars_cons, hcolons, takeChain_colons, htake, hdrop, if_neg (hempty hfirst), ih h]
    rfl

/-- A qualified name by itself is made unqualified. -/
theorem IsQualified.dropQualifications_chars {qualifiers : List String} {name : String} (h : IsQualified qualifiers name) :
    dropQualifications (qualifiedChars qualifiers name) = name.toList := by
  have hchars : qualifiedChars [] name = name.toList := rfl
  have hlast : unqualified ((qualifiers ++ [name]).map String.toList) = name.toList := by
    rw [unqualified, intercalate_toList]
    split
    · next hscoped =>
      have hbegins : "AttributeChange".toList <+: qualifiedChars qualifiers name := by
        simpa [scopedNames, startsWith, List.isPrefixOf_iff_prefix] using hscoped
      rw [of_not_not fun hne => h.notScoped hne hbegins, hchars]
    · rw [List.map_append, List.map_singleton, List.getLastD_concat]
  have hdrop {w : String} (hw : IsWord w) {s t : List Char} (htake : s.takeWhile isWordChar = w.toList)
      (hrest : s.dropWhile isWordChar = t) :
      dropQualifications s = unqualified (w.toList :: (takeChain t).1) ++ dropQualifications (takeChain t).2 := by
    obtain ⟨c, word, hword⟩ := List.exists_cons_of_ne_nil (l := w.toList) (by simpa using hw.ne_empty)
    cases s with
    | nil => cases htake.trans hword
    | cons d rest =>
      have hd : isWordChar d = true := by
        by_contra hd
        rw [List.takeWhile_cons_of_neg hd, hword] at htake
        cases htake
      rw [List.takeWhile_cons_of_pos hd] at htake
      rw [List.dropWhile_cons_of_pos hd] at hrest
      rw [dropQualifications_word hd, htake, hrest]
  cases qualifiers with
  | nil =>
    have hname := h.isWord_name
    rw [hchars, hdrop hname (List.takeWhile_eq_self_iff.2 hname.isWordChar) (List.dropWhile_eq_nil_iff.2 hname.isWordChar),
      takeChain_nil, dropQualifications, List.append_nil]
    exact hlast
  | cons first qualifiers =>
    obtain ⟨hfirst, hrest⟩ := List.forall_mem_cons.1 h.words
    obtain ⟨htake, hcut⟩ := takeWhile_colons hfirst (qualifiedChars qualifiers name)
    rw [qualifiedChars_cons, hdrop hfirst htake hcut, takeChain_qualifiedChars hrest, dropQualifications, List.append_nil]
    exact hlast

/-- The text with the qualifications that the built-in tables put in. -/
def requalify (s : List Char) : List Char :=
  Config.default.returnTypeQualifications.toList.foldl
    (fun s (name, qualified) => qualifyName name.toList qualified.toList s) s

/-- The class that the built-in tables put before a name. -/
def ownersOf (name : String) : List String :=
  if name = "EntityMap" then ["Scene"] else if name ∈ ["ComponentVector", "ComponentMap"] then ["Entity"] else []

theorem requalify_word {name : String} (h : IsWord name) : requalify name.toList = qualifiedChars (ownersOf name) name := by
  have hother {w : String} (hw : IsWord w) (hne : name ≠ w) (r : List Char) :
      qualifyName w.toList r name.toList = name.toList := by
    rw [qualifyName_word (by simpa using hw.ne_empty) hw.isWordChar r h.isWordChar, if_neg (mt String.toList_inj.1 hne)]
  by_cases hentity : name = "EntityMap"
  · subst hentity
    decide +kernel
  · by_cases hvector : name = "ComponentVector"
    · subst hvector
      decide +kernel
    · by_cases hmap : name = "ComponentMap"
      · subst hmap
        decide +kernel
      · have howners : ownersOf name = [] := by simp [ownersOf, hentity, hvector, hmap]
        rw [howners, requalify, Config.default]
        simp only [List.foldl_cons, List.foldl_nil]
        rw [hother (by decide) hentity, hother (by decide) hvector, hother (by decide) hmap]
        rfl

theorem foldlM_ok {α β ε : Type} {f : β → α → Except ε β} {g : β → α → β} {l : List α}
    (h : ∀ a ∈ l, ∀ b, f b a = .ok (g b a)) (b : β) : l.foldlM f b = .ok (l.foldl g b) := by
  induction l generalizing b with
  | nil => rfl
  | cons a l ih =>
    obtain ⟨ha, hl⟩ := List.forall_mem_cons.1 h
    rw [List.foldlM_cons, ha b]
    exact ih hl (g b a)

theorem Vocabulary.declaration_eq {v : Vocabulary}
    (hconfig : v.config.returnTypeQualifications = Config.default.returnTypeQualifications) (text : String) :
    v.declaration text = .ok (
      let spelled := requalify (dropQualifications (collapseChars text.toList))
      if spelled == "vec".toList then "float3" else String.ofList spelled) := by
  have hplain : ∀ p ∈ Config.default.returnTypeQualifications.toList, replacementOf p.1.toList p.2 = .ok p.2.toList := by
    decide +kernel
  have hsteps : ∀ p ∈ Config.default.returnTypeQualifications.toList, ∀ s : List Char,
      ((replacementOf p.1.toList p.2).map fun replacement => qualifyName p.1.toList replacement s) =
        .ok (qualifyName p.1.toList p.2.toList s) := fun p hp s => by rw [hplain p hp]; rfl
  rw [Vocabulary.declaration, hconfig]
  exact congrArg (· >>= fun spelled => pure (if spelled == "vec".toList then "float3" else String.ofList spelled))
    (foldlM_ok hsteps _)

end ScriptGlue.Cpp
