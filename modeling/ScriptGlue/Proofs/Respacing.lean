import Mathlib.Data.List.Forall2
import ScriptGlue.Binding.Accessor
import ScriptGlue.Binding.Context

/-!
# Respaced texts

Two texts with the same words in the same places, whatever blanks stand between the words and after them
(`Respaced`). Cutting and splitting at characters that are no blanks keeps to this relation, so the arguments
of a template are the same before and after blanks are collapsed (**`templateArguments_collapse`**). A signal
is read in both forms: its dependencies are collected from one, its wrapper is emitted from the other.
-/

namespace ScriptGlue.Text

/-! ### Occurrences -/

/-- A word without the separator does not reach over it. -/
theorem prefix_append_cons_iff {w : List Char} {c : Char} (hc : c ∉ w) {s t : List Char} : w <+: s ++ c :: t ↔ w <+: s := by
  refine ⟨fun h => ?_, fun h => h.trans (List.prefix_append _ _)⟩
  rcases List.prefix_or_prefix_of_prefix h (List.prefix_append s (c :: t)) with h' | ⟨r, rfl⟩
  · exact h'
  · rw [List.prefix_append_right_inj] at h
    cases r with
    | nil => exact ⟨[], by simp⟩
    | cons d r =>
      rw [List.cons_prefix_cons] at h
      exact absurd (by simp [h.1]) hc

/-- A word without the separator stands before it or behind it. -/
theorem infix_append_cons_iff {w : List Char} {c : Char} (hc : c ∉ w) (hne : w ≠ []) {s t : List Char} :
    w <:+: s ++ c :: t ↔ w <:+: s ∨ w <:+: t := by
  induction s with
  | nil =>
    have hstart : ¬ w <+: c :: t := by rwa [← List.nil_append (c :: t), prefix_append_cons_iff hc, List.prefix_nil]
    rw [List.nil_append, List.infix_cons_iff, or_iff_right hstart, List.infix_nil, or_iff_right hne]
  | cons d s ih =>
    rw [List.cons_append, List.infix_cons_iff, List.infix_cons_iff, ← List.cons_append, prefix_append_cons_iff hc, or_assoc]
    exact or_congr_right ih

/-- A word without the separator stands in one of the texts that it joins. -/
theorem infix_intercalate_iff {w : List Char} {sep : Char} (hsep : sep ∉ w) (hne : w ≠ []) {pieces : List (List Char)} :
    w <:+: [sep].intercalate pieces ↔ ∃ piece ∈ pieces, w <:+: piece := by
  induction pieces with
  | nil => simpa using hne
  | cons piece pieces ih =>
    cases pieces with
    | nil => simp
    | cons next pieces =>
      rw [List.intercalate_cons_cons, List.append_assoc, List.singleton_append, infix_append_cons_iff hsep hne, ih]
      exact (List.exists_mem_cons_iff _ _ _).symm

/-- A word stands in a text with others before and behind that have no character of it. -/
theorem infix_between_iff {w u v : List Char} (hu : ∀ c ∈ u, c ∉ w) (hv : ∀ c ∈ v, c ∉ w) (hne : w ≠ [])
    (s : List Char) : w <:+: u ++ s ++ v ↔ w <:+: s := by
  have hnot : ∀ {u : List Char}, (∀ c ∈ u, c ∉ w) → ¬ w <:+: u := by
    intro u hu hw
    obtain ⟨d, hd⟩ := List.exists_mem_of_ne_nil w hne
    exact hu d (hw.subset hd) hd
  have hbefore : ∀ t, w <:+: u ++ t ↔ w <:+: t := by
    intro t
    induction u with
    | nil => rfl
    | cons c u ih =>
      obtain ⟨hc, hu⟩ := List.forall_mem_cons.1 hu
      rw [List.cons_append, ← List.nil_append (c :: (u ++ t)), infix_append_cons_iff hc hne, List.infix_nil,
        or_iff_right hne, ih hu]
  rw [List.append_assoc, hbefore]
  cases v with
  | nil => rw [List.append_nil]
  | cons c v =>
    obtain ⟨hc, hv⟩ := List.forall_mem_cons.1 hv
    rw [infix_append_cons_iff hc hne, or_iff_left (hnot hv)]

/-! ### The relation -/

/-- The texts differ in blanks only: a run of blanks may be written in other blanks, and left out at the end. -/
inductive Respaced : List Char → List Char → Prop
  | nil : Respaced [] []
  /-- The same character of a word. -/
  | keep {c : Char} {s t : List Char} : isBlank c = false → Respaced s t → Respaced (c :: s) (c :: t)
  /-- A blank for a blank. -/
  | blank {c d : Char} {s t : List Char} : isBlank c = true → isBlank d = true → Respaced s t →
      Respaced (c :: s) (d :: t)
  /-- A blank that is not the last before a word is left out. -/
  | skip {c : Char} {s t : List Char} : isBlank c = true → (∀ d ∈ s.head?, isBlank d = true) → Respaced s t →
      Respaced (c :: s) t

theorem words_eq (s : List Char) :
    words s = if (splitWords s).1.isEmpty then (splitWords s).2 else (splitWords s).1 :: (splitWords s).2 := rfl

theorem splitWords_blank {c : Char} (hc : isBlank c = true) (s : List Char) : splitWords (c :: s) = ([], words s) := by
  simp [splitWords, hc, words_eq]

theorem splitWords_keep {c : Char} (hc : isBlank c = false) (s : List Char) :
    splitWords (c :: s) = (c :: (splitWords s).1, (splitWords s).2) := by
  simp [splitWords, hc]

/-- A text without blanks is one word. -/
theorem splitWords_of_forall {s : List Char} (h : ∀ c ∈ s, isBlank c = false) : splitWords s = (s, []) := by
  induction s with
  | nil => rfl
  | cons c s ih =>
    obtain ⟨hc, hs⟩ := List.forall_mem_cons.1 h
    rw [splitWords_keep hc, ih hs]

/-- A text begins with a word unless it is empty or begins with a blank. -/
theorem isEmpty_splitWords {s : List Char} (h : ∀ d ∈ s.head?, isBlank d = true) : (splitWords s).1 = [] := by
  cases s with
  | nil => rfl
  | cons d s => rw [splitWords_blank (h d rfl)]

theorem head?_of_isEmpty_splitWords {s : List Char} (h : (splitWords s).1 = []) : ∀ d ∈ s.head?, isBlank d = true := by
  cases s with
  | nil => simp
  | cons d s =>
    intro e he
    cases he
    cases hd : isBlank d with
    | true => rfl
    | false => simp [splitWords_keep hd] at h

/-- Respaced texts have the same words. -/
theorem Respaced.splitWords_eq {s t : List Char} (h : Respaced s t) : splitWords s = splitWords t := by
  induction h with
  | nil => rfl
  | keep hc _ ih => rw [splitWords_keep hc, splitWords_keep hc, ih]
  | blank hc hd _ ih => rw [splitWords_blank hc, splitWords_blank hd, words_eq, words_eq, ih]
  | skip hc hs _ ih =>
    have hempty := isEmpty_splitWords hs
    rw [splitWords_blank hc, words_eq, hempty, List.isEmpty_nil, if_pos rfl, ← ih, ← hempty]

theorem Respaced.collapseChars_eq {s t : List Char} (h : Respaced s t) : collapseChars s = collapseChars t := by
  rw [collapseChars, collapseChars, words_eq, words_eq, h.splitWords_eq]

/-- Each part of a text can be respaced by itself. -/
theorem Respaced.exists_append {s s' t : List Char} (h : Respaced (s ++ s') t) :
    ∃ u v, Respaced s u ∧ Respaced s' v ∧ t = u ++ v := by
  induction s generalizing t with
  | nil => exact ⟨[], t, .nil, h, rfl⟩
  | cons c s ih =>
    cases h with
    | keep hc h =>
      obtain ⟨u, v, hu, hv, rfl⟩ := ih h
      exact ⟨c :: u, v, .keep hc hu, hv, rfl⟩
    | blank hc hd h =>
      obtain ⟨u, v, hu, hv, rfl⟩ := ih h
      exact ⟨_ :: u, v, .blank hc hd hu, hv, rfl⟩
    | skip hc hs h =>
      obtain ⟨u, v, hu, hv, rfl⟩ := ih h
      refine ⟨u, v, .skip hc (fun d hd => hs d ?_) hu, hv, rfl⟩
      cases s with
      | nil => cases hd
      | cons e s => exact hd

theorem Respaced.eq_of_forall {s t : List Char} (h : Respaced s t) (hs : ∀ c ∈ s, isBlank c = false) : t = s := by
  induction h with
  | nil => rfl
  | keep _ _ ih => rw [ih fun c hc => hs c (List.mem_cons_of_mem _ hc)]
  | blank hc => exact absurd hc (by simp [hs _ List.mem_cons_self])
  | skip hc => exact absurd hc (by simp [hs _ List.mem_cons_self])

theorem Respaced.forall_isBlank {s t : List Char} (h : Respaced s t) (hs : ∀ c ∈ s, isBlank c = true) :
    ∀ c ∈ t, isBlank c = true := by
  induction h with
  | nil => exact hs
  | keep hc => exact absurd hc (by simp [hs _ List.mem_cons_self])
  | blank _ hd _ ih => exact List.forall_mem_cons.2 ⟨hd, ih fun c hc => hs c (List.mem_cons_of_mem _ hc)⟩
  | skip _ _ _ ih => exact ih fun c hc => hs c (List.mem_cons_of_mem _ hc)

/-- Blanks before a word stay blanks before it. -/
theorem Respaced.exists_blanks {b s t : List Char} {c : Char} (hb : ∀ d ∈ b, isBlank d = true) (hc : isBlank c = false)
    (h : Respaced (b ++ c :: s) t) :
    ∃ b' s', (∀ d ∈ b', isBlank d = true) ∧ (b ≠ [] → b' ≠ []) ∧ Respaced (c :: s) (c :: s') ∧ t = b' ++ c :: s' := by
  induction b generalizing t with
  | nil =>
    cases h with
    | keep _ h => exact ⟨[], _, List.forall_mem_nil _, fun hne => absurd rfl hne, .keep hc h, rfl⟩
    | blank hblank => exact absurd hblank (by simp [hc])
    | skip hblank => exact absurd hblank (by simp [hc])
  | cons d b ih =>
    obtain ⟨hd, hb⟩ := List.forall_mem_cons.1 hb
    cases h with
    | keep hkeep => exact absurd hd (by simp [hkeep])
    | blank _ he h =>
      obtain ⟨b', s', hb', -, hs', rfl⟩ := ih hb h
      exact ⟨_ :: b', s', List.forall_mem_cons.2 ⟨he, hb'⟩, fun _ => List.cons_ne_nil _ _, hs', rfl⟩
    | skip _ hhead h =>
      obtain ⟨b', s', hb', hne, hs', rfl⟩ := ih hb h
      refine ⟨b', s', hb', fun _ => hne ?_, hs', rfl⟩
      rintro rfl
      exact absurd (hhead c rfl) (by simp [hc])

/-- Blanks at the end can be left out. -/
theorem respaced_append {v : List Char} (hv : ∀ c ∈ v, isBlank c = true) (s : List Char) : Respaced (s ++ v) s := by
  induction s with
  | nil =>
    induction v with
    | nil => exact .nil
    | cons c v ih =>
      obtain ⟨hc, hv⟩ := List.forall_mem_cons.1 hv
      exact .skip hc (fun d hd => hv d (List.mem_of_mem_head? hd)) (ih hv)
  | cons c s ih =>
    cases hc : isBlank c with
    | false => exact .keep hc ih
    | true => exact .blank hc hc ih

/-- Blanks around a text are collapsed away. -/
theorem collapseChars_around {u v : List Char} (hu : ∀ c ∈ u, isBlank c = true) (hv : ∀ c ∈ v, isBlank c = true)
    (s : List Char) : collapseChars (u ++ s ++ v) = collapseChars s := by
  rw [(respaced_append hv (u ++ s)).collapseChars_eq]
  induction u with
  | nil => rfl
  | cons c u ih =>
    obtain ⟨hc, hu⟩ := List.forall_mem_cons.1 hu
    rw [← ih hu, collapseChars, List.cons_append, words_eq, splitWords_blank hc]
    rfl

/-- A word and the words after it, each of these after a space. -/
def spaced (parts : List Char × List (List Char)) : List Char := parts.1 ++ parts.2.flatMap (' ' :: ·)

theorem respaced_spaced (s : List Char) : Respaced s (spaced (splitWords s)) := by
  induction s with
  | nil => exact .nil
  | cons c s ih =>
    cases hc : isBlank c with
    | false =>
      rw [splitWords_keep hc]
      exact .keep hc ih
    | true =>
      rw [splitWords_blank hc, words_eq]
      cases hword : (splitWords s).1 with
      | nil =>
        rw [List.isEmpty_nil, if_pos rfl, ← hword]
        exact .skip hc (head?_of_isEmpty_splitWords hword) ih
      | cons d word =>
        rw [List.isEmpty_cons, if_neg Bool.false_ne_true, ← hword]
        exact .blank hc (by decide) ih

/-- The collapsed text is the respaced one, but for a space before it. -/
theorem spaced_splitWords (s : List Char) :
    spaced (splitWords s) = collapseChars s ∨ spaced (splitWords s) = ' ' :: collapseChars s := by
  have hjoin : ∀ (word : List Char) (later : List (List Char)),
      [' '].intercalate (word :: later) = word ++ later.flatMap (' ' :: ·) := by
    intro word later
    induction later generalizing word with
    | nil => simp [List.intercalate]
    | cons next later ih => rw [List.intercalate_cons_cons, ih]; simp
  rw [collapseChars, words_eq, spaced]
  cases hword : (splitWords s).1 with
  | nil =>
    cases (splitWords s).2 with
    | nil => exact .inl (by simp [List.intercalate])
    | cons word later => exact .inr (by simp [hjoin])
  | cons c word => exact .inl (by rw [List.isEmpty_cons, if_neg Bool.false_ne_true, hjoin])

end ScriptGlue.Text

namespace ScriptGlue.Cpp

open ScriptGlue.Text

/-! ### Cutting and splitting -/

theorem cutFirst_respaced {c : Char} (hc : isBlank c = false) {s t : List Char} (h : Respaced s t) :
    Option.Rel Respaced ((cutFirst [c] s).map (·.2)) ((cutFirst [c] t).map (·.2)) := by
  have hblank : ∀ {d}, isBlank d = true → c ≠ d := fun hd => (ne_of_isBlank hd hc).symm
  induction h with
  | nil => exact .none
  | @keep d s t hd hst ih =>
    by_cases hcd : c = d
    · subst hcd
      rw [cutFirst, cutFirst, if_pos (by simp), if_pos (by simp)]
      exact .some hst
    · rw [cutFirst_cons hcd, cutFirst_cons hcd, Option.map_map, Option.map_map]
      exact ih
  | blank hd he _ ih =>
    rw [cutFirst_cons (hblank hd), cutFirst_cons (hblank he), Option.map_map, Option.map_map]
    exact ih
  | skip hd _ _ ih =>
    rw [cutFirst_cons (hblank hd), Option.map_map]
    exact ih

theorem cutLast_cons {c d : Char} (s : List Char) :
    cutLast [c] (d :: s) = ((cutLast [c] s).map fun p => (d :: p.1, p.2)).or (if c = d then some ([], s) else none) := by
  rw [cutLast]
  cases cutLast [c] s with
  | some p => rfl
  | none => simp

/-- What stands before a cut begins as the text does. -/
theorem head?_of_cutLast {c : Char} {s : List Char} {p : List Char × List Char} (h : cutLast [c] s = some p) :
    ∀ d ∈ p.1.head?, d ∈ s.head? := by
  cases s with
  | nil => cases h
  | cons e s =>
    rw [cutLast_cons] at h
    cases hs : cutLast [c] s with
    | some q =>
      rw [hs] at h
      cases h
      exact fun d hd => hd
    | none =>
      rw [hs] at h
      by_cases hce : c = e
      · simp only [Option.map_none, Option.none_or, if_pos hce] at h
        cases h
        simp
      · simp [hce] at h

theorem cutLast_respaced {c : Char} (hc : isBlank c = false) {s t : List Char} (h : Respaced s t) :
    Option.Rel Respaced ((cutLast [c] s).map (·.1)) ((cutLast [c] t).map (·.1)) := by
  have hblank : ∀ {d}, isBlank d = true → c ≠ d := fun hd => (ne_of_isBlank hd hc).symm
  induction h with
  | nil => exact .none
  | @keep d s t hd hst ih =>
    rw [cutLast_cons, cutLast_cons]
    revert ih
    cases cutLast [c] s <;> cases cutLast [c] t <;> intro ih <;> cases ih
    · by_cases hcd : c = d
      · simpa [hcd] using Option.Rel.some Respaced.nil
      · simp [hcd]
    · next ih => exact .some (.keep hd ih)
  | blank hd he _ ih =>
    rw [cutLast_cons, cutLast_cons, if_neg (hblank hd), if_neg (hblank he), Option.or_none, Option.or_none]
    revert ih
    cases cutLast [c] _ <;> cases cutLast [c] _ <;> intro ih <;> cases ih
    · exact .none
    · next ih => exact .some (.blank hd he ih)
  | @skip d s t hd hs _ ih =>
    rw [cutLast_cons, if_neg (hblank hd), Option.or_none]
    cases hcut : cutLast [c] s with
    | none =>
      rw [hcut] at ih
      exact ih
    | some p =>
      rw [hcut] at ih
      revert ih
      cases cutLast [c] t <;> intro ih <;> cases ih
      next ih => exact .some (.skip hd (fun e he => hs e (head?_of_cutLast hcut e he)) ih)

theorem betweenBrackets?_eq (s : List Char) :
    betweenBrackets? s = ((cutFirst ['<'] s).map (·.2)).bind fun rest => (cutLast ['>'] rest).map (·.1) := by
  rw [betweenBrackets?]
  cases cutFirst ['<'] s <;> rfl

theorem betweenBrackets?_respaced {s t : List Char} (h : Respaced s t) :
    Option.Rel Respaced (betweenBrackets? s) (betweenBrackets? t) := by
  rw [betweenBrackets?_eq, betweenBrackets?_eq]
  have hfirst := cutFirst_respaced (c := '<') (by decide) h
  revert hfirst
  cases (cutFirst ['<'] s).map (·.2) <;> cases (cutFirst ['<'] t).map (·.2) <;> intro hfirst <;> cases hfirst
  · exact .none
  · next hrest => exact cutLast_respaced (by decide) hrest

/-- The number of open brackets behind a character. -/
def depthAfter (depth : Int) (c : Char) : Int := if c == '<' then depth + 1 else if c == '>' then depth - 1 else depth

/-- A character that does not split goes to the first piece. -/
theorem splitArguments_cons (depth : Int) (c : Char) (s : List Char) :
    ∃ piece later, splitArguments (depthAfter depth c) s = piece :: later ∧
      splitArguments depth (c :: s) =
        if c == ',' && depth == 0 then [] :: splitArguments depth s else (c :: piece) :: later := by
  have hne : splitArguments (depthAfter depth c) s ≠ [] := by
    cases s with
    | nil => simp [splitArguments]
    | cons d s =>
      rw [splitArguments]
      split
      · simp
      · split <;> simp
  obtain ⟨piece, later, h⟩ := List.exists_cons_of_ne_nil hne
  refine ⟨piece, later, h, ?_⟩
  rw [splitArguments]
  rw [depthAfter] at h
  split
  · rfl
  · rw [h]

theorem splitArguments_blank {c : Char} (hc : isBlank c = true) (depth : Int) (s : List Char) :
    ∃ piece later, splitArguments depth s = piece :: later ∧ splitArguments depth (c :: s) = (c :: piece) :: later := by
  have hne : ∀ {d}, isBlank d = false → (c == d) = false := fun hd => beq_eq_false_iff_ne.2 (ne_of_isBlank hc hd)
  obtain ⟨piece, later, h, hcons⟩ := splitArguments_cons depth c s
  rw [depthAfter, hne (d := '<') (by decide), hne (d := '>') (by decide)] at h
  rw [hne (d := ',') (by decide)] at hcons
  exact ⟨piece, later, h, hcons⟩

theorem splitArguments_respaced {s t : List Char} (h : Respaced s t) (depth : Int) :
    List.Forall₂ Respaced (splitArguments depth s) (splitArguments depth t) := by
  induction h generalizing depth with
  | nil => exact .cons .nil .nil
  | @keep c s t hc _ ih =>
    obtain ⟨piece, later, hs, hcs⟩ := splitArguments_cons depth c s
    obtain ⟨piece', later', ht, hct⟩ := splitArguments_cons depth c t
    have hpieces := ih (depthAfter depth c)
    rw [hs, ht, List.forall₂_cons] at hpieces
    rw [hcs, hct]
    split
    · exact .cons .nil (ih depth)
    · exact .cons (.keep hc hpieces.1) hpieces.2
  | @blank c d s t hc hd _ ih =>
    obtain ⟨piece, later, hs, hcs⟩ := splitArguments_blank hc depth s
    obtain ⟨piece', later', ht, hdt⟩ := splitArguments_blank hd depth t
    have hpieces := ih depth
    rw [hs, ht, List.forall₂_cons] at hpieces
    rw [hcs, hdt]
    exact .cons (.blank hc hd hpieces.1) hpieces.2
  | @skip c s t hc hblank _ ih =>
    obtain ⟨piece, later, hs, hcs⟩ := splitArguments_blank hc depth s
    have hpieces := ih depth
    rw [hs] at hpieces
    rw [hcs]
    -- the first piece begins as the text does
    have hhead : ∀ d ∈ piece.head?, isBlank d = true := by
      cases s with
      | nil =>
        rw [splitArguments] at hs
        cases hs
        simp
      | cons d s =>
        obtain ⟨inner, others, -, hds⟩ := splitArguments_blank (hblank d rfl) depth s
        rw [hds] at hs
        cases hs
        exact fun e he => hblank e he
    obtain ⟨piece', later', hpiece, hlater, ht⟩ := List.forall₂_cons_left_iff.1 hpieces
    rw [ht]
    exact .cons (.skip hc hhead hpiece) hlater

/-! ### Arguments -/

/-- The arguments of a template depend on its words only. -/
theorem templateArguments_respaced {s t : String} (h : Respaced s.toList t.toList) :
    templateArguments s = templateArguments t := by
  have hbetween := betweenBrackets?_respaced h
  rw [templateArguments, templateArguments]
  revert hbetween
  cases betweenBrackets? s.toList <;> cases betweenBrackets? t.toList <;> intro hbetween <;> cases hbetween
  · rfl
  · next hinner =>
    have hpieces := splitArguments_respaced hinner 0
    have hsame : ∀ {ps qs : List (List Char)}, List.Forall₂ Respaced ps qs →
        ps.map (fun a => String.ofList (tighten (collapseChars a))) =
          qs.map fun a => String.ofList (tighten (collapseChars a)) := by
      intro ps qs hpq
      induction hpq with
      | nil => rfl
      | cons hpq _ ih => rw [List.map_cons, List.map_cons, hpq.collapseChars_eq, ih]
    simp only [hsame hpieces]

theorem templateArguments_space (s : List Char) :
    templateArguments (String.ofList (' ' :: s)) = templateArguments (String.ofList s) := by
  have hcut : (cutFirst ['<'] (' ' :: s)).map (·.2) = (cutFirst ['<'] s).map (·.2) := by
    rw [cutFirst_cons (by decide), Option.map_map]
    rfl
  simp only [templateArguments, String.toList_ofList, betweenBrackets?_eq, hcut]

/-- **The arguments of a template are the same when blanks are collapsed first.** -/
theorem templateArguments_collapse (s : String) : templateArguments (collapse s) = templateArguments s := by
  have hspaced : templateArguments (String.ofList (spaced (splitWords s.toList))) = templateArguments s := by
    refine (templateArguments_respaced ?_).symm
    rw [String.toList_ofList]
    exact respaced_spaced s.toList
  rw [← hspaced, collapse]
  rcases spaced_splitWords s.toList with h | h
  · rw [h]
  · rw [h, templateArguments_space]

end ScriptGlue.Cpp
