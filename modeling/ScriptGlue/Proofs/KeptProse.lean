import Mathlib.Data.List.Forall2
import ScriptGlue.Proofs.DirectiveSpans

/-!
# Prose around directives

The spans of the directives cut a text into pieces (`pieces`): one before the first, one between any two, one behind the
last. When the directives are taken out, each piece loses nothing but blanks and periods at its ends (`ShedsTo`), and
what is left of the pieces is joined by single spaces. The pieces are followed through one cut at a time
(`exists_kept`). **`applyText_keepsProse`** says what this leaves of the prose.
-/

namespace ScriptGlue.Directive

open ScriptGlue.Text

/-! ### Pieces -/

/-- The part of a text that a scan has not decided about yet. -/
def Place.pending : Place → List Char
  | .outside => []
  | .inside read => '[' :: read

/-- The pieces, the first of them after some more text. -/
def precede (s : List Char) : List (List Char) → List (List Char)
  | [] => [s]
  | piece :: later => (s ++ piece) :: later

/-- The pieces, the last of them before some more text. -/
def follow : List (List Char) → List Char → List (List Char)
  | [], s => [s]
  | [piece], s => [piece ++ s]
  | piece :: next :: later, s => piece :: follow (next :: later) s

/-- The pieces between the directives of a text that a scan reads from the given place on. Spans that are no directives
belong to the pieces, and so does what follows a bracket that is not closed. -/
def piecesFrom : Place → List Char → List (List Char)
  | p, [] => [p.pending]
  | .outside, c :: s => if c = '[' then piecesFrom (.inside []) s else precede [c] (piecesFrom .outside s)
  | .inside read, c :: s =>
    if c = ']' then
      if (ofSpan? read).isSome then [] :: piecesFrom .outside s
      else precede ('[' :: read ++ [']']) (piecesFrom .outside s)
    else piecesFrom (.inside (read ++ [c])) s

/-- The pieces of a text before, between and behind its directives. -/
def pieces (s : List Char) : List (List Char) := piecesFrom .outside s

/-- The spans of a text that are directives. -/
def directiveSpans (s : List Char) : List (List Char) := (spans s).filter fun span => (ofSpan? span).isSome

/-- The text with the given pieces and, in brackets, the spans between them. -/
def weave : List (List Char) → List (List Char) → List Char
  | piece :: later, span :: spans => piece ++ '[' :: span ++ ']' :: weave later spans
  | pieces, _ => pieces.flatten

theorem precede_nil {ps : List (List Char)} (h : ps ≠ []) : precede [] ps = ps := by
  cases ps with
  | nil => exact absurd rfl h
  | cons => rfl

theorem precede_append (s t : List Char) (ps : List (List Char)) : precede (s ++ t) ps = precede s (precede t ps) := by
  cases ps with
  | nil => rfl
  | cons => simp [precede]

theorem precede_ne_nil (s : List Char) (ps : List (List Char)) : precede s ps ≠ [] := by
  cases ps <;> exact List.cons_ne_nil _ _

theorem flatten_precede (s : List Char) (ps : List (List Char)) : (precede s ps).flatten = s ++ ps.flatten := by
  cases ps <;> simp [precede]

theorem length_precede (s : List Char) {ps : List (List Char)} (h : ps ≠ []) : (precede s ps).length = ps.length := by
  cases ps with
  | nil => exact absurd rfl h
  | cons => rfl

theorem precede_follow (s t : List Char) (ps : List (List Char)) : precede s (follow ps t) = follow (precede s ps) t := by
  match ps with
  | [] => rfl
  | [_] => simp [precede, follow]
  | _ :: _ :: _ => rfl

theorem follow_cons (piece : List Char) {ps : List (List Char)} (h : ps ≠ []) (s : List Char) :
    follow (piece :: ps) s = piece :: follow ps s := by
  cases ps with
  | nil => exact absurd rfl h
  | cons => rfl

theorem follow_ne_nil (ps : List (List Char)) (s : List Char) : follow ps s ≠ [] := by
  fun_cases follow ps s <;> exact List.cons_ne_nil _ _

theorem flatten_follow (s : List Char) (ps : List (List Char)) : (follow ps s).flatten = ps.flatten ++ s := by
  fun_induction follow ps s with
  | case1 => simp
  | case2 => simp
  | case3 s piece next later ih => simp [ih]

theorem weave_precede (s : List Char) {ps : List (List Char)} (h : ps ≠ []) (spans : List (List Char)) :
    weave (precede s ps) spans = s ++ weave ps spans := by
  cases ps with
  | nil => exact absurd rfl h
  | cons => cases spans <;> simp [precede, weave]

theorem piecesFrom_ne_nil (p : Place) (s : List Char) : piecesFrom p s ≠ [] := by
  fun_induction piecesFrom p s with
  | case1 => exact List.cons_ne_nil _ _
  | case2 => assumption
  | case3 => exact precede_ne_nil _ _
  | case4 => exact List.cons_ne_nil _ _
  | case5 => exact precede_ne_nil _ _
  | case6 => assumption

/-- The pieces and the directives between them make up the text. -/
theorem weave_piecesFrom (p : Place) (s : List Char) :
    weave (piecesFrom p s) ((scan p s).2.filter fun span => (ofSpan? span).isSome) = p.pending ++ s := by
  fun_induction piecesFrom p s with
  | case1 p => simp [scan, weave]
  | case2 s ih => simpa [scan, Place.next, Place.pending] using ih
  | case3 c s hc ih =>
    rw [weave_precede _ (piecesFrom_ne_nil _ _)]
    simpa [scan, Place.next, hc, Place.pending] using ih
  | case4 read s hread ih => simpa [scan, Place.next, hread, weave, Place.pending] using ih
  | case5 read s hread ih =>
    rw [weave_precede _ (piecesFrom_ne_nil _ _)]
    simpa [scan, Place.next, hread, Place.pending] using ih
  | case6 read c s hc ih => simpa [scan, Place.next, hc, Place.pending] using ih

theorem length_piecesFrom (p : Place) (s : List Char) :
    (piecesFrom p s).length = ((scan p s).2.filter fun span => (ofSpan? span).isSome).length + 1 := by
  fun_induction piecesFrom p s with
  | case1 p => rfl
  | case2 s ih => simpa [scan, Place.next] using ih
  | case3 c s hc ih =>
    rw [length_precede _ (piecesFrom_ne_nil _ _)]
    simpa [scan, Place.next, hc] using ih
  | case4 read s hread ih => simpa [scan, Place.next, hread] using ih
  | case5 read s hread ih =>
    rw [length_precede _ (piecesFrom_ne_nil _ _)]
    simpa [scan, Place.next, hread] using ih
  | case6 read c s hc ih => simpa [scan, Place.next, hc] using ih

/-- A beginning without directives, scanned to the outside, belongs to the first piece. -/
theorem piecesFrom_append {p : Place} {s : List Char} (hplace : (scan p s).1 = .outside)
    (hnone : ∀ span ∈ (scan p s).2, ofSpan? span = none) (t : List Char) :
    piecesFrom p (s ++ t) = precede (p.pending ++ s) (pieces t) := by
  induction s generalizing p with
  | nil =>
    cases hplace
    exact (precede_nil (piecesFrom_ne_nil _ _)).symm
  | cons c s ih =>
    cases p with
    | outside =>
      by_cases hc : c = '['
      · subst hc
        simp only [scan, Place.next, if_true] at hplace hnone
        simpa [piecesFrom, Place.pending] using ih hplace hnone
      · simp only [scan, Place.next, if_neg hc] at hplace hnone
        simp [piecesFrom, hc, ih hplace hnone, Place.pending, ← precede_append]
    | inside read =>
      by_cases hc : c = ']'
      · subst hc
        simp only [scan, Place.next, if_true, Option.toList_some, List.singleton_append, List.forall_mem_cons] at hplace hnone
        simp [piecesFrom, hnone.1, ih hplace hnone.2, Place.pending, ← precede_append]
      · simp only [scan, Place.next, if_neg hc] at hplace hnone
        simpa [piecesFrom, hc, Place.pending] using ih hplace hnone

/-- A text without directives is one piece. -/
theorem piecesFrom_of_none {p : Place} {s : List Char} (hnone : ∀ span ∈ (scan p s).2, ofSpan? span = none) :
    piecesFrom p s = [p.pending ++ s] := by
  have hfilter : ((scan p s).2.filter fun span => (ofSpan? span).isSome) = [] :=
    List.filter_eq_nil_iff.2 fun span hspan => by simp [hnone span hspan]
  have hlength := length_piecesFrom p s
  have hweave := weave_piecesFrom p s
  rw [hfilter] at hlength hweave
  obtain ⟨piece, hpiece⟩ := List.length_eq_one_iff.1 hlength
  rw [hpiece] at hweave ⊢
  rw [← hweave]
  simp [weave]

/-- An end in which no span ends belongs to the last piece. -/
theorem piecesFrom_concat (p : Place) (s : List Char) {t : List Char} (h : ']' ∉ t) :
    piecesFrom p (s ++ t) = follow (piecesFrom p s) t := by
  induction s generalizing p with
  | nil =>
    have hnone : ∀ span ∈ (scan p t).2, ofSpan? span = none := by simp [scan_of_not_mem p h]
    rw [List.nil_append, piecesFrom_of_none hnone]
    rfl
  | cons c s ih =>
    cases p with
    | outside =>
      rw [List.cons_append, piecesFrom, piecesFrom]
      split
      · exact ih _
      · rw [ih, precede_follow]
    | inside read =>
      rw [List.cons_append, piecesFrom, piecesFrom]
      split
      · split
        · rw [ih, follow_cons _ (piecesFrom_ne_nil _ _)]
        · rw [ih, precede_follow]
      · exact ih _

theorem pieces_ne_nil (s : List Char) : pieces s ≠ [] := piecesFrom_ne_nil _ _

/-- A span that is a directive ends a piece. -/
theorem piecesFrom_directive {read inner : List Char} (hinner : ']' ∉ inner) (hd : (ofSpan? (read ++ inner)).isSome)
    (after : List Char) : piecesFrom (.inside read) (inner ++ ']' :: after) = [] :: pieces after := by
  induction inner generalizing read with
  | nil =>
    rw [List.append_nil] at hd
    rw [List.nil_append, piecesFrom, if_pos rfl, if_pos hd, pieces]
  | cons c inner ih =>
    obtain ⟨hc, hinner⟩ := List.ne_and_not_mem_of_not_mem_cons hinner
    rw [List.cons_append, piecesFrom, if_neg (Ne.symm hc)]
    exact ih hinner (by rwa [List.append_assoc])

/-- The first directive of a text stands behind the first piece. -/
theorem pieces_of_first? {s before after : List Char} {d : Directive} (h : first? s = some (before, d, after)) :
    pieces s = before :: pieces after := by
  obtain ⟨inner, rfl, hinner, hd, hplace, hnone⟩ := eq_of_first? h
  have hspan : pieces ('[' :: inner ++ ']' :: after) = [] :: pieces after := by
    rw [pieces, List.cons_append, piecesFrom, if_pos rfl]
    exact piecesFrom_directive hinner (by rw [List.nil_append, hd]; rfl) after
  rw [pieces, List.append_assoc, piecesFrom_append hplace hnone, hspan]
  simp [precede, Place.pending]

theorem pieces_of_first?_eq_none {s : List Char} (h : first? s = none) : pieces s = [s] :=
  piecesFrom_of_none (ofSpan?_of_first?_eq_none h)

/-! ### Shedding -/

/-- A character of the prose itself, neither a blank nor a period. -/
def isProse (c : Char) : Bool := !isBlank c && c != '.'

theorem isProse_of_blank {s : List Char} (h : ∀ c ∈ s, isBlank c = true) : ∀ c ∈ s, isProse c = false := by
  intro c hc
  simp [isProse, h c hc]

/-- The second text is the first without some blanks and periods at its ends. -/
def ShedsTo (s t : List Char) : Prop :=
  ∃ u v, s = u ++ t ++ v ∧ (∀ c ∈ u, isProse c = false) ∧ ∀ c ∈ v, isProse c = false

theorem ShedsTo.refl (s : List Char) : ShedsTo s s := ⟨[], [], by simp, by simp, by simp⟩

theorem ShedsTo.trans {s t r : List Char} (hst : ShedsTo s t) (htr : ShedsTo t r) : ShedsTo s r := by
  obtain ⟨u, v, rfl, hu, hv⟩ := hst
  obtain ⟨u', v', rfl, hu', hv'⟩ := htr
  exact ⟨u ++ u', v' ++ v, by simp, List.forall_mem_append.2 ⟨hu, hu'⟩, List.forall_mem_append.2 ⟨hv', hv⟩⟩

/-- Shedding keeps the prose. -/
theorem ShedsTo.filter_eq {s t : List Char} (h : ShedsTo s t) : t.filter isProse = s.filter isProse := by
  obtain ⟨u, v, rfl, hu, hv⟩ := h
  have hnone : ∀ {w : List Char}, (∀ c ∈ w, isProse c = false) → w.filter isProse = [] := fun hw =>
    List.filter_eq_nil_iff.2 fun c hc => by simp [hw c hc]
  rw [List.filter_append, List.filter_append, hnone hu, hnone hv, List.nil_append, List.append_nil]

theorem ShedsTo.sublist {s t : List Char} (h : ShedsTo s t) : t.Sublist s := by
  obtain ⟨u, v, rfl, -⟩ := h
  exact (List.infix_append u t v).sublist

theorem shedsTo_trimEndChars (s : List Char) : ShedsTo s (trimEndChars s) := by
  obtain ⟨w, hw, hs⟩ := exists_blanks_end s
  exact ⟨[], w, hs, by simp, isProse_of_blank hw⟩

theorem forall₂_shedsTo_trans {ps qs rs : List (List Char)} (hpq : List.Forall₂ ShedsTo ps qs)
    (hqr : List.Forall₂ ShedsTo qs rs) : List.Forall₂ ShedsTo ps rs := by
  induction hpq generalizing rs with
  | nil => exact hqr
  | cons h _ ih =>
    cases hqr with
    | cons h' hrest => exact .cons (h.trans h') (ih hrest)

theorem forall₂_precede {s : List Char} (hs : ∀ c ∈ s, isProse c = false) {ps : List (List Char)} (h : ps ≠ []) :
    List.Forall₂ ShedsTo (precede s ps) ps := by
  cases ps with
  | nil => exact absurd rfl h
  | cons piece later => exact .cons ⟨s, [], by simp, hs, by simp⟩ (List.forall₂_same.2 fun t _ => .refl t)

theorem forall₂_follow {s : List Char} (hs : ∀ c ∈ s, isProse c = false) {ps : List (List Char)} (h : ps ≠ []) :
    List.Forall₂ ShedsTo (follow ps s) ps := by
  fun_induction follow ps s with
  | case1 => exact absurd rfl h
  | case2 piece s => exact .cons ⟨[], s, by simp, by simp, hs⟩ .nil
  | case3 piece next later s ih => exact .cons (.refl piece) (ih hs (List.cons_ne_nil _ _))

/-- What a text sheds at its ends, its first and its last piece shed. -/
theorem pieces_shed {u v : List Char} (hu : ∀ c ∈ u, isProse c = false) (hv : ∀ c ∈ v, isProse c = false) (s : List Char) :
    List.Forall₂ ShedsTo (pieces (u ++ s ++ v)) (pieces s) ∧ (pieces (u ++ s ++ v)).flatten = u ++ (pieces s).flatten ++ v := by
  have hopen : '[' ∉ u := fun hmem => absurd (hu _ hmem) (by decide)
  have hclose : ']' ∉ v := fun hmem => absurd (hv _ hmem) (by decide)
  have hscan := scan_outside hopen
  have hnone : ∀ span ∈ (scan .outside u).2, ofSpan? span = none := by simp [hscan]
  have hpieces : pieces (u ++ s ++ v) = precede u (follow (pieces s) v) := by
    rw [pieces, piecesFrom_concat _ _ hclose, piecesFrom_append (by rw [hscan]) hnone, precede_follow]
    rfl
  rw [hpieces, flatten_precede, flatten_follow, List.append_assoc]
  exact ⟨forall₂_shedsTo_trans (forall₂_precede hu (follow_ne_nil _ _)) (forall₂_follow hv (pieces_ne_nil s)), rfl⟩

theorem count_period_of_blank {s : List Char} (h : ∀ c ∈ s, isBlank c = true) : s.count '.' = 0 :=
  List.count_eq_zero.2 (not_mem_of_blank (by decide) h)

theorem count_period_trimEndChars (s : List Char) : (trimEndChars s).count '.' = s.count '.' := by
  obtain ⟨w, hw, hs⟩ := exists_blanks_end s
  conv_rhs => rw [hs, List.count_append, count_period_of_blank hw]
  rfl

/-- What follows a span loses blanks and at most one period. -/
theorem withoutPeriod_shed (after : List Char) :
    ∃ u v, after = u ++ withoutPeriod after ++ v ∧ (∀ c ∈ u, isProse c = false) ∧ (∀ c ∈ v, isProse c = false) ∧
      u.count '.' + v.count '.' ≤ 1 := by
  obtain ⟨w, hw, hafter⟩ := exists_blanks_start after
  rw [withoutPeriod]
  generalize trimStartChars after = s at hafter
  subst hafter
  split
  · next rest =>
    obtain ⟨x, hx, hrest⟩ := exists_blanks_start rest
    refine ⟨w ++ '.' :: x, [], ?_, ?_, by simp, ?_⟩
    · conv_lhs => rw [hrest]
      simp
    · refine List.forall_mem_append.2 ⟨isProse_of_blank hw, List.forall_mem_cons.2 ⟨by decide, isProse_of_blank hx⟩⟩
    · simp [count_period_of_blank hw, count_period_of_blank hx]
  · split
    · next hlast =>
      rw [Bool.and_eq_true, beq_iff_eq] at hlast
      have hs : s.dropLast ++ ['.'] = s := List.dropLast_append_getLast? '.' hlast.1
      obtain ⟨x, hx, hinit⟩ := exists_blanks_end s.dropLast
      refine ⟨w, x ++ ['.'], ?_, isProse_of_blank hw, ?_, ?_⟩
      · conv_lhs => rw [← hs, hinit]
        simp
      · exact List.forall_mem_append.2 ⟨isProse_of_blank hx, List.forall_mem_singleton.2 (by decide)⟩
      · simp [count_period_of_blank hw, count_period_of_blank hx]
    · exact ⟨w, [], by simp, isProse_of_blank hw, by simp, by simp [count_period_of_blank hw]⟩

/-- Nothing blank is left at the beginning of what follows a span. -/
theorem trimStartChars_withoutPeriod (after : List Char) : trimStartChars (withoutPeriod after) = withoutPeriod after := by
  have hs := trimStartChars_idem after
  rw [withoutPeriod]
  generalize trimStartChars after = s at hs
  split
  · exact trimStartChars_idem _
  · split
    · next hlast =>
      rw [Bool.and_eq_true, beq_iff_eq] at hlast
      rw [← List.dropLast_append_getLast? '.' hlast.1] at hs
      rw [trimStartChars_trimEndChars, trimStartChars_of_append hs]
    · exact hs

/-! ### Gluing -/

/-- Two texts, with a space between them if both say something. -/
def glue (s t : List Char) : List Char := if s.isEmpty then t else if t.isEmpty then s else s ++ ' ' :: t

@[simp] theorem nil_glue (s : List Char) : glue [] s = s := rfl

@[simp] theorem glue_nil (s : List Char) : glue s [] = s := by
  cases s <;> rfl

theorem glue_cons_cons (c d : Char) (s t : List Char) : glue (c :: s) (d :: t) = c :: s ++ ' ' :: d :: t := rfl

theorem glue_assoc (s t r : List Char) : glue (glue s t) r = glue s (glue t r) := by
  cases s with
  | nil => rfl
  | cons c s =>
    cases t with
    | nil => simp
    | cons d t =>
      cases r with
      | nil => simp
      | cons e r => simp [glue]

/-- The texts that say something, with single spaces between them. -/
def glueAll (ts : List (List Char)) : List Char := ts.foldr glue []

theorem trimChars_glue {s t : List Char} (hs : trimChars s = s) (ht : trimChars t = t) : trimChars (glue s t) = glue s t := by
  cases s with
  | nil => exact ht
  | cons c s =>
    cases t with
    | nil => exact hs
    | cons d t =>
      have hend : trimEndChars (' ' :: d :: t) = ' ' :: d :: t :=
        trimEndChars_append_of_ne_nil (List.cons_ne_nil _ _) (trimEndChars_of_trimChars ht) [' ']
      rw [glue_cons_cons, trimChars,
        trimStartChars_append_of_ne_nil (List.cons_ne_nil _ _) (trimStartChars_of_trimChars hs)]
      exact trimEndChars_append_of_ne_nil (List.cons_ne_nil _ _) hend _

theorem joinAround_eq_glue {before after : List Char} (hbefore : trimChars (trimEndChars before) = trimEndChars before)
    (hafter : trimChars (withoutPeriod after) = withoutPeriod after) :
    joinAround before after = glue (trimEndChars before) (withoutPeriod after) := by
  rw [joinAround_eq, hbefore, hafter]
  rfl

/-- What a text behind another and a space loses at its end. -/
theorem trimEndChars_append_space {s : List Char} (hne : s ≠ []) (hs : trimChars s = s) (t : List Char) :
    trimEndChars (s ++ ' ' :: t) = glue s (trimEndChars t) := by
  obtain ⟨w, hw, ht⟩ := exists_blanks_end t
  obtain ⟨c, r, rfl⟩ := List.exists_cons_of_ne_nil hne
  cases hend : trimEndChars t with
  | nil =>
    rw [hend, List.nil_append] at ht
    have hspace : ∀ d ∈ ' ' :: w, isBlank d = true := List.forall_mem_cons.2 ⟨by decide, hw⟩
    rw [ht, trimEndChars_append_blanks _ hspace, trimEndChars_of_trimChars hs, glue_nil]
  | cons d e =>
    have hidem : trimEndChars (d :: e) = d :: e := by rw [← hend, trimEndChars_idem]
    have hsplit : c :: r ++ ' ' :: t = (c :: r ++ ' ' :: d :: e) ++ w := by
      rw [ht, hend]
      simp
    rw [hsplit, trimEndChars_append_blanks _ hw, glue_cons_cons,
      ← List.singleton_append (l := d :: e), ← List.append_assoc]
    exact trimEndChars_append_of_ne_nil (List.cons_ne_nil _ _) hidem _

/-! ### Cut by cut -/

/-- Trimmed, scanned to the outside and without directives: nothing more is cut out of the text. -/
structure IsClean (s : List Char) : Prop where
  /-- No blank is at an end. -/
  trimmed : trimChars s = s
  /-- All brackets are closed. -/
  outside : (scan .outside s).1 = .outside
  /-- No span is a directive. -/
  free : ∀ span ∈ spans s, ofSpan? span = none

theorem isClean_nil : IsClean [] := ⟨rfl, rfl, fun _ h => absurd h List.not_mem_nil⟩

/-- What stands before the first directive of a trimmed text is clean without the blanks at its end. -/
theorem isClean_of_first? {s before after : List Char} {d : Directive} (hs : trimChars s = s)
    (h : first? s = some (before, d, after)) : IsClean (trimEndChars before) where
  trimmed := by
    obtain ⟨inner, rfl, -⟩ := eq_of_first? h
    have hstart := trimStartChars_of_trimChars hs
    rw [List.append_assoc] at hstart
    rw [trimChars_trimEndChars, trimChars, trimStartChars_of_append hstart]
  outside := by
    obtain ⟨inner, -, -, -, hplace, -⟩ := eq_of_first? h
    exact scan_trimEndChars hplace
  free := by
    obtain ⟨inner, -, -, -, -, hnone⟩ := eq_of_first? h
    rwa [spans_trimEndChars]

/-- What follows the first directive of a trimmed text is trimmed without the period. -/
theorem trimChars_withoutPeriod_of_first? {s before after : List Char} {d : Directive} (hs : trimChars s = s)
    (h : first? s = some (before, d, after)) : trimChars (withoutPeriod after) = withoutPeriod after := by
  obtain ⟨inner, rfl, -⟩ := eq_of_first? h
  have hafter : trimEndChars (']' :: after) = ']' :: after := trimEndChars_of_append (trimEndChars_of_trimChars hs)
  rw [← List.singleton_append] at hafter
  rw [trimChars, trimStartChars_withoutPeriod, trimEndChars_withoutPeriod (trimEndChars_of_append hafter)]

/-- What goes before a text that is glued to a clean one: the clean text and, if it says something, a space. -/
theorem IsClean.exists_lead {head rest : List Char} (h : IsClean head) (hrest : rest ≠ []) :
    ∃ lead, glue head rest = lead ++ rest ∧ pieces (glue head rest) = precede lead (pieces rest) ∧
      ∀ t, trimEndChars (lead ++ t) = glue head (trimEndChars t) := by
  cases head with
  | nil => exact ⟨[], rfl, (precede_nil (pieces_ne_nil _)).symm, fun t => rfl⟩
  | cons c head =>
    have hglue : glue (c :: head) rest = (c :: head ++ [' ']) ++ rest := by
      obtain ⟨d, r, rfl⟩ := List.exists_cons_of_ne_nil hrest
      simp [glue]
    have hspace : scan .outside (c :: head ++ [' ']) = (.outside, spans (c :: head)) := by
      rw [scan_append, h.outside, scan_outside (s := [' ']) (by decide), List.append_nil, spans]
    refine ⟨c :: head ++ [' '], hglue, ?_, fun t => ?_⟩
    · rw [hglue, pieces, piecesFrom_append (by rw [hspace]) (by rw [hspace]; exact h.free)]
      rfl
    · rw [List.append_assoc, List.singleton_append]
      exact trimEndChars_append_space (List.cons_ne_nil _ _) h.trimmed t

/-- Without directives a text glued to a clean one is one piece. -/
theorem IsClean.pieces_of_none {head rest : List Char} (h : IsClean head) (hnone : first? (glue head rest) = none) :
    pieces rest = [rest] := by
  by_cases hne : rest = []
  · rw [hne]
    rfl
  · obtain ⟨lead, hlead, hglued, -⟩ := h.exists_lead hne
    obtain ⟨first, others, hfirst⟩ := List.exists_cons_of_ne_nil (pieces_ne_nil rest)
    rw [pieces_of_first?_eq_none hnone, hlead, hfirst, precede, List.cons.injEq] at hglued
    rw [hfirst, ← hglued.2, List.append_cancel_left hglued.1]

/-- The first directive of a text glued to a clean one stands behind the first piece of that text. -/
theorem IsClean.pieces_of_first? {head rest before after : List Char} {d : Directive} (h : IsClean head)
    (hfirst : first? (glue head rest) = some (before, d, after)) :
    ∃ first, pieces rest = first :: pieces after ∧ trimEndChars before = glue head (trimEndChars first) := by
  have hpieces := Directive.pieces_of_first? hfirst
  have hne : rest ≠ [] := by
    rintro rfl
    rw [glue_nil, pieces, piecesFrom_of_none h.free, List.cons.injEq] at hpieces
    exact pieces_ne_nil after hpieces.2.symm
  obtain ⟨lead, -, hglued, htrimmed⟩ := h.exists_lead hne
  obtain ⟨first, others, hothers⟩ := List.exists_cons_of_ne_nil (pieces_ne_nil rest)
  rw [hglued, hothers, precede, List.cons.injEq] at hpieces
  exact ⟨first, by rw [hothers, hpieces.2], by rw [← hpieces.1, htrimmed]⟩

/-- **Cut by cut.** A trimmed text glued to a clean one loses its directives; its pieces shed blanks and at most one
period for each directive, and what is left of them is glued to the clean text. -/
theorem exists_kept {head rest s : List Char} (hs : s = glue head rest) (hhead : IsClean head)
    (hrest : trimChars rest = rest) :
    ∃ kept, List.Forall₂ ShedsTo (pieces rest) kept ∧
      (pieces rest).flatten.count '.' < kept.flatten.count '.' + (pieces rest).length ∧
      (extractFrom s).2 = glue head (glueAll kept) := by
  fun_induction extractFrom s generalizing head rest with
  | case1 s h =>
    subst hs
    have hpieces := hhead.pieces_of_none h
    refine ⟨[rest], ?_, ?_, ?_⟩
    · rw [hpieces]
      exact .cons (.refl rest) .nil
    · simp [hpieces]
    · simp [glueAll]
  | case2 s before d after hfirst hlen hjoin later left hleft ih =>
    subst hs
    have hwhole := trimChars_glue hhead.trimmed hrest
    have hbefore := isClean_of_first? hwhole hfirst
    have hafter := trimChars_withoutPeriod_of_first? hwhole hfirst
    obtain ⟨first, hpieces, hjoined⟩ := hhead.pieces_of_first? hfirst
    obtain ⟨u, v, hsplit, hu, hv, hperiods⟩ := withoutPeriod_shed after
    obtain ⟨hshed, hflatten⟩ := pieces_shed hu hv (withoutPeriod after)
    rw [← hsplit] at hshed hflatten
    obtain ⟨kept, hkept, hcount, hresult⟩ := ih (joinAround_eq_glue hbefore.trimmed hafter) hbefore hafter
    refine ⟨trimEndChars first :: kept, ?_, ?_, ?_⟩
    · rw [hpieces]
      exact .cons (shedsTo_trimEndChars first) (forall₂_shedsTo_trans hshed hkept)
    · -- One more period may be lost, and there is one more piece.
      have hlength := hshed.length_eq
      simp only [hpieces, List.flatten_cons, List.count_append, List.length_cons, hflatten, count_period_trimEndChars]
      omega
    · rw [hleft] at hresult
      rw [hresult, hjoined, glue_assoc]
      rfl

/-! ### What is left of the prose -/

theorem glueAll_append (ts rs : List (List Char)) : glueAll (ts ++ rs) = glue (glueAll ts) (glueAll rs) := by
  induction ts with
  | nil => rfl
  | cons t ts ih =>
    rw [List.cons_append, glueAll, List.foldr_cons, ← glueAll, ih, ← glue_assoc]
    rfl

theorem filter_glue {p : Char → Bool} (h : p ' ' = false) (s t : List Char) :
    (glue s t).filter p = s.filter p ++ t.filter p := by
  cases s with
  | nil => rfl
  | cons c s =>
    cases t with
    | nil => simp
    | cons d t => rw [glue_cons_cons, List.filter_append, List.filter_cons_of_neg (a := ' ') (by simp [h])]

theorem filter_glueAll {p : Char → Bool} (h : p ' ' = false) (ts : List (List Char)) :
    (glueAll ts).filter p = ts.flatten.filter p := by
  induction ts with
  | nil => rfl
  | cons t ts ih => rw [glueAll, List.foldr_cons, filter_glue h, ← glueAll, ih, List.flatten_cons, List.filter_append]

theorem count_period_glueAll (ts : List (List Char)) : (glueAll ts).count '.' = ts.flatten.count '.' := by
  have hperiod : (fun c => c == '.') '.' = true := by decide
  rw [← List.count_filter (l := glueAll ts) hperiod, filter_glueAll (by decide), List.count_filter hperiod]

theorem glue_sublist {s t r : List Char} (h : t.Sublist r) : (glue s t).Sublist (s ++ ' ' :: r) := by
  cases s with
  | nil => exact h.cons ' '
  | cons c s =>
    cases t with
    | nil => simp
    | cons d t => exact (List.Sublist.refl _).append (h.cons_cons ' ')

theorem glueAll_sublist {ps kept : List (List Char)} (h : List.Forall₂ ShedsTo ps kept) :
    (glueAll kept).Sublist ([' '].intercalate ps) := by
  induction h with
  | nil => exact List.Sublist.refl _
  | @cons piece t later ts hpiece hlater ih =>
    cases hlater with
    | nil => simpa [glueAll] using hpiece.sublist
    | cons =>
      rw [List.intercalate_cons_cons, List.append_assoc, List.singleton_append]
      exact (glue_sublist ih).trans (hpiece.sublist.append (List.Sublist.refl _))

theorem filter_flatten_of_shedsTo {ps kept : List (List Char)} (h : List.Forall₂ ShedsTo ps kept) :
    kept.flatten.filter isProse = ps.flatten.filter isProse := by
  induction h with
  | nil => rfl
  | cons hpiece _ ih => simp only [List.flatten_cons, List.filter_append, ih, hpiece.filter_eq]

/-- What `rest` has kept of the prose of a text whose directives have been taken out. -/
structure KeepsProse (s rest : List Char) : Prop where
  /-- All characters outside the directives stay in their order, besides blanks and periods. -/
  prose : rest.filter isProse = (pieces s).flatten.filter isProse
  /-- At most one period is lost for each directive. -/
  periods : (pieces s).flatten.count '.' ≤ rest.count '.' + (directiveSpans s).length
  /-- Nothing is added, unless it is a space in the place of a directive. -/
  sublist : rest.Sublist ([' '].intercalate (pieces s))
  /-- What stands on the two sides of a directive is kept apart by a space. -/
  apart : ∀ left right, pieces s = left ++ right → ∃ l r, rest = glue l r ∧
    l.filter isProse = left.flatten.filter isProse ∧ r.filter isProse = right.flatten.filter isProse

theorem keepsProse_glueAll {s : List Char} {kept : List (List Char)} (h : List.Forall₂ ShedsTo (pieces s) kept)
    (hperiods : (pieces s).flatten.count '.' < kept.flatten.count '.' + (pieces s).length) :
    KeepsProse s (glueAll kept) where
  prose := by rw [filter_glueAll (by decide), filter_flatten_of_shedsTo h]
  periods := by
    have hlength : (pieces s).length = (directiveSpans s).length + 1 := length_piecesFrom _ _
    rw [count_period_glueAll]
    omega
  sublist := glueAll_sublist h
  apart := by
    intro left right hsplit
    rw [hsplit] at h
    have hleft := List.forall₂_take left.length h
    have hright := List.forall₂_drop left.length h
    rw [List.take_left] at hleft
    rw [List.drop_left] at hright
    refine ⟨glueAll (kept.take left.length), glueAll (kept.drop left.length), ?_, ?_, ?_⟩
    · rw [← glueAll_append, List.take_append_drop]
    · rw [filter_glueAll (by decide), filter_flatten_of_shedsTo hleft]
    · rw [filter_glueAll (by decide), filter_flatten_of_shedsTo hright]

/-- **Directives are cut out of the prose and leave it whole.** A text is made up of pieces and of the spans between
them that are directives, all of which are found. Once they are cut out, the pieces have kept all characters besides
blanks and periods, and all periods besides one for each directive; nothing is added to them but a space in the place of
a directive, which keeps what stands on its two sides apart. -/
theorem applyText_keepsProse (sibling? : String → Option String) (text : String) (state : Symbol × OverloadGroups) :
    weave (pieces text.toList) (directiveSpans text.toList) = text.toList ∧
      (extract text).1 = (directiveSpans text.toList).filterMap ofSpan? ∧
      KeepsProse text.toList (applyText sibling? text state).1.toList := by
  obtain ⟨kept, hkept, hcount, hresult⟩ := exists_kept (nil_glue _).symm isClean_nil (trimChars_idem text.toList)
  have htext : (applyText sibling? text state).1.toList = glueAll kept := by
    rw [nil_glue] at hresult
    rw [← hresult]
    exact String.toList_ofList
  refine ⟨weave_piecesFrom _ _, ?_, ?_⟩
  · have hsome : (fun span => if (ofSpan? span).isSome = true then ofSpan? span else none) = ofSpan? := by
      funext span
      cases ofSpan? span <;> rfl
    rw [directiveSpans, List.filterMap_filter, hsome, ← spans_trimChars]
    exact (extractFrom_spec _).1
  · -- The blanks at the ends of the text are the first that its pieces shed.
    obtain ⟨u, hu, hstart⟩ := exists_blanks_start text.toList
    obtain ⟨v, hv, hend⟩ := exists_blanks_end (trimStartChars text.toList)
    have hsplit : text.toList = u ++ trimChars text.toList ++ v := by
      rw [List.append_assoc, trimChars, ← hend, ← hstart]
    obtain ⟨hshed, hflatten⟩ := pieces_shed (isProse_of_blank hu) (isProse_of_blank hv) (trimChars text.toList)
    rw [← hsplit] at hshed hflatten
    rw [htext]
    refine keepsProse_glueAll (forall₂_shedsTo_trans hshed hkept) ?_
    rw [hflatten, List.count_append, List.count_append, count_period_of_blank hu, count_period_of_blank hv, hshed.length_eq]
    omega

end ScriptGlue.Directive
