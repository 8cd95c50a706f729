import Mathlib.Data.List.DropRight
import Mathlib.Data.List.Infix
import ScriptGlue.Cpp.Descriptor

/-!
# Spaces in spellings

Trimming a spelling and tightening its angle brackets take characters out and put none in. Neither touches
a word that stands at an end of the spelling, so both commute with taking such a word off. These are the
facts about characters on which the reduction of spellings rests.
-/

namespace ScriptGlue.Text

/-! ### Trimming -/

/-- Trimming the end, from the front: a blank stays if something stays after it. -/
theorem trimEndChars_cons (c : Char) (s : List Char) :
    trimEndChars (c :: s) = if isBlank c && (trimEndChars s).isEmpty then [] else c :: trimEndChars s := by
  simp only [trimEndChars, List.reverse_cons, List.dropWhile_append, List.isEmpty_reverse]
  cases h : (s.reverse.dropWhile isBlank).isEmpty with
  | true =>
    rw [List.isEmpty_iff] at h
    cases hc : isBlank c <;> simp [h, hc]
  | false => simp

@[simp] theorem trimStartChars_nil : trimStartChars [] = [] := rfl

@[simp] theorem trimEndChars_nil : trimEndChars [] = [] := rfl

@[simp] theorem trimChars_nil : trimChars [] = [] := rfl

theorem trimStartChars_cons (c : Char) (s : List Char) :
    trimStartChars (c :: s) = if isBlank c then trimStartChars s else c :: s := by
  simp only [trimStartChars, List.dropWhile_cons]

theorem trimStartChars_trimEndChars (s : List Char) :
    trimStartChars (trimEndChars s) = trimEndChars (trimStartChars s) := by
  induction s with
  | nil => rfl
  | cons c s ih =>
    rw [trimEndChars_cons, trimStartChars_cons]
    cases hc : isBlank c with
    | false => simp [trimStartChars_cons, trimEndChars_cons, hc]
    | true =>
      cases he : (trimEndChars s).isEmpty with
      | false => simpa [trimStartChars_cons, hc, he] using ih
      | true =>
        rw [List.isEmpty_iff] at he
        rw [he] at ih
        simpa [he] using ih

theorem suffix_trimStartChars (s : List Char) : trimStartChars s <:+ s := List.dropWhile_suffix _

theorem prefix_trimEndChars (s : List Char) : trimEndChars s <+: s :=
  List.reverse_suffix.1 (by simpa [trimEndChars] using List.dropWhile_suffix _)

/-- What is left of a text after trimming its end begins as the text does. -/
theorem eq_cons_of_trimEndChars {s t : List Char} {c : Char} (h : trimEndChars s = c :: t) :
    ∃ t', s = c :: t' := by
  obtain ⟨r, hr⟩ := prefix_trimEndChars s
  exact ⟨t ++ r, by rw [← hr, h, List.cons_append]⟩

theorem trimStartChars_idem (s : List Char) : trimStartChars (trimStartChars s) = trimStartChars s :=
  List.dropWhile_idempotent isBlank s

theorem trimEndChars_idem (s : List Char) : trimEndChars (trimEndChars s) = trimEndChars s := by
  simp [trimEndChars, List.dropWhile_idempotent]

theorem trimChars_trimStartChars (s : List Char) : trimChars (trimStartChars s) = trimChars s := by
  rw [trimChars, trimStartChars_idem, trimChars]

theorem trimChars_trimEndChars (s : List Char) : trimChars (trimEndChars s) = trimChars s := by
  rw [trimChars, trimStartChars_trimEndChars, trimEndChars_idem, trimChars]

@[simp] theorem trimChars_idem (s : List Char) : trimChars (trimChars s) = trimChars s := by
  conv_lhs => rw [trimChars, trimChars, trimStartChars_trimEndChars, trimEndChars_idem, trimStartChars_idem]
  rfl

theorem trimChars_sublist (s : List Char) : (trimChars s).Sublist s :=
  (prefix_trimEndChars _).sublist.trans (suffix_trimStartChars s).sublist

/-- The beginning of a text without blanks at its start has none there either. -/
theorem trimStartChars_of_append {s t : List Char} (h : trimStartChars (s ++ t) = s ++ t) : trimStartChars s = s := by
  cases s with
  | nil => rfl
  | cons c s =>
    rw [trimStartChars, List.dropWhile_eq_self_iff] at h ⊢
    exact fun _ => h (by simp)

/-- The end of a text without blanks at its end has none there either. -/
theorem trimEndChars_of_append {s t : List Char} (h : trimEndChars (s ++ t) = s ++ t) : trimEndChars t = t := by
  have hreverse : ∀ u : List Char, trimEndChars u = u ↔ trimStartChars u.reverse = u.reverse := by
    intro u
    rw [trimEndChars, List.reverse_eq_iff, trimStartChars]
  rw [hreverse] at h ⊢
  rw [List.reverse_append] at h
  exact trimStartChars_of_append h

theorem trimStartChars_append_of_ne_nil {s : List Char} (hne : s ≠ []) (h : trimStartChars s = s) (t : List Char) :
    trimStartChars (s ++ t) = s ++ t := by
  cases s with
  | nil => exact absurd rfl hne
  | cons c s =>
    rw [trimStartChars, List.dropWhile_eq_self_iff] at h ⊢
    exact fun _ => h (by simp)

theorem trimEndChars_append_of_ne_nil {t : List Char} (hne : t ≠ []) (h : trimEndChars t = t) (s : List Char) :
    trimEndChars (s ++ t) = s ++ t := by
  have hreverse := trimStartChars_append_of_ne_nil (s := t.reverse) (by simpa using hne)
    (by rwa [trimEndChars, List.reverse_eq_iff] at h) s.reverse
  rw [trimEndChars, List.reverse_append]
  exact (congrArg List.reverse hreverse).trans (by simp)

/-- A trimmed text has no blanks at its start. -/
theorem trimStartChars_of_trimChars {s : List Char} (h : trimChars s = s) : trimStartChars s = s := by
  conv_lhs => rw [← h, trimChars, ← trimStartChars_trimEndChars, trimStartChars_idem, trimStartChars_trimEndChars]
  exact h

/-- A trimmed text has no blanks at its end. -/
theorem trimEndChars_of_trimChars {s : List Char} (h : trimChars s = s) : trimEndChars s = s := by
  rw [← h, trimChars, trimEndChars_idem]

theorem not_mem_of_blank {c : Char} (hc : isBlank c = false) {s : List Char} (h : ∀ d ∈ s, isBlank d = true) : c ∉ s :=
  fun hmem => ne_of_isBlank (h c hmem) hc rfl

theorem exists_blanks_start (s : List Char) : ∃ w, (∀ c ∈ w, isBlank c = true) ∧ s = w ++ trimStartChars s :=
  ⟨s.takeWhile isBlank, fun _ hc => List.mem_takeWhile_imp hc, List.takeWhile_append_dropWhile.symm⟩

theorem exists_blanks_end (s : List Char) : ∃ w, (∀ c ∈ w, isBlank c = true) ∧ s = trimEndChars s ++ w := by
  refine ⟨(s.reverse.takeWhile isBlank).reverse, fun c hc => List.mem_takeWhile_imp (List.mem_reverse.1 hc), ?_⟩
  rw [trimEndChars, ← List.reverse_append, List.takeWhile_append_dropWhile, List.reverse_reverse]

theorem trimEndChars_append_blanks (s : List Char) {w : List Char} (hw : ∀ c ∈ w, isBlank c = true) :
    trimEndChars (s ++ w) = trimEndChars s := by
  rw [trimEndChars, List.reverse_append, List.dropWhile_append_of_pos fun c hc => hw c (List.mem_reverse.1 hc), trimEndChars]

theorem trimChars_blanks_append {u : List Char} (hu : ∀ c ∈ u, isBlank c = true) (s : List Char) :
    trimChars (u ++ s) = trimChars s := by
  rw [← trimChars_trimStartChars, trimStartChars, List.dropWhile_append_of_pos hu, ← trimStartChars,
    trimChars_trimStartChars]

theorem trimChars_append_blanks (s : List Char) {v : List Char} (hv : ∀ c ∈ v, isBlank c = true) :
    trimChars (s ++ v) = trimChars s := by
  rw [← trimChars_trimEndChars, trimEndChars_append_blanks _ hv, trimChars_trimEndChars]

theorem trimEndChars_append_of_trimmed {s : List Char} (hs : trimEndChars s = s) (t : List Char) :
    trimEndChars (s ++ t) = s ++ trimEndChars t := by
  obtain ⟨w, hw, ht⟩ := exists_blanks_end t
  by_cases hend : trimEndChars t = []
  · rw [hend, List.nil_append] at ht
    rw [hend, ht, trimEndChars_append_blanks s hw, hs, List.append_nil]
  · conv_lhs => rw [ht, ← List.append_assoc, trimEndChars_append_blanks _ hw]
    exact trimEndChars_append_of_ne_nil hend (trimEndChars_idem t) s

/-- Trimming a text that begins with a trimmed one. -/
theorem trimChars_append_of_trimmed {s : List Char} (hne : s ≠ []) (hs : trimChars s = s) (t : List Char) :
    trimChars (s ++ t) = s ++ trimEndChars t := by
  rw [trimChars, trimStartChars_append_of_ne_nil hne (trimStartChars_of_trimChars hs),
    trimEndChars_append_of_trimmed (trimEndChars_of_trimChars hs)]

/-! ### Solid words -/

/-- No blank and no angle bracket is among the characters. -/
def Solid (w : List Char) : Prop := ∀ c ∈ w, isBlank c = false ∧ c ≠ '<' ∧ c ≠ '>'

instance (w : List Char) : Decidable (Solid w) := List.decidableBAll _ w

theorem Solid.tail {c : Char} {w : List Char} (h : Solid (c :: w)) : Solid w :=
  fun d hd => h d (List.mem_cons_of_mem c hd)

theorem Solid.head {c : Char} {w : List Char} (h : Solid (c :: w)) : isBlank c = false ∧ c ≠ '<' ∧ c ≠ '>' :=
  h c List.mem_cons_self

theorem Solid.not_mem_of_blank {c : Char} {w : List Char} (hw : Solid w) (hc : isBlank c = true) : c ∉ w :=
  fun hmem => ne_of_isBlank hc (hw c hmem).1 rfl

theorem trimEndChars_append {w : List Char} (hw : Solid w) (s : List Char) :
    trimEndChars (w ++ s) = w ++ trimEndChars s := by
  induction w with
  | nil => rfl
  | cons c w ih => simp [trimEndChars_cons, hw.head.1, ih hw.tail]

theorem trimStartChars_append {w : List Char} (hw : Solid w) (hne : w ≠ []) (s : List Char) :
    trimStartChars (w ++ s) = w ++ s := by
  cases w with
  | nil => exact absurd rfl hne
  | cons c w => simp [trimStartChars_cons, hw.head.1]

theorem trimEndChars_concat {w : List Char} (hw : Solid w) (hne : w ≠ []) (s : List Char) :
    trimEndChars (s ++ w) = s ++ w := by
  obtain ⟨w, c, rfl⟩ : ∃ w' c, w = w' ++ [c] := ⟨_, _, (List.dropLast_concat_getLast hne).symm⟩
  have hc : isBlank c = false := (hw c (by simp)).1
  simp [trimEndChars, hc]

theorem trimStartChars_concat {w : List Char} (hw : Solid w) (s : List Char) :
    trimStartChars (s ++ w) = trimStartChars s ++ w := by
  induction s with
  | nil =>
    cases w with
    | nil => rfl
    | cons c w => simp [trimStartChars_cons, hw.head.1]
  | cons c s ih =>
    rw [List.cons_append, trimStartChars_cons, trimStartChars_cons, ih]
    split <;> rfl

theorem trimChars_append {w : List Char} (hw : Solid w) (hne : w ≠ []) (s : List Char) :
    trimChars (w ++ s) = w ++ trimEndChars s := by
  rw [trimChars, trimStartChars_append hw hne, trimEndChars_append hw]

theorem trimChars_concat {w : List Char} (hw : Solid w) (hne : w ≠ []) (s : List Char) :
    trimChars (s ++ w) = trimStartChars s ++ w := by
  rw [trimChars, trimStartChars_concat hw, trimEndChars_concat hw hne]

/-! ### Taking words off -/

/-- The text without a word at its start and without the blanks this leaves outside. -/
def withoutStart (w s : List Char) : List Char := if w.isPrefixOf s then trimChars (s.drop w.length) else s

/-- The text without a word at its end and without the blanks this leaves outside. -/
def withoutEnd (w s : List Char) : List Char :=
  if w.isSuffixOf s then trimChars (s.take (s.length - w.length)) else s

theorem withoutStart_append (w s : List Char) : withoutStart w (w ++ s) = trimChars s := by
  simp [withoutStart, List.isPrefixOf_iff_prefix]

theorem withoutEnd_concat (w s : List Char) : withoutEnd w (s ++ w) = trimChars s := by
  simp [withoutEnd, List.isSuffixOf_iff_suffix]

theorem withoutStart_of_not {w s : List Char} (h : ¬ w <+: s) : withoutStart w s = s := by
  simp [withoutStart, List.isPrefixOf_iff_prefix, h]

theorem withoutEnd_of_not {w s : List Char} (h : ¬ w <:+ s) : withoutEnd w s = s := by
  simp [withoutEnd, List.isSuffixOf_iff_suffix, h]

theorem trimChars_withoutStart {w s : List Char} (hs : trimChars s = s) :
    trimChars (withoutStart w s) = withoutStart w s := by
  unfold withoutStart
  split
  · exact trimChars_idem _
  · exact hs

theorem trimChars_withoutEnd {w s : List Char} (hs : trimChars s = s) :
    trimChars (withoutEnd w s) = withoutEnd w s := by
  unfold withoutEnd
  split
  · exact trimChars_idem _
  · exact hs

theorem withoutStart_trimChars {w : List Char} (hw : Solid w) (hne : w ≠ []) (s : List Char) :
    withoutStart w (trimChars (w ++ s)) = trimChars s := by
  rw [trimChars_append hw hne, withoutStart_append, trimChars_trimEndChars]

theorem withoutEnd_trimChars {w : List Char} (hw : Solid w) (hne : w ≠ []) (s : List Char) :
    withoutEnd w (trimChars (s ++ w)) = trimChars s := by
  rw [trimChars_concat hw hne, withoutEnd_concat, trimChars_trimStartChars]

/-- What follows a word at the start of a trimmed text has no blanks at its end. -/
theorem trimEndChars_of_trimmed {w s : List Char} (hw : Solid w) (hne : w ≠ [])
    (h : trimChars (w ++ s) = w ++ s) : trimEndChars s = s := by
  rw [trimChars_append hw hne] at h
  exact List.append_cancel_left h

/-- What precedes a word at the end of a trimmed text has no blanks at its start. -/
theorem trimStartChars_of_trimmed {w s : List Char} (hw : Solid w) (hne : w ≠ [])
    (h : trimChars (s ++ w) = s ++ w) : trimStartChars s = s := by
  rw [trimChars_concat hw hne] at h
  exact List.append_cancel_right h

/-- A text that begins with `a` and ends with `e` has room for both, unless it is both. -/
def Apart (a e : List Char) : Prop := ∀ l ∈ a.tails, l <+: e → l = [] ∨ l = a ∧ a = e

instance (a e : List Char) : Decidable (Apart a e) :=
  inferInstanceAs (Decidable (∀ l ∈ a.tails, l <+: e → l = [] ∨ l = a ∧ a = e))

theorem Apart.split {a e s : List Char} (h : Apart a e) (hs : a <+: s) (he : e <:+ s) :
    s = a ∧ a = e ∨ ∃ z, s = a ++ z ++ e := by
  obtain ⟨r, rfl⟩ := hs
  obtain ⟨x, hx⟩ := he
  rcases List.append_eq_append_iff.1 hx with ⟨l, rfl, rfl⟩ | ⟨z, rfl, rfl⟩
  · rcases h l ((List.mem_tails l _).2 (List.suffix_append x l)) (List.prefix_append l r) with rfl | ⟨hl, hr⟩
    · exact .inr ⟨[], by simp⟩
    · rw [← hl] at hr ⊢
      exact .inl ⟨hr.symm, hr⟩
  · exact .inr ⟨z, (List.append_assoc ..).symm⟩

/-- Taking a word off the start of a text leaves another at the end, where there is room for both. -/
theorem suffix_withoutStart_of_apart {a e s : List Char} (he : Solid e) (hee : e ≠ []) (h : Apart a e) (hne : a ≠ e)
    (hend : e <:+ s) : e <:+ withoutStart a s := by
  by_cases hstart : a <+: s
  · rcases h.split hstart hend with ⟨-, hc⟩ | ⟨z, rfl⟩
    · exact absurd hc hne
    · rw [List.append_assoc, withoutStart_append, trimChars_concat he hee]
      exact List.suffix_append _ e
  · rwa [withoutStart_of_not hstart]

/-- Taking a word off the start of a trimmed text leaves an end of it. -/
theorem suffix_withoutStart {a s : List Char} (ha : Solid a) (hea : a ≠ []) (hs : trimChars s = s) :
    withoutStart a s <:+ s := by
  by_cases hstart : a <+: s
  · obtain ⟨r, rfl⟩ := hstart
    have hr : trimChars r <:+ r := by
      rw [trimChars, ← trimStartChars_trimEndChars, trimEndChars_of_trimmed ha hea hs]
      exact suffix_trimStartChars r
    rw [withoutStart_append]
    exact hr.trans (List.suffix_append a r)
  · rw [withoutStart_of_not hstart]

/-- Taking a word off the end of a trimmed text leaves a start of it. -/
theorem prefix_withoutEnd {e s : List Char} (he : Solid e) (hee : e ≠ []) (hs : trimChars s = s) :
    withoutEnd e s <+: s := by
  by_cases hend : e <:+ s
  · obtain ⟨r, rfl⟩ := hend
    have hr : trimChars r <+: r := by
      rw [trimChars, trimStartChars_of_trimmed he hee hs]
      exact prefix_trimEndChars r
    rw [withoutEnd_concat]
    exact hr.trans (List.prefix_append r e)
  · rw [withoutEnd_of_not hend]

/-- Which end of a trimmed text is taken off first does not matter. -/
theorem withoutEnd_withoutStart {a e s : List Char} (ha : Solid a) (hea : a ≠ []) (he : Solid e) (hee : e ≠ [])
    (h : Apart a e) (hs : trimChars s = s) : withoutEnd e (withoutStart a s) = withoutStart a (withoutEnd e s) := by
  by_cases hstart : a <+: s
  · by_cases hend : e <:+ s
    · rcases h.split hstart hend with ⟨rfl, rfl⟩ | ⟨z, rfl⟩
      · have hself : withoutStart s s = [] ∧ withoutEnd s s = [] := by
          constructor
          · simpa using withoutStart_append s []
          · simpa using withoutEnd_concat s []
        rw [hself.1, hself.2, withoutStart_of_not (by simpa using hea), withoutEnd_of_not (by simpa using hea)]
      · rw [withoutEnd_concat, withoutStart_trimChars ha hea, List.append_assoc, withoutStart_append,
          withoutEnd_trimChars he hee]
    · rw [withoutEnd_of_not hend, withoutEnd_of_not fun hc => hend (hc.trans (suffix_withoutStart ha hea hs))]
  · rw [withoutStart_of_not hstart, withoutStart_of_not fun hc => hstart (hc.trans (prefix_withoutEnd he hee hs))]

end ScriptGlue.Text

namespace ScriptGlue.Cpp

open ScriptGlue.Text

/-! ### Tightening -/

/-- Two characters of which one is a space and the other an angle bracket with the space inside, and the bracket. -/
inductive SpaceInside : Char → Char → Char → Prop
  | opening : SpaceInside '<' ' ' '<'
  | closing : SpaceInside ' ' '>' '>'

/-- The text with `kept` for `a` before `b`. -/
def squeeze (a b kept : Char) : List Char → List Char
  | c :: d :: s => if c = a ∧ d = b then kept :: squeeze a b kept s else c :: squeeze a b kept (d :: s)
  | s => s

theorem tightenOpening_eq (s : List Char) : tightenOpening s = squeeze '<' ' ' '<' s := by
  fun_induction tightenOpening s with
  | case1 s ih => simp [squeeze, ih]
  | case2 c s h ih =>
    cases s with
    | nil => simp [squeeze, tightenOpening]
    | cons d s =>
      rw [squeeze, if_neg, ih]
      rintro ⟨rfl, rfl⟩
      exact h s rfl rfl
  | case3 => rfl

theorem tightenClosing_eq (s : List Char) : tightenClosing s = squeeze ' ' '>' '>' s := by
  fun_induction tightenClosing s with
  | case1 s ih => simp [squeeze, ih]
  | case2 c s h ih =>
    cases s with
    | nil => simp [squeeze, tightenClosing]
    | cons d s =>
      rw [squeeze, if_neg, ih]
      rintro ⟨rfl, rfl⟩
      exact h s rfl rfl
  | case3 => rfl

theorem tighten_eq (s : List Char) : tighten s = squeeze ' ' '>' '>' (squeeze '<' ' ' '<' s) := by
  rw [tighten, tightenOpening_eq, tightenClosing_eq]

theorem squeeze_eq_self {a b kept : Char} {s : List Char} (h : ¬ [a, b] <:+: s) : squeeze a b kept s = s := by
  fun_induction squeeze a b kept s with
  | case1 c d s hcd _ =>
    obtain ⟨rfl, rfl⟩ := hcd
    exact absurd (List.prefix_append [c, d] s).isInfix h
  | case2 c d s _ ih => rw [ih fun hc => h (hc.trans (List.suffix_cons c (d :: s)).isInfix)]
  | case3 => rfl

namespace SpaceInside

variable {a b kept : Char} (h : SpaceInside a b kept)

theorem squeeze_cons {c : Char} {s : List Char} (hne : c = a → b ∉ s.head?) :
    squeeze a b kept (c :: s) = c :: squeeze a b kept s := by
  cases s with
  | nil => rfl
  | cons d s =>
    rw [squeeze, if_neg]
    rintro ⟨hc, rfl⟩
    exact hne hc rfl

theorem squeeze_append_of_head {s t : List Char} (h : a ∈ s.getLast? → b ∉ t.head?) :
    squeeze a b kept (s ++ t) = squeeze a b kept s ++ squeeze a b kept t := by
  fun_induction squeeze a b kept s with
  | case1 c d s hcd ih =>
    rw [List.cons_append, List.cons_append, squeeze, if_pos hcd, List.cons_append, ih fun hs => h ?_]
    cases s with
    | nil => cases hs
    | cons e s => exact hs
  | case2 c d s hcd ih =>
    rw [List.cons_append, List.cons_append, squeeze, if_neg hcd, List.cons_append, ← ih fun hs => h hs, List.cons_append]
  | case3 s hs =>
    rcases s with _ | ⟨c, _ | ⟨d, s⟩⟩
    · rfl
    · exact squeeze_cons fun hc => h (by simp [hc])
    · exact absurd rfl (hs c d s)

theorem isEmpty_squeeze (s : List Char) : (squeeze a b kept s).isEmpty = s.isEmpty := by
  fun_cases squeeze a b kept s <;> simp

theorem squeeze_of_not_mem {s : List Char} (hs : kept ∉ squeeze a b kept s) : squeeze a b kept s = s := by
  fun_induction squeeze a b kept s with
  | case1 c d s hcd ih => simp at hs
  | case2 c d s hcd ih => rw [ih fun hm => hs (List.mem_cons_of_mem c hm)]
  | case3 => rfl

include h

/-- The kept bracket is one of the two characters, and no blank. -/
theorem kept_eq : (kept = a ∨ kept = b) ∧ isBlank kept = false := by
  cases h
  · exact ⟨.inl rfl, by decide⟩
  · exact ⟨.inr rfl, by decide⟩

theorem not_mem_solid {w : List Char} (hw : Solid w) : a ∉ w ∧ b ∉ w ∧ kept ∉ w := by
  have hspace : ' ' ∉ w := fun hm => absurd (hw _ hm).1 (by decide)
  cases h
  · exact ⟨fun hm => (hw _ hm).2.1 rfl, hspace, fun hm => (hw _ hm).2.1 rfl⟩
  · exact ⟨hspace, fun hm => (hw _ hm).2.2 rfl, fun hm => (hw _ hm).2.2 rfl⟩

theorem squeeze_append {w : List Char} (hw : Solid w) (s : List Char) :
    squeeze a b kept (w ++ s) = w ++ squeeze a b kept s := by
  induction w with
  | nil => rfl
  | cons c w ih =>
    have hc : c ≠ a := fun hc => (h.not_mem_solid hw).1 (by simp [hc])
    rw [List.cons_append, squeeze_cons fun ha => absurd ha hc, ih hw.tail, List.cons_append]

theorem squeeze_concat {w : List Char} (hw : Solid w) (s : List Char) :
    squeeze a b kept (s ++ w) = squeeze a b kept s ++ w := by
  have hself : squeeze a b kept w = w := by simpa [squeeze] using h.squeeze_append hw []
  fun_induction squeeze a b kept s with
  | case1 c d s hcd ih =>
    obtain ⟨rfl, rfl⟩ := hcd
    simp [squeeze, ih]
  | case2 c d s hcd ih =>
    rw [List.cons_append, List.cons_append, squeeze, if_neg hcd, List.cons_append, ← ih, List.cons_append]
  | case3 s hs =>
    rcases s with _ | ⟨c, _ | ⟨d, s⟩⟩
    · exact hself
    · have hb : b ∉ w.head? := fun hm => (h.not_mem_solid hw).2.1 (List.mem_of_mem_head? hm)
      rw [List.singleton_append, squeeze_cons fun _ => hb, hself]
    · exact absurd rfl (hs c d s)

theorem squeeze_sublist (s : List Char) : (squeeze a b kept s).Sublist s := by
  fun_induction squeeze a b kept s with
  | case1 c d s hcd ih =>
    obtain ⟨rfl, rfl⟩ := hcd
    rcases h.kept_eq.1 with rfl | rfl
    · exact (ih.cons _).cons_cons _
    · exact (ih.cons_cons _).cons _
  | case2 c d s hcd ih => exact ih.cons_cons _
  | case3 s hs => exact List.Sublist.refl s

theorem trimStartChars_squeeze (s : List Char) :
    trimStartChars (squeeze a b kept s) = squeeze a b kept (trimStartChars s) := by
  have hlt : isBlank '<' = false := by decide
  have hgt : isBlank '>' = false := by decide
  have hsp : isBlank ' ' = true := by decide
  fun_induction squeeze a b kept s with
  | case1 c d s hcd ih =>
    obtain ⟨rfl, rfl⟩ := hcd
    cases h
    · simp [trimStartChars_cons, hlt, squeeze]
    · simp [trimStartChars_cons, hsp, hgt, squeeze_cons]
  | case2 c d s hcd ih =>
    rw [trimStartChars_cons, trimStartChars_cons, ih]
    split
    · rfl
    · rw [squeeze, if_neg hcd]
  | case3 s hs =>
    rcases s with _ | ⟨c, _ | ⟨d, s⟩⟩
    · rfl
    · cases hc : isBlank c <;> simp [trimStartChars_cons, hc, squeeze]
    · exact absurd rfl (hs c d s)

theorem trimEndChars_squeeze (s : List Char) :
    trimEndChars (squeeze a b kept s) = squeeze a b kept (trimEndChars s) := by
  have hlt : isBlank '<' = false := by decide
  have hgt : isBlank '>' = false := by decide
  have hsp : isBlank ' ' = true := by decide
  fun_induction squeeze a b kept s with
  | case1 c d s hcd ih =>
    obtain ⟨rfl, rfl⟩ := hcd
    rw [trimEndChars_cons, ih, trimEndChars_cons, trimEndChars_cons]
    cases h
    · cases trimEndChars s <;> simp [hlt, hsp, squeeze]
    · simp [hgt, squeeze]
  | case2 c d s hcd ih =>
    rw [trimEndChars_cons, ih, trimEndChars_cons c (d :: s), isEmpty_squeeze]
    split
    · rfl
    · refine (squeeze_cons fun hc hb => ?_).symm
      obtain ⟨t, ht⟩ := List.head?_eq_some_iff.1 hb
      obtain ⟨t', ht'⟩ := eq_cons_of_trimEndChars ht
      exact hcd ⟨hc, (List.cons.inj ht').1⟩
  | case3 s hs =>
    rcases s with _ | ⟨c, _ | ⟨d, s⟩⟩
    · rfl
    · cases hc : isBlank c <;> simp [trimEndChars_cons, hc, squeeze]
    · exact absurd rfl (hs c d s)

theorem trimChars_squeeze (s : List Char) : trimChars (squeeze a b kept s) = squeeze a b kept (trimChars s) := by
  rw [trimChars, h.trimStartChars_squeeze, h.trimEndChars_squeeze, trimChars]

theorem prefix_of_prefix_squeeze {w s : List Char} (hw : Solid w) (hs : w <+: squeeze a b kept s) : w <+: s := by
  induction w generalizing s with
  | nil => exact List.nil_prefix
  | cons c w ih =>
    fun_cases squeeze a b kept s with
    | case1 c' d s hcd =>
      rw [squeeze, if_pos hcd, List.cons_prefix_cons] at hs
      exact absurd hs.1 fun hc => (h.not_mem_solid hw).2.2 (by simp [hc])
    | case2 c' d s hcd =>
      rw [squeeze, if_neg hcd, List.cons_prefix_cons] at hs
      exact List.cons_prefix_cons.2 ⟨hs.1, ih hw.tail hs.2⟩
    | case3 s hne => rwa [squeeze] at hs; exact hne

theorem suffix_of_suffix_squeeze {w s : List Char} (hw : Solid w) (hs : w <:+ squeeze a b kept s) : w <:+ s := by
  have hkept : kept ∉ w := (h.not_mem_solid hw).2.2
  fun_induction squeeze a b kept s with
  | case1 c d s hcd ih =>
    rcases List.suffix_cons_iff.1 hs with rfl | hs
    · simp at hkept
    · exact (ih hs).trans ((List.suffix_cons _ _).trans (List.suffix_cons _ _))
  | case2 c d s hcd ih =>
    rcases List.suffix_cons_iff.1 hs with rfl | hs
    · rw [squeeze_of_not_mem fun hm => hkept (List.mem_cons_of_mem c hm)]
    · exact (ih hs).trans (List.suffix_cons _ _)
  | case3 => exact hs

end SpaceInside

/-! ### What tightening keeps -/

theorem tighten_append {w : List Char} (hw : Solid w) (s : List Char) : tighten (w ++ s) = w ++ tighten s := by
  rw [tighten_eq, SpaceInside.opening.squeeze_append hw, SpaceInside.closing.squeeze_append hw, tighten_eq]

theorem tighten_concat {w : List Char} (hw : Solid w) (s : List Char) : tighten (s ++ w) = tighten s ++ w := by
  rw [tighten_eq, SpaceInside.opening.squeeze_concat hw, SpaceInside.closing.squeeze_concat hw, tighten_eq]

theorem tighten_of_solid {w : List Char} (hw : Solid w) : tighten w = w := by
  simpa [tighten, tightenOpening, tightenClosing] using tighten_append hw []

theorem tighten_sublist (s : List Char) : (tighten s).Sublist s := by
  rw [tighten_eq]
  exact (SpaceInside.closing.squeeze_sublist _).trans (SpaceInside.opening.squeeze_sublist s)

/-- Outer blanks can be taken off before or after the spaces inside angle brackets. -/
theorem trimChars_tighten (s : List Char) : trimChars (tighten s) = tighten (trimChars s) := by
  rw [tighten_eq, SpaceInside.closing.trimChars_squeeze, SpaceInside.opening.trimChars_squeeze, tighten_eq]

theorem prefix_tighten_iff {w s : List Char} (hw : Solid w) : w <+: tighten s ↔ w <+: s := by
  constructor
  · intro h
    rw [tighten_eq] at h
    exact SpaceInside.opening.prefix_of_prefix_squeeze hw (SpaceInside.closing.prefix_of_prefix_squeeze hw h)
  · rintro ⟨r, rfl⟩
    rw [tighten_append hw]
    exact List.prefix_append _ _

theorem suffix_tighten_iff {w s : List Char} (hw : Solid w) : w <:+ tighten s ↔ w <:+ s := by
  constructor
  · intro h
    rw [tighten_eq] at h
    exact SpaceInside.opening.suffix_of_suffix_squeeze hw (SpaceInside.closing.suffix_of_suffix_squeeze hw h)
  · rintro ⟨r, rfl⟩
    rw [tighten_concat hw]
    exact List.suffix_append _ _

theorem withoutStart_tighten {w s : List Char} (hw : Solid w) :
    withoutStart w (tighten s) = tighten (withoutStart w s) := by
  by_cases h : w <+: s
  · obtain ⟨r, rfl⟩ := h
    rw [tighten_append hw, withoutStart_append, withoutStart_append, trimChars_tighten]
  · rw [withoutStart_of_not h, withoutStart_of_not fun hc => h ((prefix_tighten_iff hw).1 hc)]

theorem withoutEnd_tighten {w s : List Char} (hw : Solid w) :
    withoutEnd w (tighten s) = tighten (withoutEnd w s) := by
  by_cases h : w <:+ s
  · obtain ⟨r, rfl⟩ := h
    rw [tighten_concat hw, withoutEnd_concat, withoutEnd_concat, trimChars_tighten]
  · rw [withoutEnd_of_not h, withoutEnd_of_not fun hc => h ((suffix_tighten_iff hw).1 hc)]

end ScriptGlue.Cpp
