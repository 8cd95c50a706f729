import ScriptGlue.Proofs.Spacing
import ScriptGlue.Symbol.Directive

/-!
# Directives in one pass

Directives are found and cut out one at a time, and after each cut the text is read again from its beginning. It comes
to one scan from left to right (`scan`), which is inside brackets from an opening bracket up to the first closing one.
A cut takes one span out, besides blanks and a period that stand outside all spans, so the scan of what is left meets
the other spans as before (`spans_joinAround`). **`applyText_eq_onePass`** says that a text has the effect of the
directives that one scan meets, and that what is left of it has none.
-/

namespace ScriptGlue.Directive

open ScriptGlue.Text

/-! ### One scan -/

/-- Where a scan of a text is. -/
inductive Place where
  /-- Outside the brackets. -/
  | outside
  /-- Inside brackets, after the given characters. -/
  | inside (read : List Char)
  deriving DecidableEq, Repr

/-- The place after one more character, and the span that ends with it. -/
def Place.next : Place → Char → Place × Option (List Char)
  | .outside, c => (if c = '[' then .inside [] else .outside, none)
  | .inside read, c => if c = ']' then (.outside, some read) else (.inside (read ++ [c]), none)

/-- The place after a text, and the spans that end in it. -/
def scan : Place → List Char → Place × List (List Char)
  | p, [] => (p, [])
  | p, c :: s => ((scan (p.next c).1 s).1, (p.next c).2.toList ++ (scan (p.next c).1 s).2)

/-- The spans in brackets of a text. -/
def spans (s : List Char) : List (List Char) := (scan .outside s).2

theorem scan_append (p : Place) (s t : List Char) :
    scan p (s ++ t) = ((scan (scan p s).1 t).1, (scan p s).2 ++ (scan (scan p s).1 t).2) := by
  induction s generalizing p with
  | nil => rfl
  | cons c s ih => rw [List.cons_append, scan, ih, scan, List.append_assoc]

/-- Without an opening bracket a scan stays outside. -/
theorem scan_outside {s : List Char} (h : '[' ∉ s) : scan .outside s = (.outside, []) := by
  induction s with
  | nil => rfl
  | cons c s ih =>
    obtain ⟨hc, hs⟩ := List.ne_and_not_mem_of_not_mem_cons h
    have hnext : Place.next .outside c = (.outside, none) := by simp [Place.next, Ne.symm hc]
    rw [scan, hnext, ih hs]
    rfl

/-- Without a closing bracket a scan stays inside. -/
theorem scan_inside {s : List Char} (read : List Char) (h : ']' ∉ s) : scan (.inside read) s = (.inside (read ++ s), []) := by
  induction s generalizing read with
  | nil => rw [scan, List.append_nil]
  | cons c s ih =>
    obtain ⟨hc, hs⟩ := List.ne_and_not_mem_of_not_mem_cons h
    have hnext : Place.next (.inside read) c = (.inside (read ++ [c]), none) := by simp [Place.next, Ne.symm hc]
    rw [scan, hnext, ih _ hs, List.append_assoc]
    rfl

/-- A scan meets a span after some text without brackets. -/
theorem scan_span {before inner : List Char} (hbefore : '[' ∉ before) (hinner : ']' ∉ inner) (after : List Char) :
    scan .outside (before ++ '[' :: inner ++ ']' :: after) =
      ((scan .outside after).1, inner :: (scan .outside after).2) := by
  have hopening : scan .outside (before ++ '[' :: inner) = (.inside inner, []) := by
    have hinside : Place.next .outside '[' = (.inside [], none) := by simp [Place.next]
    rw [scan_append, scan_outside hbefore, scan, hinside, scan_inside [] hinner]
    rfl
  have hclosing : Place.next (.inside inner) ']' = (.outside, some inner) := by simp [Place.next]
  rw [scan_append, hopening, scan, hclosing]
  rfl

/-- No span ends where there is no closing bracket. -/
theorem scan_of_not_mem {s : List Char} (p : Place) (h : ']' ∉ s) : (scan p s).2 = [] := by
  induction s generalizing p with
  | nil => rfl
  | cons c s ih =>
    obtain ⟨hc, hs⟩ := List.ne_and_not_mem_of_not_mem_cons h
    have hnext : (p.next c).2 = none := by
      cases p with
      | outside => rfl
      | inside read => simp [Place.next, Ne.symm hc]
    rw [scan, hnext, ih _ hs]
    rfl

theorem spans_append {s t : List Char} (h : (scan .outside s).1 = .outside) : spans (s ++ t) = spans s ++ spans t := by
  rw [spans, scan_append, h, spans, spans]

/-- The spans of a text around one of them. -/
theorem spans_around {before inner : List Char} (hbefore : (scan .outside before).1 = .outside) (hinner : ']' ∉ inner)
    (after : List Char) : spans (before ++ '[' :: inner ++ ']' :: after) = spans before ++ inner :: spans after := by
  have hspan : scan .outside ('[' :: inner ++ ']' :: after) = ((scan .outside after).1, inner :: (scan .outside after).2) :=
    scan_span List.not_mem_nil hinner after
  rw [List.append_assoc, spans_append hbefore, spans, spans, hspan, spans]

/-- A beginning without brackets adds no span. -/
theorem spans_append_of_not_mem {s t : List Char} (h : '[' ∉ s) : spans (s ++ t) = spans t := by
  have hs := scan_outside h
  rw [spans_append (by rw [hs]), spans, hs, List.nil_append]

/-- An end without brackets adds no span. -/
theorem spans_concat_of_not_mem {s t : List Char} (h : ']' ∉ t) : spans (s ++ t) = spans s := by
  rw [spans, scan_append, scan_of_not_mem _ h, List.append_nil, spans]

/-- A scan that is outside the brackets after some text without brackets was outside before it. -/
theorem scan_eq_outside {p : Place} {s : List Char} (h : ']' ∉ s) (hout : (scan p s).1 = .outside) : p = .outside := by
  cases p with
  | outside => rfl
  | inside read =>
    rw [scan_inside read h] at hout
    cases hout

/-! ### Blanks and periods are outside the spans -/

theorem spans_trimStartChars (s : List Char) : spans (trimStartChars s) = spans s := by
  obtain ⟨w, hw, hs⟩ := exists_blanks_start s
  conv_rhs => rw [hs]
  exact (spans_append_of_not_mem (not_mem_of_blank (by decide) hw)).symm

theorem spans_trimEndChars (s : List Char) : spans (trimEndChars s) = spans s := by
  obtain ⟨w, hw, hs⟩ := exists_blanks_end s
  conv_rhs => rw [hs]
  exact (spans_concat_of_not_mem (not_mem_of_blank (by decide) hw)).symm

theorem spans_trimChars (s : List Char) : spans (trimChars s) = spans s := by
  rw [trimChars, spans_trimEndChars, spans_trimStartChars]

/-- A scan that is outside after a text is outside before the blanks at its end. -/
theorem scan_trimEndChars {s : List Char} (h : (scan .outside s).1 = .outside) :
    (scan .outside (trimEndChars s)).1 = .outside := by
  obtain ⟨w, hw, hs⟩ := exists_blanks_end s
  rw [hs, scan_append] at h
  exact scan_eq_outside (not_mem_of_blank (by decide) hw) h

/-- What follows a span, without the period that ends its sentence. -/
def withoutPeriod (after : List Char) : List Char :=
  let after := trimStartChars after
  match after with
  | '.' :: rest => trimStartChars rest
  | _ => if after.getLast? == some '.' && after.count '.' == 1 then trimEndChars after.dropLast else after

theorem joinAround_eq (before after : List Char) :
    joinAround before after =
      if (trimEndChars before).isEmpty then trimChars (withoutPeriod after)
      else if (withoutPeriod after).isEmpty then trimChars (trimEndChars before)
      else trimEndChars before ++ ' ' :: withoutPeriod after := rfl

/-- Taking the period off takes no span off. -/
theorem spans_withoutPeriod (after : List Char) : spans (withoutPeriod after) = spans after := by
  rw [← spans_trimStartChars after, withoutPeriod]
  generalize trimStartChars after = s
  split
  · next rest =>
    rw [spans_trimStartChars, ← List.singleton_append, spans_append_of_not_mem (by decide)]
  · split
    · next hlast =>
      rw [Bool.and_eq_true, beq_iff_eq] at hlast
      have hs : s = s.dropLast ++ ['.'] := (List.dropLast_append_getLast? '.' hlast.1).symm
      rw [spans_trimEndChars]
      conv_rhs => rw [hs, spans_concat_of_not_mem (by decide)]
    · rfl

/-- **A cut leaves the spans around it as they are.** -/
theorem spans_joinAround {before : List Char} (h : (scan .outside before).1 = .outside) (after : List Char) :
    spans (joinAround before after) = spans before ++ spans after := by
  have hbefore : spans (trimEndChars before) = spans before := spans_trimEndChars before
  rw [joinAround_eq]
  split
  · next hempty =>
    rw [List.isEmpty_iff] at hempty
    rw [hempty] at hbefore
    rw [spans_trimChars, spans_withoutPeriod, ← hbefore]
    rfl
  split
  · next hempty =>
    have hafter := spans_withoutPeriod after
    rw [List.isEmpty_iff.1 hempty] at hafter
    rw [spans_trimChars, hbefore, ← hafter]
    exact (List.append_nil _).symm
  · rw [spans_append (scan_trimEndChars h), hbefore, ← List.singleton_append (l := withoutPeriod after),
      spans_append_of_not_mem (by decide), spans_withoutPeriod]

/-! ### Trimmed texts stay trimmed -/

theorem trimEndChars_trimStartChars_of_eq {s : List Char} (h : trimEndChars s = s) :
    trimEndChars (trimStartChars s) = trimStartChars s := by
  rw [← trimStartChars_trimEndChars, h]

theorem trimEndChars_withoutPeriod {after : List Char} (h : trimEndChars after = after) :
    trimEndChars (withoutPeriod after) = withoutPeriod after := by
  have hs := trimEndChars_trimStartChars_of_eq h
  rw [withoutPeriod]
  generalize trimStartChars after = s at hs
  split
  · next rest =>
    rw [← List.singleton_append] at hs
    exact trimEndChars_trimStartChars_of_eq (trimEndChars_of_append hs)
  · split
    · exact trimEndChars_idem _
    · exact hs

/-- **A cut leaves a trimmed text trimmed.** -/
theorem trimChars_joinAround {before middle after : List Char}
    (h : trimChars (before ++ middle ++ after) = before ++ middle ++ after) :
    trimChars (joinAround before after) = joinAround before after := by
  have hstart : trimStartChars (trimEndChars before) = trimEndChars before := by
    have hwhole := trimStartChars_of_trimChars h
    rw [List.append_assoc] at hwhole
    rw [trimStartChars_trimEndChars, trimStartChars_of_append hwhole]
  have hend : trimEndChars (withoutPeriod after) = withoutPeriod after := by
    refine trimEndChars_withoutPeriod (trimEndChars_of_append (s := before ++ middle) ?_)
    rwa [trimChars, trimStartChars_of_trimChars h] at h
  rw [joinAround_eq]
  split
  · exact trimChars_idem _
  split
  · exact trimChars_idem _
  · next hbefore hafter =>
    rw [List.isEmpty_iff] at hbefore hafter
    have hrest : trimEndChars (' ' :: withoutPeriod after) = ' ' :: withoutPeriod after :=
      trimEndChars_append_of_ne_nil hafter hend [' ']
    rw [trimChars, trimStartChars_append_of_ne_nil hbefore hstart]
    exact trimEndChars_append_of_ne_nil (List.cons_ne_nil _ _) hrest _

/-! ### The restarting search -/

theorem cutFirst_singleton {c : Char} {s : List Char} :
    (∀ before after, cutFirst [c] s = some (before, after) → s = before ++ c :: after ∧ c ∉ before) ∧
      (cutFirst [c] s = none → c ∉ s) := by
  induction s with
  | nil => simp [cutFirst]
  | cons d s ih =>
    by_cases hd : c = d
    · subst hd
      simp [cutFirst]
    · rw [cutFirst_cons hd]
      constructor
      · intro before after h
        obtain ⟨⟨b, a⟩, hfound, heq⟩ := Option.map_eq_some_iff.1 h
        cases heq
        obtain ⟨rfl, hmem⟩ := ih.1 b _ hfound
        exact ⟨rfl, List.not_mem_cons_of_ne_of_not_mem hd hmem⟩
      · intro h
        exact List.not_mem_cons_of_ne_of_not_mem hd (ih.2 (Option.map_eq_none_iff.1 h))

/-- The first span of a text is the first that a scan meets. -/
theorem eq_of_nextSpan? {s before inner after : List Char} (h : nextSpan? s = some (before, inner, after)) :
    s = before ++ '[' :: inner ++ ']' :: after ∧ '[' ∉ before ∧ ']' ∉ inner := by
  simp only [nextSpan?, Option.bind_eq_some_iff, Option.map_eq_some_iff, Prod.exists, Prod.mk.injEq] at h
  obtain ⟨b, rest, hopen, i, a, hclose, rfl, rfl, rfl⟩ := h
  obtain ⟨rfl, hb⟩ := cutFirst_singleton.1 _ _ hopen
  obtain ⟨rfl, hi⟩ := cutFirst_singleton.1 _ _ hclose
  exact ⟨by simp, hb, hi⟩

theorem spans_eq_nil_of_nextSpan? {s : List Char} (h : nextSpan? s = none) : spans s = [] := by
  unfold nextSpan? at h
  cases hopen : cutFirst ['['] s with
  | none => rw [spans, scan_outside (cutFirst_singleton.2 hopen)]
  | some parts =>
    obtain ⟨before, rest⟩ := parts
    obtain ⟨rfl, hbefore⟩ := cutFirst_singleton.1 _ _ hopen
    rw [hopen, Option.bind_some, Option.map_eq_none_iff] at h
    rw [spans_append_of_not_mem hbefore, spans, scan]
    exact scan_of_not_mem _ (cutFirst_singleton.2 h)

/-- What stands before the first directive is scanned to the outside, and no span in it is a directive. -/
theorem eq_of_first? {s before after : List Char} {d : Directive} (h : first? s = some (before, d, after)) :
    ∃ inner, s = before ++ '[' :: inner ++ ']' :: after ∧ ']' ∉ inner ∧ ofSpan? inner = some d ∧
      (scan .outside before).1 = .outside ∧ ∀ span ∈ spans before, ofSpan? span = none := by
  fun_induction first? s generalizing before after d with
  | case1 => cases h
  | case2 s b i a hspan hlen e he =>
    cases h
    obtain ⟨hs, hb, hi⟩ := eq_of_nextSpan? hspan
    have hscan := scan_outside hb
    refine ⟨i, hs, hi, he, by rw [hscan], fun span hmem => ?_⟩
    rw [spans, hscan] at hmem
    cases hmem
  | case3 s b i a hspan hlen he ih =>
    simp only [Option.map_eq_some_iff, Prod.exists, Prod.mk.injEq] at h
    obtain ⟨b', d', a', hfirst, rfl, rfl, rfl⟩ := h
    obtain ⟨hs, hb, hi⟩ := eq_of_nextSpan? hspan
    obtain ⟨inner, rfl, hinner, hd, hplace, hnone⟩ := ih hfirst
    have hscan := scan_span hb hi b'
    refine ⟨inner, by simp [hs], hinner, hd, by rw [hscan, hplace], ?_⟩
    rw [spans, hscan, List.forall_mem_cons]
    exact ⟨he, hnone⟩

theorem ofSpan?_of_first?_eq_none {s : List Char} (h : first? s = none) : ∀ span ∈ spans s, ofSpan? span = none := by
  fun_induction first? s with
  | case1 s hspan =>
    rw [spans_eq_nil_of_nextSpan? hspan]
    simp
  | case2 => cases h
  | case3 s b i a hspan hlen he ih =>
    obtain ⟨rfl, hb, hi⟩ := eq_of_nextSpan? hspan
    rw [spans, scan_span hb hi, List.forall_mem_cons]
    exact ⟨he, ih (Option.map_eq_none_iff.1 h)⟩

/-- **One pass.** The directives found by searching again after every cut are those that one scan meets, in its order,
and the text that is left has the other spans and none that is a directive. -/
theorem extractFrom_spec (s : List Char) :
    (extractFrom s).1 = (spans s).filterMap ofSpan? ∧
      spans (extractFrom s).2 = (spans s).filter fun span => (ofSpan? span).isNone := by
  fun_induction extractFrom s with
  | case1 s h =>
    have hnone := ofSpan?_of_first?_eq_none h
    constructor
    · exact (List.filterMap_eq_nil_iff.2 hnone).symm
    · refine (List.filter_eq_self.2 fun span hspan => ?_).symm
      rw [hnone span hspan]
      rfl
  | case2 s before d after hfirst hlen hjoin later rest hrest ih =>
    obtain ⟨inner, rfl, hinner, hd, hplace, hnone⟩ := eq_of_first? hfirst
    rw [hrest, spans_joinAround hplace] at ih
    have hdropped : (spans before).filterMap ofSpan? = [] := List.filterMap_eq_nil_iff.2 hnone
    rw [spans_around hplace hinner]
    constructor
    · simpa [hdropped, hd] using ih.1
    · simpa [hd] using ih.2

theorem trimChars_extractFrom {s : List Char} (h : trimChars s = s) : trimChars (extractFrom s).2 = (extractFrom s).2 := by
  fun_induction extractFrom s with
  | case1 => exact h
  | case2 s before d after hfirst hlen hjoin later rest hrest ih =>
    obtain ⟨inner, rfl, -⟩ := eq_of_first? hfirst
    have hmiddle : trimChars (before ++ ('[' :: inner ++ [']']) ++ after) = before ++ ('[' :: inner ++ [']']) ++ after := by
      simpa using h
    rw [hrest] at ih
    exact ih (trimChars_joinAround hmiddle)

theorem extractFrom_of_first?_eq_none {s : List Char} (h : first? s = none) : extractFrom s = ([], s) := by
  unfold extractFrom
  split
  · rfl
  · next hfound =>
    rw [h] at hfound
    cases hfound

/-- A trimmed text without directives is left as it is. -/
theorem extract_of_none {text : String} (htrim : trim text = text) (h : ∀ span ∈ spans text.toList, ofSpan? span = none) :
    extract text = ([], text) := by
  have hchars : trimChars text.toList = text.toList := by
    rw [← String.toList_ofList (l := trimChars text.toList)]
    exact congrArg String.toList htrim
  have hfirst : first? text.toList = none := by
    cases hfound : first? text.toList with
    | none => rfl
    | some parts =>
      obtain ⟨before, d, after⟩ := parts
      obtain ⟨inner, hs, hinner, hd, hplace, -⟩ := eq_of_first? hfound
      have hmem : inner ∈ spans text.toList := by
        rw [hs, spans_around hplace hinner]
        exact List.mem_append_right _ List.mem_cons_self
      rw [h inner hmem] at hd
      cases hd
  rw [extract, hchars, extractFrom_of_first?_eq_none hfirst]
  exact congrArg (Prod.mk []) String.ofList_toList

/-- **The directives of a text are those that one scan meets.** Though the text is searched again after every cut, a
symbol and the groups become what the directives among the spans of the trimmed text make of them, each once and in
their order. What is left is trimmed and has the other spans, none of which is a directive; so the directives of what
is left change nothing, neither it nor any symbol and groups. -/
theorem applyText_eq_onePass (sibling? : String → Option String) (text : String) (state : Symbol × OverloadGroups) :
    (applyText sibling? text state).2 =
        ((spans (trimChars text.toList)).filterMap ofSpan?).foldl (apply sibling?) state ∧
      trim (applyText sibling? text state).1 = (applyText sibling? text state).1 ∧
      spans (applyText sibling? text state).1.toList =
        ((spans (trimChars text.toList)).filter fun span => (ofSpan? span).isNone) ∧
      (∀ span ∈ spans (applyText sibling? text state).1.toList, ofSpan? span = none) ∧
      ∀ (sibling?' : String → Option String) (state' : Symbol × OverloadGroups),
        applyText sibling?' (applyText sibling? text state).1 state' = ((applyText sibling? text state).1, state') := by
  obtain ⟨hfound, hrest⟩ := extractFrom_spec (trimChars text.toList)
  have htext : (applyText sibling? text state).1 = String.ofList (extractFrom (trimChars text.toList)).2 := rfl
  have htrim : trim (applyText sibling? text state).1 = (applyText sibling? text state).1 := by
    rw [htext, trim, String.toList_ofList, trimChars_extractFrom (trimChars_idem _)]
  have hspans : spans (applyText sibling? text state).1.toList =
      ((spans (trimChars text.toList)).filter fun span => (ofSpan? span).isNone) := by
    rw [htext, String.toList_ofList, hrest]
  have hnone : ∀ span ∈ spans (applyText sibling? text state).1.toList, ofSpan? span = none := by
    intro span hspan
    rw [hspans] at hspan
    exact Option.isNone_iff_eq_none.1 (List.mem_filter.1 hspan).2
  refine ⟨?_, htrim, hspans, hnone, fun sibling?' state' => ?_⟩
  · rw [← hfound]
    rfl
  · rw [applyText, extract_of_none htrim hnone]
    rfl

/-- A directive may stand inside other brackets, and what follows it need not be closed. -/
example : extract "See [x [hideindex] y]. [Category: Maths] [open." = ([.category "Maths"], "See [x [hideindex] y]. [open") := by
  decide +kernel

end ScriptGlue.Directive
