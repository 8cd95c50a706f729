import Mathlib.Logic.Function.Iterate
import ScriptGlue.Proofs.OneRound
import ScriptGlue.Proofs.Respacing

/-!
# The names that spellings denote

A type is a qualified name, or a container of a type, with `const` and a mark around it (`TypeTree`). It is spelled with
blanks between these parts (`TypeTree.Spells`). The rules only look at the ends of a spelling, but they see all of it: what
they do about spaces reaches into the arguments of templates. **`ofText_of_spells`** says that they find the name that the
type denotes all the same, and what stands around it at the top.
-/

namespace ScriptGlue.Cpp

open ScriptGlue.Text

/-! ### Tightening between brackets -/

/-- A space behind an opening bracket is an outer blank of what the bracket opens. -/
theorem squeeze_opening (inner : List Char) :
    ∃ i, squeeze '<' ' ' '<' ('<' :: inner ++ ['>']) = '<' :: squeeze '<' ' ' '<' i ++ ['>'] ∧
      trimChars i = trimChars inner := by
  have hclose : ∀ i, squeeze '<' ' ' '<' (i ++ ['>']) = squeeze '<' ' ' '<' i ++ ['>'] :=
    fun i => SpaceInside.squeeze_append_of_head fun _ => by decide
  by_cases hspace : ' ' ∈ inner.head?
  · obtain ⟨i, rfl⟩ := List.head?_eq_some_iff.1 hspace
    refine ⟨i, by simp [squeeze, hclose], ?_⟩
    exact (trimChars_blanks_append (u := [' ']) (List.all_eq_true.1 (by decide)) i).symm
  · refine ⟨inner, ?_, rfl⟩
    rw [List.cons_append, SpaceInside.squeeze_cons fun _ => ?_, hclose, List.cons_append]
    cases inner with
    | nil => decide
    | cons c inner => exact hspace

/-- A space before a closing bracket is an outer blank of what the bracket closes. -/
theorem squeeze_closing (inner : List Char) :
    ∃ i, squeeze ' ' '>' '>' ('<' :: inner ++ ['>']) = '<' :: squeeze ' ' '>' '>' i ++ ['>'] ∧
      trimChars i = trimChars inner := by
  rw [List.cons_append, SpaceInside.squeeze_cons fun hc => absurd hc (by decide)]
  by_cases hspace : ' ' ∈ inner.getLast?
  · obtain ⟨i, rfl⟩ := List.getLast?_eq_some_iff.1 hspace
    refine ⟨i, ?_, (trimChars_append_blanks i (v := [' ']) (List.all_eq_true.1 (by decide))).symm⟩
    rw [List.append_assoc, SpaceInside.squeeze_append_of_head fun _ => by decide]
    rfl
  · exact ⟨inner, by rw [SpaceInside.squeeze_append_of_head fun hc => absurd hc hspace]; rfl, rfl⟩

/-- What stands between brackets is tightened as if it stood alone, but for its outer blanks. -/
theorem tighten_brackets (inner : List Char) :
    ∃ x, tighten ('<' :: inner ++ ['>']) = '<' :: x ++ ['>'] ∧ trimChars x = tighten (trimChars inner) := by
  obtain ⟨i, hi, htrim⟩ := squeeze_opening inner
  obtain ⟨j, hj, htrim'⟩ := squeeze_closing (squeeze '<' ' ' '<' i)
  refine ⟨squeeze ' ' '>' '>' j, by rw [tighten_eq, hi, hj], ?_⟩
  rw [SpaceInside.closing.trimChars_squeeze, htrim', SpaceInside.opening.trimChars_squeeze, htrim, tighten_eq]

/-- What is left of a spelling that has been tightened any number of times. -/
theorem core_iterate_tighten (n : Nat) (s : List Char) :
    core (String.ofList (tighten^[n] s)) = tighten^[n + 1] (strip (trimChars s)) := by
  have htrim : Function.Commute trimChars tighten := trimChars_tighten
  have hstrip : Function.Commute strip tighten := strip_tighten
  rw [core, String.toList_ofList, htrim.iterate_right n s, hstrip.iterate_right n (trimChars s), Function.iterate_succ_apply']

theorem iterate_tighten_template {w : List Char} (hw : Solid w) (inner : List Char) (n : Nat) :
    ∃ x, tighten^[n] (w ++ ('<' :: inner ++ ['>'])) = w ++ ('<' :: x ++ ['>']) ∧
      trimChars x = tighten^[n] (trimChars inner) := by
  induction n with
  | zero => exact ⟨inner, rfl, rfl⟩
  | succ n ih =>
    obtain ⟨x, hx, htrim⟩ := ih
    obtain ⟨y, hy, htrim'⟩ := tighten_brackets x
    refine ⟨y, ?_, ?_⟩
    · rw [Function.iterate_succ_apply', hx, tighten_append hw, hy]
    · rw [Function.iterate_succ_apply', ← htrim, htrim']

/-! ### Types -/

/-- A letter, a digit or an underscore, in ASCII. -/
def isNameChar (c : Char) : Bool :=
  let within (first last : Char) := first.toNat ≤ c.toNat && c.toNat ≤ last.toNat
  within 'a' 'z' || within 'A' 'Z' || within '0' '9' || c == '_'

/-- A name without its qualification, or a part of one. -/
structure IsWord (w : String) : Prop where
  ne_empty : w ≠ ""
  chars : ∀ c ∈ w.toList, isNameChar c = true

instance (w : String) : Decidable (IsWord w) :=
  decidable_of_iff (w ≠ "" ∧ w.toList.all isNameChar = true)
    ⟨fun ⟨hne, hchars⟩ => ⟨hne, List.all_eq_true.1 hchars⟩, fun ⟨hne, hchars⟩ => ⟨hne, List.all_eq_true.2 hchars⟩⟩

/-- The characters of a qualified name. -/
def qualifiedChars (qualifiers : List String) (name : String) : List Char :=
  qualifiers.flatMap (fun q => q.toList ++ "::".toList) ++ name.toList

/-- A qualified name in which no rule but the one for qualifications finds anything to do. -/
structure QualifiedName where
  qualifiers : List String
  name : String
  words : ∀ w ∈ qualifiers ++ [name], IsWord w
  notConst : ¬ constWord <+: qualifiedChars qualifiers name
  notScoped : ¬ "AttributeChange".toList <+: qualifiedChars qualifiers name
  notMarked : ¬ constWord <:+ name.toList
  notAlias : name ∉ ["vec", "Key", "KeySequence"]

/-- The characters of the name. -/
def QualifiedName.chars (q : QualifiedName) : List Char := qualifiedChars q.qualifiers q.name

/-- The mark behind a type. -/
inductive Mark where
  | none
  | reference
  | pointer
  deriving DecidableEq

/-- The characters of a mark. -/
def Mark.chars : Mark → List Char
  | none => []
  | reference => referenceMark
  | pointer => pointerMark

/-- What may stand around a type. -/
structure Decor where
  /-- A `const` stands before the type. -/
  leading : Bool
  /-- A `const` stands behind the type. -/
  trailing : Bool
  mark : Mark

/-- The templates that are containers. -/
inductive Container where
  | vector
  | sharedPtr

/-- The name of the template. -/
def Container.keyword : Container → String
  | vector => "Vector"
  | sharedPtr => "SharedPtr"

/-- The characters of the template with its argument. -/
def Container.chars (c : Container) (inner : List Char) : List Char := c.keyword.toList ++ ('<' :: inner ++ ['>'])

/-- What the template adds to the name of its argument. -/
def Container.suffix : Container → String
  | vector => "Vector"
  | sharedPtr => "Ptr"

/-- A type with what stands around it. -/
inductive TypeTree where
  | name (decor : Decor) (q : QualifiedName)
  | container (decor : Decor) (c : Container) (argument : TypeTree)

namespace TypeTree

/-- What stands around the type. -/
def decor : TypeTree → Decor
  | name d _ => d
  | container d _ _ => d

/-- The name that the type denotes. -/
def denoted : TypeTree → String
  | name _ q => q.name
  | container _ c argument => argument.denoted ++ c.suffix

end TypeTree

/-! ### Spellings -/

/-- A `const` before a type, which begins with a word. -/
inductive LeadingConst : Bool → List Char → Prop
  | none : LeadingConst false []
  | const {b : List Char} : (∀ c ∈ b, isBlank c = true) → b ≠ [] → LeadingConst true (constWord ++ b)

/-- A `const` behind a type, which ends with a word or not. -/
inductive TrailingConst (endsInWord : Bool) : Bool → List Char → Prop
  | none : TrailingConst endsInWord false []
  | const {b : List Char} : (∀ c ∈ b, isBlank c = true) → (endsInWord = true → b ≠ []) →
      TrailingConst endsInWord true (b ++ constWord)

/-- A spelling of what stands around a type, with the type in it. -/
inductive Decor.Spells (d : Decor) (endsInWord : Bool) (type s : List Char) : Prop
  | intro {lead trail : List Char} (before between after : List Char) : (∀ c ∈ before, isBlank c = true) →
      LeadingConst d.leading lead → TrailingConst endsInWord d.trailing trail → (∀ c ∈ between, isBlank c = true) →
      (∀ c ∈ after, isBlank c = true) → s = before ++ (lead ++ type ++ (trail ++ between ++ d.mark.chars)) ++ after →
      d.Spells endsInWord type s

/-- A spelling of a type. -/
inductive TypeTree.Spells : TypeTree → List Char → Prop
  | name {d : Decor} {q : QualifiedName} {s : List Char} : d.Spells true q.chars s → TypeTree.Spells (.name d q) s
  | container {d : Decor} {c : Container} {argument : TypeTree} {inner s : List Char} : argument.Spells inner →
      d.Spells false (c.chars inner) s → TypeTree.Spells (.container d c argument) s

/-! ### Qualified names -/

theorem toNat_of_isNameChar {c : Char} (h : isNameChar c = true) :
    97 ≤ c.toNat ∧ c.toNat ≤ 122 ∨ 65 ≤ c.toNat ∧ c.toNat ≤ 90 ∨ 48 ≤ c.toNat ∧ c.toNat ≤ 57 ∨ c.toNat = 95 := by
  simp only [isNameChar, Bool.or_eq_true, Bool.and_eq_true, decide_eq_true_eq, beq_iff_eq, or_assoc] at h
  exact h.imp_right (Or.imp_right (Or.imp_right (congrArg Char.toNat)))

/-- The characters of names are none that the rules look for. -/
theorem of_isNameChar {c : Char} (h : isNameChar c = true) :
    isBlank c = false ∧ c ∉ ['<', '>', ':', '&', '*'] := by
  constructor
  · have hrange := toNat_of_isNameChar h
    simp only [isBlank, Bool.or_eq_false_iff, Bool.and_eq_false_iff, decide_eq_false_iff_not, beq_eq_false_iff_ne]
    omega
  · intro hc
    have hnone : (['<', '>', ':', '&', '*'].all fun d => !isNameChar d) = true := by decide
    have hnot := List.all_eq_true.1 hnone c hc
    rw [h] at hnot
    cases hnot

/-- The words of a qualified name, which is none of those that keep their qualification. -/
structure IsQualified (qualifiers : List String) (name : String) : Prop where
  words : ∀ w ∈ qualifiers ++ [name], IsWord w
  notScoped : qualifiers ≠ [] → ¬ "AttributeChange".toList <+: qualifiedChars qualifiers name

theorem QualifiedName.isQualified (q : QualifiedName) : IsQualified q.qualifiers q.name := ⟨q.words, fun _ => q.notScoped⟩

/-- A text without outer blanks that does not end as a type is marked. -/
structure IsBody (k : List Char) : Prop where
  ne_nil : k ≠ []
  trimmed : trimChars k = k
  unmarked : ∀ w ∈ Descriptor.marks, ¬ w <:+ k

namespace IsQualified

open Descriptor

variable {qualifiers : List String} {name : String} (h : IsQualified qualifiers name)

include h

theorem isWord_name : IsWord name := h.words _ (by simp)

theorem colon_not_mem : ':' ∉ name.toList := by
  intro hc
  exact (of_isNameChar (h.isWord_name.chars _ hc)).2 (by simp)

theorem solid_chars : Solid (qualifiedChars qualifiers name) := by
  have hword : ∀ w ∈ qualifiers ++ [name], Solid w.toList := by
    intro w hw c hc
    obtain ⟨hblank, hnot⟩ := of_isNameChar ((h.words w hw).chars c hc)
    simp only [List.mem_cons, not_or] at hnot
    exact ⟨hblank, hnot.1, hnot.2.1⟩
  have hcolons : Solid "::".toList := by decide
  intro c hc
  rw [qualifiedChars, List.mem_append, List.mem_flatMap] at hc
  rcases hc with ⟨w, hw, hc⟩ | hc
  · exact (List.mem_append.1 hc).elim (hword w (by simp [hw]) c) (hcolons c)
  · exact hword name (by simp) c hc

theorem chars_ne_nil : qualifiedChars qualifiers name ≠ [] := by
  have hne := h.isWord_name.ne_empty
  simp [qualifiedChars, hne]

/-- The qualification goes, however long it is. -/
theorem stripNamespace_chars : stripNamespace scopedNames (String.ofList (qualifiedChars qualifiers name)) = name := by
  have hcut : cutLast "::".toList (qualifiedChars qualifiers name) =
      (cutLast "::".toList (qualifiers.flatMap fun w => w.toList ++ "::".toList)).map
        fun parts => (parts.1, parts.2 ++ name.toList) := cutLast_append h.colon_not_mem _
  rw [stripNamespace, cutNamespace?, String.toList_ofList (l := qualifiedChars _ _), hcut]
  rcases List.eq_nil_or_concat qualifiers with rfl | ⟨init, last, hlast⟩
  · exact String.ofList_toList
  · rw [List.concat_eq_append] at hlast
    have hscoped : scopedNames.any (startsWith (String.ofList (qualifiedChars qualifiers name))) = false := by
      rw [scopedNames, List.any_cons, List.any_nil, Bool.or_false, Bool.eq_false_iff, ne_eq, startsWith,
        List.isPrefixOf_iff_prefix, String.toList_ofList (l := qualifiedChars _ _)]
      exact h.notScoped (by simp [hlast])
    have hne : last ≠ "" := (h.words last (by simp [hlast])).ne_empty
    rw [hscoped, hlast, List.flatMap_append, List.flatMap_singleton, ← List.append_assoc, cutLast_concat (by decide)]
    simp [hne]

/-- A qualified name ends as its last word does. -/
theorem isBody (hname : ¬ constWord <:+ name.toList) : IsBody (qualifiedChars qualifiers name) := by
  have hne : name.toList ≠ [] := by simpa using h.isWord_name.ne_empty
  refine { ne_nil := h.chars_ne_nil, trimmed := ?_, unmarked := ?_ }
  · simpa using trimChars_append h.solid_chars h.chars_ne_nil []
  · have hend : ∀ c, [c] <:+ qualifiedChars qualifiers name → isNameChar c = true := by
      intro c hsuffix
      have hlast := (getLast?_of_suffix hne (List.suffix_append _ _)).symm.trans
        (getLast?_of_suffix (List.cons_ne_nil c []) hsuffix)
      exact h.isWord_name.chars c (List.mem_of_getLast? hlast)
    have hconst : ¬ constWord <:+ qualifiedChars qualifiers name := by
      intro hc
      have hend' : constWord <:+ (String.ofList (qualifiedChars qualifiers name)).toList := by rwa [String.toList_ofList]
      have hbare := suffix_stripNamespace (by decide) hend'
      rw [h.stripNamespace_chars] at hbare
      exact hname hbare
    intro w hw hsuffix
    simp only [marks, List.mem_cons, List.not_mem_nil, or_false] at hw
    rcases hw with rfl | rfl | rfl
    · exact absurd (hend _ hsuffix) (by decide)
    · exact absurd (hend _ hsuffix) (by decide)
    · exact hconst hsuffix

/-- Of a qualified name only the qualification goes, but keys are numbers. -/
theorem finish_eq (hvec : name ≠ "vec") :
    finish (String.ofList (qualifiedChars qualifiers name)) = if name ∈ ["Key", "KeySequence"] then "int" else name := by
  have hplain (outer : String) : Rule.templateArgument? outer (String.ofList (qualifiedChars qualifiers name)) = none :=
    templateArgument?_of_suffix h.solid_chars h.chars_ne_nil (by rw [String.toList_ofList]) outer
  have hcontainer := container?_eq_none_iff.2 ⟨hplain "Vector", hplain "SharedPtr"⟩
  have hbare := h.stripNamespace_chars
  rcases alias_or_isUnaliased hcontainer with (hc | hkey) | hname
  · have hself : stripNamespace scopedNames "vec" = "vec" := by decide
    rw [hc, hself] at hbare
    exact absurd hbare.symm hvec
  · rw [finish_key hcontainer hkey, if_pos (by rwa [hbare] at hkey)]
  · have hkey := hname.key
    have hsequence := hname.keySequence
    rw [hbare] at hkey hsequence
    rw [hname.finish_eq, hbare, if_neg (by simp [hkey, hsequence])]

end IsQualified

/-! ### Cores -/

/-- A text that the rules leave once its ends are taken off. -/
structure IsCore (endsInWord : Bool) (k : List Char) : Prop extends IsBody k where
  notConst : ¬ constWord <+: k
  /-- A core that does not end in a word is longer than `const`, so none begins in it and goes on behind it. -/
  long : endsInWord = false → constWord.length ≤ k.length

theorem QualifiedName.isCore (q : QualifiedName) : IsCore true q.chars :=
  { q.isQualified.isBody q.notMarked with notConst := q.notConst, long := by simp }

theorem Container.solid_keyword (c : Container) : Solid c.keyword.toList := by cases c <;> decide

theorem Container.isCore (c : Container) (inner : List Char) : IsCore false (c.chars inner) := by
  obtain ⟨hne, hlen, hconst, hconst'⟩ : c.keyword.toList ≠ [] ∧ 5 ≤ c.keyword.toList.length ∧
      ¬ constWord <+: c.keyword.toList ∧ ¬ c.keyword.toList <+: constWord := by cases c <;> decide
  refine { ne_nil := by simp [chars], trimmed := ?_, unmarked := ?_, notConst := ?_, long := fun _ => ?_ }
  · rw [chars, trimChars_append c.solid_keyword hne, trimEndChars_append_of_ne_nil (by decide) (by decide)]
  · intro w hw hsuffix
    have hlast : ∀ w ∈ Descriptor.marks, w.getLast? ≠ ['>'].getLast? ∧ w ≠ [] := by decide
    have hclose : ['>'] <:+ c.chars inner :=
      (List.suffix_append ('<' :: inner) ['>']).trans (List.suffix_append _ _)
    refine (hlast w hw).1 ?_
    rw [← Descriptor.getLast?_of_suffix (hlast w hw).2 hsuffix, Descriptor.getLast?_of_suffix (by decide) hclose]
  · intro h
    exact (List.prefix_or_prefix_of_prefix h (List.prefix_append _ _)).elim hconst hconst'
  · exact hlen.trans (List.prefix_append _ _).length_le

theorem templateArgument?_template (outer : String) (x : List Char) :
    Rule.templateArgument? outer (String.ofList (outer.toList ++ ('<' :: x ++ ['>']))) = some (String.ofList x) := by
  have hstart : startsWith (String.ofList (outer.toList ++ ('<' :: x ++ ['>']))) (outer ++ "<") = true := by
    rw [startsWith, List.isPrefixOf_iff_prefix]
    exact ⟨x ++ ['>'], by simp⟩
  have hend : endsWith (String.ofList (outer.toList ++ ('<' :: x ++ ['>']))) ">" = true := by
    rw [endsWith, List.isSuffixOf_iff_suffix]
    exact ⟨outer.toList ++ '<' :: x, by simp⟩
  have hdrop : dropStart (String.ofList (outer.toList ++ ('<' :: x ++ ['>']))) (outer.length + 1) =
      String.ofList (x ++ ['>']) := by
    have hlen : outer.length + 1 = (outer.toList ++ ['<']).length := by
      rw [List.length_append, String.length_toList]
      rfl
    rw [dropStart, String.toList_ofList (l := _ ++ _), hlen, List.cons_append, ← List.singleton_append (l := x ++ ['>']),
      ← List.append_assoc, List.drop_left]
  have hlen : (String.ofList (x ++ ['>'])).length - 1 = x.length := by
    rw [String.length_ofList, List.length_append]
    rfl
  rw [Rule.templateArgument?, hstart, hend, Bool.and_self, if_pos rfl, hdrop, dropEnd, hlen, String.toList_ofList,
    List.take_left]

/-- A spelled container is one. -/
theorem Container.container?_eq (c : Container) (x : List Char) :
    Descriptor.container? (String.ofList (c.chars x)) = some (String.ofList x, c.suffix) := by
  cases c with
  | vector => rw [Descriptor.container?, chars, keyword, templateArgument?_template, suffix]
  | sharedPtr =>
    have hvector : Rule.templateArgument? "Vector" (String.ofList ("SharedPtr".toList ++ ('<' :: x ++ ['>']))) = none := by
      rw [Rule.templateArgument?, if_neg]
      simp [startsWith]
    rw [Descriptor.container?, chars, keyword, hvector, templateArgument?_template]
    rfl

/-! ### What stands around a core -/

theorem Mark.chars_spec (m : Mark) :
    Solid m.chars ∧ (m ≠ .none → m.chars ≠ []) ∧ ∀ c ∈ m.chars, c ∉ constWord := by
  have hapart : (m.chars.all fun c => !constWord.contains c) = true := by cases m <;> decide
  refine ⟨by cases m <;> decide, by cases m <;> decide, fun c hc => ?_⟩
  simpa using List.all_eq_true.1 hapart c hc

theorem TrailingConst.eq_nil_or {endsInWord trailing : Bool} {trail : List Char}
    (h : TrailingConst endsInWord trailing trail) :
    trail = [] ∨ ∃ b, trail = b ++ constWord ∧ (∀ c ∈ b, isBlank c = true) ∧ (endsInWord = true → b ≠ []) := by
  cases h with
  | none => exact .inl rfl
  | const hb hne => exact .inr ⟨_, rfl, hb, hne⟩

theorem TrailingConst.trimEndChars_eq {endsInWord trailing : Bool} {trail : List Char}
    (h : TrailingConst endsInWord trailing trail) : trimEndChars trail = trail := by
  rcases h.eq_nil_or with rfl | ⟨b, rfl, -, -⟩
  · rfl
  · exact trimEndChars_concat solid_constWord (by decide) _

/-- What stands behind a type once the outer blanks are gone. -/
inductive Decor.Behind (d : Decor) (endsInWord : Bool) : List Char → Prop
  | intro {trail between : List Char} : TrailingConst endsInWord d.trailing trail → (∀ c ∈ between, isBlank c = true) →
      (d.mark = .none → between = []) → d.Behind endsInWord (trail ++ between ++ d.mark.chars)

namespace IsBody

variable {d : Decor} {endsInWord : Bool} {k : List Char} (hk : IsBody k)

include hk

theorem trimChars_lead {leading : Bool} {lead : List Char} (h : LeadingConst leading lead) :
    trimChars (lead ++ k) = lead ++ k := by
  cases h with
  | none => exact hk.trimmed
  | const =>
    rw [List.append_assoc, trimChars_append solid_constWord (by decide),
      trimEndChars_append_of_ne_nil hk.ne_nil (trimEndChars_of_trimChars hk.trimmed)]

theorem exists_ends {s : List Char} (h : d.Spells endsInWord k s) :
    ∃ lead behind, LeadingConst d.leading lead ∧ d.Behind endsInWord behind ∧ trimChars s = lead ++ k ++ behind := by
  obtain @⟨lead, trail, before, between, after, hbefore, hlead, htrail, hbetween, hafter, rfl⟩ := h
  have htrim : trimChars (before ++ (lead ++ k ++ (trail ++ between ++ d.mark.chars)) ++ after) =
      lead ++ k ++ trimEndChars (trail ++ between ++ d.mark.chars) := by
    rw [trimChars_append_blanks _ hafter, trimChars_blanks_append hbefore,
      trimChars_append_of_trimmed (List.append_ne_nil_of_right_ne_nil _ hk.ne_nil) (hk.trimChars_lead hlead)]
  rw [htrim]
  by_cases hmark : d.mark = .none
  · refine ⟨lead, _, hlead, .intro htrail (List.forall_mem_nil _) fun _ => rfl, ?_⟩
    rw [hmark, Mark.chars, List.append_nil, List.append_nil, List.append_nil, trimEndChars_append_blanks _ hbetween,
      htrail.trimEndChars_eq]
  · refine ⟨lead, _, hlead, .intro htrail hbetween fun hc => absurd hc hmark, ?_⟩
    rw [trimEndChars_concat d.mark.chars_spec.1 (d.mark.chars_spec.2.1 hmark)]

end IsBody

namespace Decor.Behind

variable {d : Decor} {endsInWord : Bool} {k behind : List Char} (h : d.Behind endsInWord behind)

include h

theorem trimEndChars_eq : trimEndChars behind = behind := by
  obtain @⟨trail, between, htrail, hbetween, hnone⟩ := h
  by_cases hmark : d.mark = .none
  · rw [hmark, hnone hmark, Mark.chars, List.append_nil, List.append_nil, htrail.trimEndChars_eq]
  · exact trimEndChars_concat d.mark.chars_spec.1 (d.mark.chars_spec.2.1 hmark) _

/-- What stands behind a word does not go on in it. -/
theorem head?_not_mem (hword : endsInWord = true) : ∀ c ∈ behind.head?, c ∉ constWord := by
  obtain @⟨trail, between, htrail, hbetween, -⟩ := h
  intro c hc
  rcases htrail.eq_nil_or with rfl | ⟨b, rfl, hb, hne⟩
  · rcases List.mem_append.1 (List.mem_of_mem_head? hc) with hc | hc
    · exact solid_constWord.not_mem_of_blank (hbetween c hc)
    · exact d.mark.chars_spec.2.2 c hc
  · obtain ⟨e, b, rfl⟩ := List.exists_cons_of_ne_nil (hne hword)
    cases hc
    exact solid_constWord.not_mem_of_blank (hb c List.mem_cons_self)

theorem const_prefix_iff (hword : endsInWord = true) : constWord <+: k ++ behind ↔ constWord <+: k := by
  have hhead := h.head?_not_mem hword
  cases behind with
  | nil => rw [List.append_nil]
  | cons c behind => exact prefix_append_cons_iff (hhead c rfl)

theorem not_const (hk : IsCore endsInWord k) : ¬ constWord <+: k ++ behind := by
  intro hc
  refine hk.notConst ?_
  cases hword : endsInWord with
  | false => exact List.prefix_of_prefix_length_le hc (List.prefix_append _ _) (hk.long hword)
  | true => exact (h.const_prefix_iff hword).1 hc

end Decor.Behind

namespace IsBody

variable {d : Decor} {endsInWord : Bool} {k behind : List Char} (hk : IsBody k) (h : d.Behind endsInWord behind)

include hk h

theorem suffix_mark_iff :
    (referenceMark <:+ k ++ behind ↔ d.mark = .reference) ∧ (pointerMark <:+ k ++ behind ↔ d.mark = .pointer) := by
  have hsingle : ∀ {c e : Char} {s : List Char}, [c] <:+ s ++ [e] ↔ c = e := by
    intro c e s
    refine ⟨fun hc => ?_, fun hc => hc ▸ List.suffix_append _ _⟩
    simpa using (Descriptor.getLast?_of_suffix (List.cons_ne_nil c []) hc).symm
  obtain @⟨trail, between, htrail, -, hnone⟩ := h
  rw [← List.append_assoc]
  cases hmark : d.mark with
  | none =>
    have hunmarked : ∀ w ∈ Descriptor.marks, w ≠ constWord → ¬ w <:+ k ++ trail := by
      intro w hw hne
      rcases htrail.eq_nil_or with rfl | ⟨b, rfl, -, -⟩
      · simpa using hk.unmarked w hw
      · intro hc
        have hlast : ∀ w ∈ Descriptor.marks, w ≠ [] ∧ (w.getLast? = constWord.getLast? → w = constWord) := by decide
        rw [← List.append_assoc] at hc
        refine hne ((hlast w hw).2 ?_)
        rw [← Descriptor.getLast?_of_suffix (hlast w hw).1 hc,
          Descriptor.getLast?_of_suffix (by decide) (List.suffix_append _ constWord)]
    rw [hnone hmark, List.append_nil, Mark.chars, List.append_nil]
    exact ⟨iff_of_false (hunmarked _ (by decide) (by decide)) (by simp),
      iff_of_false (hunmarked _ (by decide) (by decide)) (by simp)⟩
  | reference => exact ⟨iff_of_true (List.suffix_append _ _) rfl, iff_of_false (mt hsingle.1 (by decide)) (by simp)⟩
  | pointer => exact ⟨iff_of_false (mt hsingle.1 (by decide)) (by simp), iff_of_true (List.suffix_append _ _) rfl⟩

theorem strip_eq : withoutEnd constWord (withoutMark (k ++ behind)) = k := by
  obtain ⟨hreference, hpointer⟩ := hk.suffix_mark_iff h
  obtain @⟨trail, between, htrail, hbetween, hnone⟩ := h
  have htrim : trimChars (k ++ (trail ++ between)) = k ++ trail := by
    rw [trimChars_append_of_trimmed hk.ne_nil hk.trimmed, trimEndChars_append_blanks _ hbetween, htrail.trimEndChars_eq]
  have hmarked : withoutMark (k ++ (trail ++ between ++ d.mark.chars)) = k ++ trail := by
    rw [withoutMark]
    cases hmark : d.mark with
    | none =>
      rw [hmark] at hreference hpointer
      rw [if_neg (by simpa using hreference), withoutEnd_of_not (by simpa using hpointer), hnone hmark, Mark.chars,
        List.append_nil, List.append_nil]
    | reference =>
      rw [hmark] at hreference
      rw [if_pos (hreference.2 rfl), Mark.chars, ← List.append_assoc, withoutEnd_concat, htrim]
    | pointer =>
      rw [hmark] at hreference
      rw [if_neg (by simpa using hreference), Mark.chars, ← List.append_assoc, withoutEnd_concat, htrim]
  rw [hmarked]
  rcases htrail.eq_nil_or with rfl | ⟨b, rfl, hb, -⟩
  · rw [List.append_nil]
    exact withoutEnd_of_not (hk.unmarked constWord (by decide))
  · rw [← List.append_assoc, withoutEnd_concat, trimChars_append_blanks _ hb, hk.trimmed]

end IsBody

theorem Decor.Behind.suffix_mark_iff {d : Decor} {endsInWord : Bool} {k behind : List Char}
    (h : d.Behind endsInWord behind) (hk : IsCore endsInWord k) :
    (referenceMark <:+ k ++ behind ↔ d.mark = .reference) ∧ (pointerMark <:+ k ++ behind ↔ d.mark = .pointer) :=
  hk.toIsBody.suffix_mark_iff h

/-! ### Spellings and their descriptors -/

/-- What the rule for `const` leaves of a type: one that begins with the letters loses them, unless a `const` stands
before it. -/
def Decor.afterConst (d : Decor) (k : List Char) : List Char := if d.leading then k else withoutStart constWord k

theorem Decor.afterConst_of_not {k : List Char} (hk : ¬ constWord <+: k) (d : Decor) : d.afterConst k = k := by
  rw [afterConst, withoutStart_of_not hk, ite_self]

namespace IsBody

variable {k : List Char} (hk : IsBody k)

include hk

/-- The letters go with the blanks behind them, and something is left. -/
theorem withoutStart_append_of_prefix (hconst : constWord <+: k) {behind : List Char}
    (hbehind : trimEndChars behind = behind) :
    withoutStart constWord k ≠ [] ∧ withoutStart constWord (k ++ behind) = withoutStart constWord k ++ behind := by
  obtain ⟨r, rfl⟩ := hconst
  have hend : trimEndChars r = r := trimEndChars_of_trimmed solid_constWord (by decide) hk.trimmed
  obtain ⟨u, hu, hr⟩ := exists_blanks_start r
  have hne : trimStartChars r ≠ [] := by
    intro hc
    rw [hc, List.append_nil] at hr
    have hempty : r = [] := by rw [← hend, hr, ← List.nil_append u, trimEndChars_append_blanks [] hu, trimEndChars_nil]
    exact hk.unmarked constWord (by decide) (by rw [hempty, List.append_nil])
  have htrim : trimChars r = trimStartChars r := by rw [trimChars, ← trimStartChars_trimEndChars, hend]
  have hkeep : trimChars (trimStartChars r) = trimStartChars r := by rw [trimChars_trimStartChars, htrim]
  rw [List.append_assoc, withoutStart_append, withoutStart_append, htrim]
  refine ⟨hne, ?_⟩
  conv_lhs => rw [hr, List.append_assoc, trimChars_blanks_append hu, trimChars_append_of_trimmed hne hkeep, hbehind]

theorem afterConst (d : Decor) : IsBody (d.afterConst k) := by
  by_cases hconst : constWord <+: k
  · rw [Decor.afterConst]
    split
    · exact hk
    · exact
        { ne_nil := (hk.withoutStart_append_of_prefix hconst trimEndChars_nil).1
          trimmed := trimChars_withoutStart hk.trimmed
          unmarked := fun w hw hc =>
            hk.unmarked w hw (hc.trans (suffix_withoutStart solid_constWord (by decide) hk.trimmed)) }
  · rwa [d.afterConst_of_not hconst]

end IsBody

/-- A `const` at the start of a spelling is the one before its type, or its type begins with the letters. -/
theorem Decor.Spells.exists_behind_of {d : Decor} {endsInWord : Bool} {k s : List Char} (h : d.Spells endsInWord k s)
    (hk : IsBody k)
    (hbegins : ∀ {behind}, d.Behind endsInWord behind → (constWord <+: k ++ behind ↔ constWord <+: k)) :
    ∃ behind, d.Behind endsInWord behind ∧ withoutStart constWord (trimChars s) = d.afterConst k ++ behind ∧
      (constWord <+: trimChars s ↔ d.leading = true ∨ constWord <+: k) := by
  obtain ⟨lead, behind, hlead, hbehind, htrim⟩ := hk.exists_ends h
  refine ⟨behind, hbehind, ?_⟩
  rw [htrim, afterConst]
  cases hleading : d.leading with
  | false =>
    rw [hleading] at hlead
    cases hlead
    rw [List.nil_append, hbegins hbehind]
    refine ⟨?_, by simp⟩
    by_cases hconst : constWord <+: k
    · exact (hk.withoutStart_append_of_prefix hconst hbehind.trimEndChars_eq).2
    · rw [if_neg Bool.false_ne_true, withoutStart_of_not hconst, withoutStart_of_not (mt (hbegins hbehind).1 hconst)]
  | true =>
    rw [hleading] at hlead
    obtain @⟨⟩ | ⟨hb, -⟩ := hlead
    simp only [List.append_assoc, withoutStart_append]
    rw [trimChars_blanks_append hb, trimChars_append_of_trimmed hk.ne_nil hk.trimmed, hbehind.trimEndChars_eq]
    exact ⟨rfl, iff_of_true (List.prefix_append _ _) (.inl trivial)⟩

/-- A `const` at the start of a spelling is the one before its type. -/
theorem Decor.Spells.exists_behind {d : Decor} {endsInWord : Bool} {k s : List Char} (h : d.Spells endsInWord k s)
    (hk : IsCore endsInWord k) :
    ∃ behind, d.Behind endsInWord behind ∧ withoutStart constWord (trimChars s) = k ++ behind ∧
      (constWord <+: trimChars s ↔ d.leading = true) := by
  have hnot := hk.notConst
  obtain ⟨behind, hbehind, hstart, hconst⟩ :=
    h.exists_behind_of hk.toIsBody fun hbehind => iff_of_false (hbehind.not_const hk) hnot
  rw [d.afterConst_of_not hnot] at hstart
  exact ⟨behind, hbehind, hstart, hconst.trans (or_iff_left hnot)⟩

theorem nameOf_congr {s t : List Char} (h : trimChars s = trimChars t) :
    Descriptor.nameOf (String.ofList s) = Descriptor.nameOf (String.ofList t) := by
  rw [Descriptor.nameOf_eq_finish, Descriptor.nameOf_eq_finish, core, core, String.toList_ofList, String.toList_ofList, h]

/-- A word keeps its name, however often its spelling is tightened. -/
theorem Decor.Spells.nameOf_word {d : Decor} {k s : List Char} (h : d.Spells true k s) (hk : IsBody k) (hsolid : Solid k)
    (n : Nat) :
    Descriptor.nameOf (String.ofList (tighten^[n] s)) = Descriptor.finish (String.ofList (d.afterConst k)) := by
  obtain ⟨behind, hbehind, hstart, -⟩ := h.exists_behind_of hk fun hbehind => hbehind.const_prefix_iff rfl
  have hsolid' : Solid (d.afterConst k) := by
    rw [afterConst]
    split
    · exact hsolid
    · exact fun c hc => hsolid c ((suffix_withoutStart solid_constWord (by decide) hk.trimmed).subset hc)
  have hstrip : strip (trimChars s) = d.afterConst k := by rw [strip, hstart, (hk.afterConst d).strip_eq hbehind]
  rw [Descriptor.nameOf_eq_finish, core_iterate_tighten, hstrip, Function.iterate_fixed (tighten_of_solid hsolid')]

/-- The argument of a container has been tightened once more than the spelling it stands in. -/
theorem Decor.Spells.nameOf_container {d : Decor} {c : Container} {inner s : List Char}
    (h : d.Spells false (c.chars inner) s) (n : Nat) :
    Descriptor.nameOf (String.ofList (tighten^[n] s)) =
      Descriptor.nameOf (String.ofList (tighten^[n + 1] inner)) ++ c.suffix := by
  obtain ⟨behind, hbehind, hstart, -⟩ := h.exists_behind (c.isCore inner)
  obtain ⟨x, hx, htrim⟩ := iterate_tighten_template c.solid_keyword inner (n + 1)
  have hcore : Descriptor.coreName (String.ofList (tighten^[n] s)) = String.ofList (c.chars x) := by
    rw [Descriptor.coreName, core_iterate_tighten, strip, hstart, (c.isCore inner).toIsBody.strip_eq hbehind,
      Container.chars, hx, Container.chars]
  have hcontainer := c.container?_eq x
  rw [← hcore] at hcontainer
  have hsame : trimChars x = trimChars (tighten^[n + 1] inner) := by
    rw [htrim, (show Function.Commute trimChars tighten from trimChars_tighten).iterate_right (n + 1) inner]
  rw [Descriptor.nameOf_of_container? hcontainer, nameOf_congr hsame]

/-- A text is spelled as a type with the name, however often it is tightened. -/
theorem nameOf_iterate_tighten {tree : TypeTree} {s : List Char} (h : tree.Spells s) (n : Nat) :
    Descriptor.nameOf (String.ofList (tighten^[n] s)) = tree.denoted := by
  induction h generalizing n with
  | @name d q s h =>
    have halias : q.name ≠ "vec" ∧ q.name ∉ ["Key", "KeySequence"] := by simpa using q.notAlias
    rw [h.nameOf_word q.isCore.toIsBody q.isQualified.solid_chars, d.afterConst_of_not q.isCore.notConst,
      QualifiedName.chars, q.isQualified.finish_eq halias.1, if_neg halias.2, TypeTree.denoted]
  | container _ h ih => rw [h.nameOf_container, ih, TypeTree.denoted]

theorem TypeTree.Spells.exists_core {tree : TypeTree} {s : List Char} (h : tree.Spells s) :
    ∃ endsInWord k, IsCore endsInWord k ∧ tree.decor.Spells endsInWord k s := by
  cases h with
  | @name d q _ h => exact ⟨true, _, q.isCore, h⟩
  | @container d c argument inner _ hargument h => exact ⟨false, _, c.isCore inner, h⟩

/-- **A spelling gets the name that its type denotes**, and the marks of what stands around the type at the top. -/
theorem ofText_of_spells {tree : TypeTree} {text : String} (h : tree.Spells text.toList) :
    Descriptor.ofText text =
      { raw := text
        name := tree.denoted
        isConst := tree.decor.leading
        isPointer := tree.decor.mark == .pointer
        isReference := tree.decor.mark == .reference } := by
  obtain ⟨endsInWord, k, hk, hspells⟩ := h.exists_core
  obtain ⟨behind, hbehind, hstart, hconst⟩ := hspells.exists_behind hk
  obtain ⟨hreference, hpointer⟩ := hbehind.suffix_mark_iff hk
  have hname : Descriptor.finish (String.ofList (core text)) = tree.denoted := by
    rw [← Descriptor.nameOf_eq_finish, ← nameOf_iterate_tighten h 0, Function.iterate_zero_apply, String.ofList_toList]
  have hleading : constWord.isPrefixOf (tighten (trimChars text.toList)) = tree.decor.leading := by
    rw [Bool.eq_iff_iff, List.isPrefixOf_iff_prefix, prefix_tighten_iff solid_constWord, hconst]
  have hmark : ∀ {w m}, (w <:+ k ++ behind ↔ tree.decor.mark = m) →
      w.isSuffixOf (marked text) = (tree.decor.mark == m) := by
    intro w m hm
    rw [Bool.eq_iff_iff, List.isSuffixOf_iff_suffix, beq_iff_eq, marked, hstart, hm]
  rw [Descriptor.ofText_eq_core, hname, hleading, hmark hreference, hmark hpointer]
  cases tree.decor.mark <;> rfl

theorem ofText_of_spells_nodes :
    Descriptor.ofText "const Vector< SharedPtr<Urho3D::Node const> > &" =
      { raw := "const Vector< SharedPtr<Urho3D::Node const> > &"
        name := "NodePtrVector"
        isConst := true
        isReference := true } := by
  let node : QualifiedName := ⟨["Urho3D"], "Node", by decide, by decide, by decide, by decide, by decide⟩
  have hspace : ∀ c ∈ [' '], isBlank c = true := List.all_eq_true.1 (by decide)
  have hempty : ∀ c ∈ [], isBlank c = true := List.forall_mem_nil _
  have hnode : (TypeTree.name ⟨false, true, .none⟩ node).Spells "Urho3D::Node const".toList :=
    .name (.intro [] [] [] hempty .none (.const hspace (by decide)) hempty hempty (by decide))
  have hptr : (TypeTree.container ⟨false, false, .none⟩ .sharedPtr (.name ⟨false, true, .none⟩ node)).Spells
      " SharedPtr<Urho3D::Node const> ".toList :=
    .container hnode (.intro [' '] [] [' '] hspace .none .none hempty hspace (by decide))
  have hvector : (TypeTree.container ⟨true, false, .reference⟩ .vector
      (.container ⟨false, false, .none⟩ .sharedPtr (.name ⟨false, true, .none⟩ node))).Spells
      "const Vector< SharedPtr<Urho3D::Node const> > &".toList :=
    .container hptr (.intro [] [' '] [] hempty (.const hspace (by decide)) .none hspace hempty (by decide))
  exact ofText_of_spells hvector

end ScriptGlue.Cpp
