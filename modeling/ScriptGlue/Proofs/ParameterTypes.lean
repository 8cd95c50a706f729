import ScriptGlue.Binding.Registry
import ScriptGlue.Proofs.BareNames

/-!
# The two spellings of a parameter

A parameter is judged by one spelling of its type, without the reference mark (`basicType`), and read by
another, with it (`readType`). Both come down to the same bare name when the type has one leading `const` and
its reference mark stands beside no other mark; **`classify_readType`** says that they are then carried in the
same way. When two marks meet, as in `Foo &&` or `Foo * const &`, the spelling that is read keeps one of them
in its name (`suffix_nameOf_readType`), and no vocabulary of bare names knows such a name.
-/

namespace ScriptGlue

open ScriptGlue.Text ScriptGlue.Cpp ScriptGlue.Cpp.Descriptor

namespace Parameter

/-! ### Spellings as characters -/

/-- The type without outer blanks. -/
def spelled (p : Parameter) : List Char := trimChars p.type.toList

theorem trimChars_spelled (p : Parameter) : trimChars p.spelled = p.spelled := trimChars_idem _

theorem toList_dropLeadingConst (s : String) : (dropLeadingConst s).toList = withoutStart constWord s.toList := by
  have hlen : constWord.length = 5 := rfl
  have hword : startsWith s "const" = constWord.isPrefixOf s.toList := rfl
  cases h : constWord.isPrefixOf s.toList <;> simp [dropLeadingConst, withoutStart, hword, h, trim, dropStart, hlen]

theorem toList_dropTrailingConst (s : String) : (dropTrailingConst s).toList = withoutEnd constWord s.toList := by
  have hlen : constWord.length = 5 := rfl
  have hword : endsWith s "const" = constWord.isSuffixOf s.toList := rfl
  cases h : constWord.isSuffixOf s.toList <;>
    simp [dropTrailingConst, withoutEnd, hword, h, trim, dropEnd, hlen, String.length_toList]

theorem toList_readType (p : Parameter) :
    p.readType.toList = withoutEnd constWord (withoutStart constWord p.spelled) := by
  simp [readType, toList_dropTrailingConst, toList_dropLeadingConst, trim, spelled]

theorem isReference_iff (p : Parameter) : p.isReference = true ↔ referenceMark <:+ p.spelled := by
  have hmark : "&".toList = referenceMark := rfl
  rw [isReference, endsWith, List.isSuffixOf_iff_suffix, hmark, trim, String.toList_ofList, spelled]

theorem toList_basicType (p : Parameter) :
    p.basicType.toList =
      withoutEnd constWord
        (if p.isReference then withoutStart constWord (withoutEnd referenceMark p.spelled) else p.spelled) := by
  have hlen : referenceMark.length = 1 := rfl
  rw [basicType, toList_dropTrailingConst, isReference]
  cases h : endsWith (trim p.type) "&" with
  | true =>
    have hsuffix : referenceMark.isSuffixOf p.spelled = true := by
      rw [List.isSuffixOf_iff_suffix]
      exact p.isReference_iff.1 h
    simp only [if_true, toList_dropLeadingConst, withoutEnd, hsuffix, hlen]
    simp [trim, dropEnd, spelled]
  | false => simp [trim, spelled]

/-! ### Parameters that can be carried -/

/-- After a leading `const` there is no second one. -/
def SingleConst (p : Parameter) : Prop := ¬ constWord <+: withoutStart constWord p.spelled

instance (p : Parameter) : Decidable p.SingleConst :=
  inferInstanceAs (Decidable (¬ constWord <+: withoutStart constWord p.spelled))

/-- A reference whose type ends with a further mark, as in `Foo &&` and `Foo * const &`. -/
def DoublyMarked (p : Parameter) : Prop := p.isReference = true ∧ ∃ w ∈ marks, w <:+ p.basicType.toList

instance (p : Parameter) : Decidable p.DoublyMarked :=
  inferInstanceAs (Decidable (p.isReference = true ∧ ∃ w ∈ marks, w <:+ p.basicType.toList))

/-- The type of a reference without a leading `const` keeps its mark. -/
theorem mark_withoutStart {p : Parameter} (h : p.isReference = true) :
    referenceMark <:+ withoutStart constWord p.spelled :=
  suffix_withoutStart_of_apart solid_referenceMark (by decide) (by decide) (by decide) (p.isReference_iff.1 h)

theorem toList_readType_of_reference {p : Parameter} (h : p.isReference = true) :
    p.readType.toList = withoutStart constWord p.spelled := by
  rw [toList_readType, withoutEnd_of_not]
  intro hc
  have hlast := getLast?_of_suffix (by decide) hc
  rw [getLast?_of_suffix (by decide) (mark_withoutStart h)] at hlast
  exact absurd hlast (by decide)

theorem not_const_readType {p : Parameter} (h : p.SingleConst) : ¬ constWord <+: p.readType.toList := by
  intro hc
  rw [toList_readType] at hc
  exact h (hc.trans (prefix_withoutEnd solid_constWord (by decide)
    (trimChars_withoutStart p.trimChars_spelled)))

theorem trimChars_readType (p : Parameter) : trimChars p.readType.toList = p.readType.toList := by
  rw [toList_readType]
  exact trimChars_withoutEnd (trimChars_withoutStart p.trimChars_spelled)

theorem marked_readType {p : Parameter} (h : p.SingleConst) : marked p.readType = p.readType.toList := by
  rw [marked, trimChars_readType, withoutStart_of_not (not_const_readType h)]

/-! ### Parameters that are no references -/

section Plain

variable {p : Parameter} (hplain : p.isReference = false)

include hplain

theorem toList_basicType_of_plain : p.basicType.toList = withoutEnd constWord p.spelled := by
  rw [toList_basicType, hplain, if_neg Bool.false_ne_true]

theorem trimChars_basicType_of_plain : trimChars p.basicType.toList = p.basicType.toList := by
  rw [toList_basicType_of_plain hplain]
  exact trimChars_withoutEnd p.trimChars_spelled

theorem toList_readType_of_plain : p.readType.toList = withoutStart constWord p.basicType.toList := by
  rw [toList_readType, toList_basicType_of_plain hplain]
  exact withoutEnd_withoutStart solid_constWord (by decide) solid_constWord (by decide) (by decide)
    p.trimChars_spelled

theorem marked_basicType_of_plain : marked p.basicType = p.readType.toList := by
  rw [marked, trimChars_basicType_of_plain hplain, toList_readType_of_plain hplain]

theorem nameOf_readType_of_plain (h : p.SingleConst) : nameOf p.readType = nameOf p.basicType := by
  rw [nameOf_eq_finish, nameOf_eq_finish, core, core, strip, strip, trimChars_readType,
    withoutStart_of_not (not_const_readType h), trimChars_basicType_of_plain hplain,
    ← toList_readType_of_plain hplain]

end Plain

/-! ### Parameters that are references -/

section Reference

variable {p : Parameter} (href : p.isReference = true)

include href

theorem toList_basicType_of_reference :
    p.basicType.toList = withoutEnd constWord (withoutEnd referenceMark p.readType.toList) := by
  have hswap : withoutEnd referenceMark (withoutStart constWord p.spelled) =
      withoutStart constWord (withoutEnd referenceMark p.spelled) :=
    withoutEnd_withoutStart solid_constWord (by decide) solid_referenceMark (by decide) (by decide)
      p.trimChars_spelled
  rw [toList_basicType, href, if_pos rfl, toList_readType_of_reference href, hswap]

theorem suffix_readType : referenceMark <:+ p.readType.toList := by
  rw [toList_readType_of_reference href]
  exact mark_withoutStart href

/-- What is left of the spelling that is read is the spelling that is judged. -/
theorem strip_readType (h : p.SingleConst) : strip p.readType.toList = p.basicType.toList := by
  rw [strip, withoutStart_of_not (not_const_readType h), withoutMark, if_pos (suffix_readType href),
    toList_basicType_of_reference href]

theorem nameOf_readType_of_reference (h : p.SingleConst) :
    nameOf p.readType = finish (String.ofList (tighten p.basicType.toList)) := by
  rw [nameOf_eq_finish, core, trimChars_readType, strip_readType href h]

theorem nameOf_type_of_reference (h : p.SingleConst) : nameOf p.type = nameOf p.readType := by
  rw [nameOf_eq_finish, nameOf_eq_finish, core, core, trimChars_readType, strip, strip,
    withoutStart_of_not (not_const_readType h), toList_readType_of_reference href, spelled]

theorem trimChars_basicType_of_reference : trimChars p.basicType.toList = p.basicType.toList := by
  rw [toList_basicType_of_reference href]
  exact trimChars_withoutEnd (trimChars_withoutEnd p.trimChars_readType)

theorem not_const_basicType (h : p.SingleConst) : ¬ constWord <+: p.basicType.toList := by
  rw [toList_basicType_of_reference href]
  intro hc
  have hmark := trimChars_withoutEnd (w := referenceMark) p.trimChars_readType
  exact not_const_readType h ((hc.trans (prefix_withoutEnd solid_constWord (by decide) hmark)).trans
    (prefix_withoutEnd solid_referenceMark (by decide) p.trimChars_readType))

theorem marked_basicType_of_reference (h : p.SingleConst) : marked p.basicType = p.basicType.toList := by
  rw [marked, trimChars_basicType_of_reference href, withoutStart_of_not (not_const_basicType href h)]

theorem nameOf_basicType_of_reference (h : p.SingleConst) (hmarks : ¬ p.DoublyMarked) :
    nameOf p.basicType = nameOf p.readType := by
  have hno : ∀ w ∈ marks, ¬ w <:+ p.basicType.toList := fun w hw hs => hmarks ⟨href, w, hw, hs⟩
  rw [nameOf_readType_of_reference href h, nameOf_eq_finish, core, trimChars_basicType_of_reference href, strip,
    withoutStart_of_not (not_const_basicType href h), withoutMark, if_neg (hno _ (by decide)),
    withoutEnd_of_not (hno pointerMark (by decide)), withoutEnd_of_not (hno constWord (by decide))]

end Reference

/-- **Two marks at the end of a type leave one in the name that is read.** -/
theorem suffix_nameOf_readType {p : Parameter} (h : p.SingleConst) (hmarks : p.DoublyMarked) :
    ∃ w ∈ marks, w <:+ (nameOf p.readType).toList := by
  obtain ⟨href, w, hw, hs⟩ := hmarks
  refine ⟨w, hw, ?_⟩
  rw [nameOf_readType_of_reference href h]
  refine suffix_finish hw ?_
  rw [String.toList_ofList]
  exact (suffix_tighten_iff (mark_of_mem hw).1).2 hs

theorem nameOf_readType {p : Parameter} (h : p.SingleConst) (hmarks : ¬ p.DoublyMarked) :
    nameOf p.readType = nameOf p.basicType := by
  cases href : p.isReference with
  | true => exact (nameOf_basicType_of_reference href h hmarks).symm
  | false => exact nameOf_readType_of_plain href h

/-- Both spellings are pointers or neither is. -/
theorem isPointer_readType {p : Parameter} (h : p.SingleConst) (hmarks : ¬ p.DoublyMarked) :
    (ofText p.readType).isPointer = (ofText p.basicType).isPointer := by
  simp only [ofText_eq_core, marked_readType h]
  cases href : p.isReference with
  | true =>
    have hread : referenceMark.isSuffixOf p.readType.toList = true := by
      rw [List.isSuffixOf_iff_suffix]
      exact suffix_readType href
    have hbasic : pointerMark.isSuffixOf p.basicType.toList = false := by
      rw [Bool.eq_false_iff, ne_eq, List.isSuffixOf_iff_suffix]
      exact fun hs => hmarks ⟨href, pointerMark, by decide, hs⟩
    simp [marked_basicType_of_reference href h, hread, hbasic]
  | false => rw [marked_basicType_of_plain href]

end Parameter

/-! ### Denied spellings -/

theorem isSome_cutFirst_iff {p s : List Char} : (cutFirst p s).isSome = true ↔ p <:+: s := by
  induction s with
  | nil =>
    rw [cutFirst, List.infix_nil, ← List.isEmpty_iff]
    split <;> simp_all
  | cons c s ih =>
    rw [cutFirst, List.infix_cons_iff, ← ih, ← List.isPrefixOf_iff_prefix]
    split <;> simp_all

theorem occursIn_iff {p s : String} : occursIn p s = true ↔ p.toList <:+: s.toList := isSome_cutFirst_iff

/-- A pattern that denies the end of a spelling denies the spelling. -/
theorem DeniedType.denies_of_suffix {rule : DeniedType} {s t : String} (h : s.toList <:+ t.toList)
    (hs : rule.denies s = true) : rule.denies t = true := by
  unfold DeniedType.denies at *
  split at hs
  · next hmode =>
    rw [if_pos hmode]
    rw [endsWith, List.isSuffixOf_iff_suffix] at *
    exact hs.trans h
  · next hmode =>
    rw [if_neg hmode]
    rw [occursIn_iff] at *
    exact hs.trans h.isInfix

namespace Cpp.Vocabulary

variable {v : Vocabulary}

/-- A spelling that ends one of the same name which is not denied is not denied. -/
theorem isDenied_of_suffix {s t : String} (hname : nameOf s = nameOf t)
    (h : trimChars s.toList <:+ trimChars t.toList) (ht : v.isDenied t = false) : v.isDenied s = false := by
  rw [Bool.eq_false_iff] at *
  intro hs
  refine ht ?_
  simp only [isDenied, Bool.and_eq_true, List.any_eq_true, hname] at *
  obtain ⟨hstring, rule, hrule, hdenies⟩ := hs
  refine ⟨hstring, rule, hrule, DeniedType.denies_of_suffix ?_ hdenies⟩
  rwa [trim, trim, String.toList_ofList, String.toList_ofList]

/-- The spelling that is read is denied only with one of those that are judged. -/
theorem isDenied_readType {p : Parameter} (h : p.SingleConst) (hmarks : ¬ p.DoublyMarked)
    (htype : v.isDenied p.type = false) (hbasic : v.isDenied p.basicType = false) :
    v.isDenied p.readType = false := by
  cases href : p.isReference with
  | true =>
    refine isDenied_of_suffix (Parameter.nameOf_type_of_reference href h).symm ?_ htype
    rw [p.trimChars_readType, Parameter.toList_readType_of_reference href]
    exact suffix_withoutStart solid_constWord (by decide) p.trimChars_spelled
  | false =>
    refine isDenied_of_suffix (Parameter.nameOf_readType h hmarks) ?_ hbasic
    rw [p.trimChars_readType, Parameter.toList_readType_of_plain href]
    have htrim := Parameter.trimChars_basicType_of_plain href
    rw [htrim]
    exact suffix_withoutStart solid_constWord (by decide) htrim

/-! ### Carrying -/

/-- **A parameter is carried as it was judged**: the two spellings have one name and one category. -/
theorem classify_readType {p : Parameter} (h : p.SingleConst) (hmarks : ¬ p.DoublyMarked)
    (htype : v.isDenied p.type = false) (hbasic : v.isDenied p.basicType = false) :
    (v.classify p.readType).name = (v.classify p.basicType).name ∧
      (v.classify p.readType).category = (v.classify p.basicType).category := by
  have hname : (ofText p.readType).name = (ofText p.basicType).name := Parameter.nameOf_readType h hmarks
  simp only [classify, isDenied_readType h hmarks htype hbasic, hbasic, Bool.false_or, hname,
    Parameter.isPointer_readType h hmarks]
  split <;> simp [TypeInfo.name, hname]

/-- Every class and every number goes by its bare name. -/
structure Bare (v : Vocabulary) : Prop where
  /-- The registered classes do. -/
  classes : ∀ name ∈ v.classes, nameOf name = name
  /-- The numbers do. -/
  numbers : ∀ name ∈ v.config.numberTypes, nameOf name = name

/-- The numbers of the default tables go by their bare names, so the classes are all that matters. -/
theorem bare_of_default (hconfig : v.config.numberTypes = Config.default.numberTypes)
    (hclasses : ∀ name ∈ v.classes, IsSettled name) : v.Bare := by
  have hnumbers : ∀ name ∈ Config.default.numberTypes, IsSettled name := by decide +kernel
  exact ⟨fun name h => nameOf_eq_self_iff.2 (hclasses name h), fun name h => nameOf_eq_self_iff.2 (hnumbers name (hconfig ▸ h))⟩

theorem containerElement?_of_mark {w : List Char} (hw : w ∈ marks) {name : String} (h : w <:+ name.toList)
    {suffix : String} (hsuffix : suffix ∈ suffixes) : v.containerElement? suffix name = none := by
  rw [containerElement?, if_neg]
  rw [endsWith, List.isSuffixOf_iff_suffix]
  exact fun hs => not_mark_of_ending (List.mem_append_right _ hsuffix) hs hw h

/-- Bare names do not end with a mark, so what does is not known. -/
theorem categoryOf_of_mark (hv : v.Bare) {w : List Char} (hw : w ∈ marks) {name : String} (h : w <:+ name.toList) :
    v.categoryOf name = .unsupported "" := by
  have hprimitive : ∀ w ∈ marks, ∀ name ∈ ["void", "bool", "string", "String", "Variant"],
      ¬ w <:+ name.toList := by decide
  have hne : ∀ other ∈ ["void", "bool", "string", "String", "Variant"], (name == other) = false := by
    intro other hother
    rw [beq_eq_false_iff_ne]
    rintro rfl
    exact hprimitive w hw _ hother h
  have hnumber : v.isNumber name = false := by
    rw [isNumber, List.contains_eq_mem, decide_eq_false_iff_not]
    exact fun hmem => (isSettled_of_nameOf_eq (hv.numbers name hmem)).unmarked w hw h
  have hclass : v.isRegistered name = false := by
    rw [isRegistered, List.contains_eq_mem, decide_eq_false_iff_not]
    exact fun hmem => (isSettled_of_nameOf_eq (hv.classes name hmem)).unmarked w hw h
  have hcontainer : ∀ suffix ∈ suffixes, v.containerElement? suffix name = none :=
    fun suffix hsuffix => containerElement?_of_mark hw h hsuffix
  simp [categoryOf, StringKind.ofName?, hne, hnumber, hclass, hcontainer "Vector" (by decide),
    hcontainer "Map" (by decide), hcontainer "Ptr" (by decide)]

/-- In a vocabulary of bare names a parameter with two marks is unsupported where it is read. -/
theorem category_readType_of_doublyMarked (hv : v.Bare) {p : Parameter} (h : p.SingleConst)
    (hmarks : p.DoublyMarked) : (v.classify p.readType).category = .unsupported "" := by
  obtain ⟨w, hw, hs⟩ := Parameter.suffix_nameOf_readType h hmarks
  have hcategory := categoryOf_of_mark hv hw hs
  rw [nameOf] at hcategory
  rw [classify]
  split
  · rfl
  · exact hcategory

end Cpp.Vocabulary

end ScriptGlue
