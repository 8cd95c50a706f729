import ScriptGlue.Proofs.Spacing

/-!
# What the rules make of a spelling

The nine rules in two halves. The first four take spaces, constness and one mark off the ends of a spelling
and leave its core (`core`); the other five only rename (`finish`). So the bare name of a spelling depends
on its core alone.
-/

namespace ScriptGlue.Cpp

open ScriptGlue.Text

/-! ### The core of a spelling -/

/-- The word that the rules take off both ends. -/
def constWord : List Char := "const".toList

/-- The mark of a reference. -/
def referenceMark : List Char := ['&']

/-- The mark of a pointer. -/
def pointerMark : List Char := ['*']

theorem solid_constWord : Solid constWord := by decide

theorem solid_referenceMark : Solid referenceMark := by decide

theorem solid_pointerMark : Solid pointerMark := by decide

/-- The text without one reference or pointer mark at its end. -/
def withoutMark (s : List Char) : List Char :=
  if referenceMark <:+ s then withoutEnd referenceMark s else withoutEnd pointerMark s

/-- The text without a leading `const`, one mark and a trailing `const`. -/
def strip (s : List Char) : List Char := withoutEnd constWord (withoutMark (withoutStart constWord s))

/-- A spelling before its marks are taken off. -/
def marked (text : String) : List Char := withoutStart constWord (trimChars text.toList)

/-- What is left of a spelling when its ends are taken off. -/
def core (text : String) : List Char := tighten (strip (trimChars text.toList))

theorem isSuffixOf_tighten {w s : List Char} (hw : Solid w) : w.isSuffixOf (tighten s) = w.isSuffixOf s := by
  rw [Bool.eq_iff_iff, List.isSuffixOf_iff_suffix, List.isSuffixOf_iff_suffix, suffix_tighten_iff hw]

theorem withoutMark_tighten (s : List Char) : withoutMark (tighten s) = tighten (withoutMark s) := by
  simp only [withoutMark, suffix_tighten_iff solid_referenceMark]
  split
  · exact withoutEnd_tighten solid_referenceMark
  · exact withoutEnd_tighten solid_pointerMark

theorem strip_tighten (s : List Char) : strip (tighten s) = tighten (strip s) := by
  rw [strip, withoutStart_tighten solid_constWord, withoutMark_tighten, withoutEnd_tighten solid_constWord, strip]

namespace Rule

/-- The rules that take something off the ends of a spelling. -/
def outer : List Rule := [templateSpacing, leadingConst, indirection, trailingConst]

/-- The rules that rename what is left. -/
def inner (nameOf : String → String) : List Rule :=
  [platformVector, template "Vector" "Vector" nameOf, template "SharedPtr" "Ptr" nameOf, qualification, keyCode]

theorem all_eq (nameOf : String → String) : all nameOf = outer ++ inner nameOf := rfl

theorem step_templateSpacing (d : Descriptor) :
    step d templateSpacing = { d with name := String.ofList (tighten (trimChars d.name.toList)) } := by
  simp only [step, templateSpacing, bne_iff_ne, ne_eq]
  split
  · rfl
  · next h =>
    rw [not_not] at h
    rw [Option.getD_none, h]

theorem step_leadingConst (d : Descriptor) :
    step d leadingConst = { d with
      name := String.ofList (withoutStart constWord d.name.toList)
      isConst := d.isConst || constWord.isPrefixOf d.name.toList } := by
  have hlen : constWord.length = 5 := rfl
  have hword : startsWith d.name "const" = constWord.isPrefixOf d.name.toList := rfl
  cases h : constWord.isPrefixOf d.name.toList <;> simp [step, leadingConst, withoutStart, hword, h, trim, dropStart, hlen]

theorem step_indirection (d : Descriptor) :
    step d indirection = { d with
      name := String.ofList (withoutMark d.name.toList)
      isPointer := d.isPointer || (!referenceMark.isSuffixOf d.name.toList && pointerMark.isSuffixOf d.name.toList)
      isReference := d.isReference || referenceMark.isSuffixOf d.name.toList } := by
  have hreference : endsWith d.name "&" = referenceMark.isSuffixOf d.name.toList := rfl
  have hpointer : endsWith d.name "*" = pointerMark.isSuffixOf d.name.toList := rfl
  have hlenr : referenceMark.length = 1 := rfl
  have hlenp : pointerMark.length = 1 := rfl
  simp only [step, indirection, withoutMark, withoutEnd, ← List.isSuffixOf_iff_suffix, hreference, hpointer]
  cases referenceMark.isSuffixOf d.name.toList
  · cases pointerMark.isSuffixOf d.name.toList <;> simp [trim, dropEnd, hlenp, String.length_toList]
  · simp [trim, dropEnd, hlenr, String.length_toList]

theorem step_trailingConst (d : Descriptor) :
    step d trailingConst = { d with name := String.ofList (withoutEnd constWord d.name.toList) } := by
  have hlen : constWord.length = 5 := rfl
  have hword : endsWith d.name "const" = constWord.isSuffixOf d.name.toList := rfl
  cases h : constWord.isSuffixOf d.name.toList <;>
    simp [step, trailingConst, withoutEnd, hword, h, trim, dropEnd, hlen, String.length_toList]

/-- The name of a template with the argument named. -/
def templateName (outer suffix : String) (nameOf : String → String) (name : String) : String :=
  ((templateArgument? outer name).map fun argument => nameOf argument ++ suffix).getD name

theorem step_platformVector (d : Descriptor) :
    step d platformVector = { d with name := if d.name == "vec" then "float3" else d.name } := by
  cases h : d.name == "vec" <;> simp [step, platformVector, h]

theorem step_template (outer suffix : String) (nameOf : String → String) (d : Descriptor) :
    step d (template outer suffix nameOf) = { d with name := templateName outer suffix nameOf d.name } := by
  cases h : templateArgument? outer d.name <;> simp [step, template, templateName, h]

theorem step_qualification (d : Descriptor) :
    step d qualification = { d with name := stripNamespace scopedNames d.name } := by
  cases h : stripNamespace scopedNames d.name != d.name with
  | true => simp [step, qualification, h]
  | false =>
    rw [bne_eq_false_iff_eq] at h
    simp [step, qualification, h]

theorem step_keyCode (d : Descriptor) :
    step d keyCode = { d with name := if d.name == "Key" || d.name == "KeySequence" then "int" else d.name } := by
  cases h : d.name == "Key" || d.name == "KeySequence" <;> simp only [step, keyCode, h] <;> rfl

end Rule

/-- The name that the inner rules make of a core, the arguments of templates named by `nameOf`. -/
def rename (nameOf : String → String) (name : String) : String :=
  let aliased := if name == "vec" then "float3" else name
  let bare := stripNamespace scopedNames
    (Rule.templateName "SharedPtr" "Ptr" nameOf (Rule.templateName "Vector" "Vector" nameOf aliased))
  if bare == "Key" || bare == "KeySequence" then "int" else bare

theorem Rule.foldl_inner (nameOf : String → String) (d : Descriptor) :
    (Rule.inner nameOf).foldl Rule.step d = { d with name := rename nameOf d.name } := by
  simp only [Rule.inner, List.foldl_cons, List.foldl_nil, Rule.step_platformVector, Rule.step_template,
    Rule.step_qualification, Rule.step_keyCode, rename]

namespace Descriptor

/-- A spelling after the outer rules. -/
theorem foldl_outer (text : String) :
    Rule.outer.foldl Rule.step (start text) =
      { raw := text
        name := String.ofList (core text)
        isConst := constWord.isPrefixOf (tighten (trimChars text.toList))
        isPointer := !referenceMark.isSuffixOf (marked text) && pointerMark.isSuffixOf (marked text)
        isReference := referenceMark.isSuffixOf (marked text) } := by
  simp only [Rule.outer, List.foldl_cons, List.foldl_nil, Rule.step_templateSpacing, Rule.step_leadingConst,
    Rule.step_indirection, Rule.step_trailingConst, start, trim, String.toList_ofList, trimChars_idem,
    withoutStart_tighten solid_constWord, Bool.false_or, core, marked, strip, withoutMark_tighten,
    withoutEnd_tighten solid_constWord, isSuffixOf_tighten solid_referenceMark, isSuffixOf_tighten solid_pointerMark]

/-! ### Arguments of templates are shorter -/

theorem withoutStart_sublist (w s : List Char) : (withoutStart w s).Sublist s := by
  unfold withoutStart
  split
  · exact (trimChars_sublist _).trans (List.drop_sublist _ _)
  · exact List.Sublist.refl s

theorem withoutEnd_sublist (w s : List Char) : (withoutEnd w s).Sublist s := by
  unfold withoutEnd
  split
  · exact (trimChars_sublist _).trans (List.take_sublist _ _)
  · exact List.Sublist.refl s

theorem withoutMark_sublist (s : List Char) : (withoutMark s).Sublist s := by
  unfold withoutMark
  split <;> exact withoutEnd_sublist _ s

theorem strip_sublist (s : List Char) : (strip s).Sublist s :=
  ((withoutEnd_sublist _ _).trans (withoutMark_sublist _)).trans (withoutStart_sublist _ s)

/-- Only characters of the spelling are in its core. -/
theorem core_sublist (text : String) : (core text).Sublist text.toList :=
  ((tighten_sublist _).trans (strip_sublist _)).trans (trimChars_sublist _)

theorem templateArgument?_length {outer name argument : String}
    (h : Rule.templateArgument? outer name = some argument) : argument.length < name.length := by
  unfold Rule.templateArgument? at h
  split at h
  · next hname =>
    rw [Bool.and_eq_true] at hname
    have hlen : 0 < name.length := by
      have := (List.isPrefixOf_iff_prefix.1 hname.1).length_le
      simp only [String.length_toList, String.length_append] at this
      have : "<".length = 1 := rfl
      omega
    rw [Option.some.injEq] at h
    subst h
    simp only [dropEnd, dropStart, String.length_ofList, String.toList_ofList, List.length_take, List.length_drop,
      String.length_toList]
    omega
  · cases h

theorem getLast?_of_suffix {w s : List Char} (hne : w ≠ []) (h : w <:+ s) : s.getLast? = w.getLast? := by
  obtain ⟨r, rfl⟩ := h
  exact List.getLast?_append_of_ne_nil r hne

/-- A name that ends with a solid word is no template. -/
theorem templateArgument?_of_suffix {w : List Char} (hw : Solid w) (hne : w ≠ []) {name : String}
    (h : w <:+ name.toList) (outer : String) : Rule.templateArgument? outer name = none := by
  have hend : endsWith name ">" = false := by
    rw [Bool.eq_false_iff, ne_eq, endsWith, List.isSuffixOf_iff_suffix]
    intro hc
    have hlast := (getLast?_of_suffix hne h).symm.trans (getLast?_of_suffix (by decide) hc)
    exact (hw '>' (List.mem_of_getLast? hlast)).2.2 rfl
  simp [Rule.templateArgument?, hend]

theorem suffix_toList_append (s t : String) : t.toList <:+ (s ++ t).toList := by
  rw [String.toList_append]
  exact List.suffix_append _ _

/-- A name made of the name of a vector is no template. -/
theorem templateArgument?_vector (s : String) : Rule.templateArgument? "SharedPtr" (s ++ "Vector") = none :=
  templateArgument?_of_suffix (by decide) (by decide) (suffix_toList_append s "Vector") "SharedPtr"

/-- A template is named in the same way by functions that agree on what is shorter. -/
theorem templateName_congr {f g : String → String} {name : String}
    (h : ∀ argument, argument.length < name.length → f argument = g argument) (outer suffix : String) :
    Rule.templateName outer suffix f name = Rule.templateName outer suffix g name := by
  unfold Rule.templateName
  cases harg : Rule.templateArgument? outer name with
  | none => rfl
  | some argument => rw [Option.map_some, Option.map_some, h argument (templateArgument?_length harg)]

theorem rename_congr {f g : String → String} {name : String}
    (h : ∀ argument, argument.length < name.length → f argument = g argument) : rename f name = rename g name := by
  by_cases hvec : name = "vec"
  · subst hvec
    simp [rename, Rule.templateName, Rule.templateArgument?, startsWith]
  · have hself : (if name == "vec" then "float3" else name) = name := by simp [hvec]
    simp only [rename, hself, templateName_congr h "Vector" "Vector"]
    -- only one of the two templates can apply
    have hshared : Rule.templateName "SharedPtr" "Ptr" f (Rule.templateName "Vector" "Vector" g name) =
        Rule.templateName "SharedPtr" "Ptr" g (Rule.templateName "Vector" "Vector" g name) := by
      cases harg : Rule.templateArgument? "Vector" name with
      | none =>
        have hname : Rule.templateName "Vector" "Vector" g name = name := by simp [Rule.templateName, harg]
        rw [hname, templateName_congr h]
      | some argument =>
        have hname : Rule.templateName "Vector" "Vector" g name = g argument ++ "Vector" := by
          simp [Rule.templateName, harg]
        rw [hname]
        simp [Rule.templateName, templateArgument?_vector]
    rw [hshared]

/-- The rules on a spelling, without the measure by which the arguments of templates are named. -/
theorem ofText_eq (text : String) : ofText text = (Rule.all nameOf).foldl Rule.step (start text) := by
  unfold ofText
  have hlen : (String.ofList (core text)).length ≤ text.length := by
    rw [String.length_ofList, ← String.length_toList]
    exact (core_sublist text).length_le
  have hname : rename (fun argument => if argument.length < text.length then (ofText argument).name else argument)
      (String.ofList (core text)) = rename nameOf (String.ofList (core text)) := by
    refine rename_congr fun argument h => ?_
    rw [if_pos (Nat.lt_of_lt_of_le h hlen), nameOf]
  rw [Rule.all_eq, Rule.all_eq, List.foldl_append, List.foldl_append, foldl_outer, Rule.foldl_inner, Rule.foldl_inner, hname]

/-! ### Bare names -/

/-- The bare name that the inner rules make of a core. -/
def finish (name : String) : String := rename nameOf name

/-- **The descriptor of a spelling**: its name is made of its core, and its marks are those that taking its
ends off meets. -/
theorem ofText_eq_core (text : String) :
    ofText text =
      { raw := text
        name := finish (String.ofList (core text))
        isConst := constWord.isPrefixOf (tighten (trimChars text.toList))
        isPointer := !referenceMark.isSuffixOf (marked text) && pointerMark.isSuffixOf (marked text)
        isReference := referenceMark.isSuffixOf (marked text) } := by
  rw [ofText_eq, Rule.all_eq, List.foldl_append, foldl_outer, Rule.foldl_inner, finish]

theorem nameOf_eq_finish (text : String) : nameOf text = finish (String.ofList (core text)) := by
  rw [nameOf, ofText_eq_core]

/-! ### Marks stay at the end -/

/-- What a bare name does not end with. -/
def marks : List (List Char) := [referenceMark, pointerMark, constWord]

theorem cutLast_eq {p s before after : List Char} (h : cutLast p s = some (before, after)) :
    s = before ++ p ++ after := by
  induction s generalizing before after with
  | nil =>
    simp only [cutLast] at h
    split at h <;> simp_all
  | cons c s ih =>
    simp only [cutLast] at h
    split at h
    · next b a hc =>
      cases h
      rw [ih hc, List.cons_append, List.cons_append]
    · split at h
      · next hp =>
        obtain ⟨r, hr⟩ := List.isPrefixOf_iff_prefix.1 hp
        cases h
        simp [← hr]
      · cases h

/-- A word without a colon that ends a name also ends it without its qualification. -/
theorem suffix_stripNamespace {w : List Char} (hw : ':' ∉ w) {name : String} (h : w <:+ name.toList) :
    w <:+ (stripNamespace scopedNames name).toList := by
  unfold stripNamespace cutNamespace?
  cases hcut : cutLast "::".toList name.toList with
  | none => exact h
  | some parts =>
    obtain ⟨before, after⟩ := parts
    have hname := cutLast_eq hcut
    by_cases hkeep : (before.isEmpty || scopedNames.any (startsWith name)) = true
    · simpa [hkeep] using h
    · rw [Bool.not_eq_true] at hkeep
      simp only [hkeep, Bool.false_eq_true, if_false, String.toList_ofList]
      obtain ⟨r, hr⟩ := h
      rw [hname] at hr
      rcases List.append_eq_append_iff.1 hr with ⟨l, hr', hl⟩ | ⟨l, -, hl⟩
      · -- the word cannot reach into the colons
        rcases List.eq_nil_or_concat l with rfl | ⟨l, c, rfl⟩
        · exact ⟨[], by simpa using hl⟩
        · have hlast := congrArg List.getLast? hr'
          simp only [List.concat_eq_append, List.getLast?_append, List.getLast?_singleton, Option.some_or] at hlast
          have hc : c = ':' := by simpa using hlast.symm
          exact absurd (by rw [hl, hc]; simp) hw
      · exact ⟨l, hl.symm⟩

/-- The words that may be left at the end of a name: each is solid and ends no alias and no name that has one. -/
theorem mark_of_mem {w : List Char} (hw : w ∈ marks) :
    Solid w ∧ w ≠ [] ∧ ':' ∉ w ∧ ∀ name ∈ ["vec", "Key", "KeySequence", "float3", "int"], ¬ w <:+ name.toList := by
  revert w
  decide

/-- A name that ends with a mark is no template. -/
theorem templateName_of_mark {w : List Char} (hw : w ∈ marks) {name : String} (h : w <:+ name.toList)
    (outer suffix : String) (nameOf : String → String) : Rule.templateName outer suffix nameOf name = name := by
  obtain ⟨hsolid, hne, -, -⟩ := mark_of_mem hw
  simp [Rule.templateName, templateArgument?_of_suffix hsolid hne h]

/-- The inner rules leave a mark where it is. -/
theorem suffix_finish {w : List Char} (hw : w ∈ marks) {name : String} (h : w <:+ name.toList) :
    w <:+ (finish name).toList := by
  obtain ⟨-, -, hcolon, halias⟩ := mark_of_mem hw
  have hvec : name ≠ "vec" := by
    rintro rfl
    exact halias _ (by simp) h
  have hbare := suffix_stripNamespace hcolon h
  have hkey : (stripNamespace scopedNames name == "Key" || stripNamespace scopedNames name == "KeySequence") = false := by
    rw [Bool.or_eq_false_iff, beq_eq_false_iff_ne, beq_eq_false_iff_ne]
    constructor <;> intro hc <;> rw [hc] at hbare <;> exact halias _ (by simp) hbare
  simpa [finish, rename, hvec, templateName_of_mark hw h, hkey] using hbare

end Descriptor

end ScriptGlue.Cpp
