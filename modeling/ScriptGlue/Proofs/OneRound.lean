import ScriptGlue.Proofs.BareNames

/-!
# One round of the rules

A round tries each rule once and in order, so it can leave what an earlier rule would have taken off: a second mark, a
blank or a `const` behind a qualification, a template in a namespace. **`nameOf_nameOf_iff`** says of which spellings a
round leaves a name that a second one keeps. Of a container only the start of its innermost argument counts, since its
suffix hides the end of every argument.
-/

namespace ScriptGlue.Cpp.Descriptor

open ScriptGlue.Text

/-! ### A qualification goes at once -/

theorem cutLast_eq_none_iff {p s : List Char} (hp : p ≠ []) : cutLast p s = none ↔ ¬ p <:+: s := by
  induction s with
  | nil => simp [cutLast, hp]
  | cons c s ih =>
    rw [cutLast, List.infix_cons_iff, not_or, ← ih, ← List.isPrefixOf_iff_prefix]
    cases hcut : cutLast p s with
    | some parts => simp
    | none => simp

/-- Nothing after the last occurrence is another. -/
theorem cutLast_of_cutLast {p s before after : List Char} (hp : p ≠ []) (h : cutLast p s = some (before, after)) :
    cutLast p after = none := by
  induction s generalizing before with
  | nil => simp [cutLast, hp] at h
  | cons c s ih =>
    rw [cutLast] at h
    cases hcut : cutLast p s with
    | some parts =>
      rw [hcut] at h
      cases h
      exact ih hcut
    | none =>
      rw [hcut] at h
      obtain ⟨d, p, rfl⟩ := List.exists_cons_of_ne_nil hp
      simp only [Option.ite_none_right_eq_some, Option.some.injEq, Prod.mk.injEq] at h
      rw [cutLast_eq_none_iff hp] at hcut ⊢
      -- what follows an occurrence at the start is an end of `s`
      rw [← h.2.2, List.length_cons, List.drop_succ_cons]
      exact fun hc => hcut (hc.trans (List.drop_suffix _ s).isInfix)

theorem toList_stripNamespace_suffix (keep : List String) (name : String) :
    (stripNamespace keep name).toList <:+ name.toList := by
  unfold stripNamespace
  cases hcut : cutNamespace? keep name with
  | none => exact List.suffix_refl _
  | some parts =>
    rw [cutLast_eq (cutLast_of_cutNamespace? hcut)]
    exact List.suffix_append _ _

theorem stripNamespace_idem (keep : List String) (name : String) :
    stripNamespace keep (stripNamespace keep name) = stripNamespace keep name := by
  rw [stripNamespace_eq_self_iff]
  cases hcut : cutNamespace? keep name with
  | none => rwa [stripNamespace_eq_self_iff.2 hcut]
  | some parts =>
    have hname : stripNamespace keep name = parts.2 := by rw [stripNamespace, hcut]
    rw [hname, cutNamespace?, cutLast_of_cutLast (by decide) (cutLast_of_cutNamespace? hcut)]

theorem stripNamespace_finish (name : String) : stripNamespace scopedNames (finish name) = finish name := by
  cases h : container? name with
  | some parts => rw [finish_of_container? h, stripNamespace_idem]
  | none =>
    rcases alias_or_isUnaliased h with (rfl | hkey) | hname
    · rw [finish_vec]
      decide
    · rw [finish_key h hkey]
      decide
    · rw [hname.finish_eq, stripNamespace_idem]

/-! ### Cores -/

theorem trimChars_withoutMark {s : List Char} (hs : trimChars s = s) : trimChars (withoutMark s) = withoutMark s := by
  unfold withoutMark
  split <;> exact trimChars_withoutEnd hs

theorem trimChars_core (text : String) : trimChars (core text) = core text := by
  rw [core, trimChars_tighten, strip,
    trimChars_withoutEnd (trimChars_withoutMark (trimChars_withoutStart (trimChars_idem _)))]

/-- The core of a spelling as a name. -/
def coreName (text : String) : String := String.ofList (core text)

/-- A bare name has no qualification that could go. -/
theorem stripNamespace_nameOf (text : String) : stripNamespace scopedNames (nameOf text) = nameOf text := by
  rw [nameOf_eq_finish, stripNamespace_finish]

/-- The core without its qualification. -/
def unqualified (text : String) : String := stripNamespace scopedNames (coreName text)

theorem nameOf_of_container? {text argument suffix : String} (h : container? (coreName text) = some (argument, suffix)) :
    nameOf text = nameOf argument ++ suffix := by
  have hcolon := (solid_ending (List.mem_append_right _ (suffix_mem_of_container? h))).2.2
  rw [nameOf_eq_finish, ← coreName, finish_of_container? h, stripNamespace_append (stripNamespace_nameOf argument) hcolon]

theorem trimChars_coreName (text : String) : trimChars (coreName text).toList = (coreName text).toList := by
  rw [coreName, String.toList_ofList, trimChars_core]

theorem length_coreName_le (text : String) : (coreName text).length ≤ text.length := by
  have hcore := (core_sublist text).length_le
  rwa [String.length_toList, ← String.length_ofList] at hcore

/-! ### Starts -/

/-- The name inside all containers is tidy. -/
inductive IsTidyInside : String → Prop
  | container {text argument suffix : String} :
      container? (coreName text) = some (argument, suffix) → IsTidyInside argument → IsTidyInside text
  | plain {text : String} : container? (coreName text) = none → IsTidy (unqualified text) → IsTidyInside text

/-- Renaming a core that is no container does not change whether it is tidy. -/
theorem isTidy_finish_iff {name : String} (h : container? name = none) :
    IsTidy (finish name) ↔ IsTidy (stripNamespace scopedNames name) := by
  rcases alias_or_isUnaliased h with (rfl | hkey) | hname
  · rw [finish_vec]
    decide
  · have hall : ∀ key ∈ ["Key", "KeySequence"], IsTidy "int" ↔ IsTidy key := by decide
    rw [finish_key h hkey]
    exact hall _ hkey
  · rw [hname.finish_eq]

theorem isTidy_nameOf_iff (text : String) : IsTidy (nameOf text) ↔ IsTidyInside text := by
  cases h : container? (coreName text) with
  | none =>
    rw [nameOf_eq_finish, ← coreName, isTidy_finish_iff h, ← unqualified]
    refine ⟨IsTidyInside.plain h, fun hinside => ?_⟩
    cases hinside with
    | container hc => cases h.symm.trans hc
    | plain _ htidy => exact htidy
  | some parts =>
    obtain ⟨argument, suffix⟩ := parts
    have hshorter : argument.length < text.length := (length_of_container? h).trans_le (length_coreName_le text)
    rw [nameOf_of_container? h, isTidy_append_iff (suffix_mem_of_container? h), isTidy_nameOf_iff argument]
    refine ⟨IsTidyInside.container h, fun hinside => ?_⟩
    cases hinside with
    | container hc hargument =>
      cases h.symm.trans hc
      exact hargument
    | plain hc => cases h.symm.trans hc
termination_by text.length

/-! ### Ends -/

/-- The qualification of a core hides nothing, and no mark is left behind it. -/
structure IsPlain (name : String) : Prop where
  unmarked : ∀ w ∈ marks, ¬ w <:+ name.toList
  vec : stripNamespace scopedNames name = "vec" → name = "vec"
  container : container? (stripNamespace scopedNames name) = none

theorem isPlain_vec : IsPlain "vec" := ⟨by decide, fun _ => rfl, by decide⟩

theorem isPlain_key {name : String} (hkey : stripNamespace scopedNames name ∈ ["Key", "KeySequence"]) : IsPlain name := by
  have hall : ∀ key ∈ ["Key", "KeySequence"], key ≠ "vec" ∧ container? key = none ∧ ∀ w ∈ marks, ¬ w <:+ key.toList := by
    decide
  obtain ⟨hvec, hcontainer, hmarks⟩ := hall _ hkey
  refine ⟨fun w hw hc => ?_, fun hc => absurd hc hvec, hcontainer⟩
  exact hmarks w hw (suffix_stripNamespace (mark_of_mem hw).2.2.1 hc)

/-- A core that is no container gets a settled name if it is tidy and plain. -/
theorem isSettled_finish_iff {name : String} (h : container? name = none) (htrim : trimChars name.toList = name.toList) :
    IsSettled (finish name) ↔ IsTidy (stripNamespace scopedNames name) ∧ IsPlain name := by
  rcases alias_or_isUnaliased h with (rfl | hkey) | hname
  · rw [finish_vec]
    exact iff_of_true (by decide) ⟨by decide, isPlain_vec⟩
  · have hall : ∀ key ∈ ["Key", "KeySequence"], IsTidy key := by decide
    rw [finish_key h hkey]
    exact iff_of_true (by decide) ⟨hall _ hkey, isPlain_key hkey⟩
  rw [hname.finish_eq]
  have hsuffix := toList_stripNamespace_suffix scopedNames name
  constructor
  · intro hsettled
    refine ⟨hsettled.isTidy, fun w hw hc => ?_, fun hc => absurd hc hsettled.vec, ?_⟩
    · exact hsettled.unmarked w hw (suffix_stripNamespace (mark_of_mem hw).2.2.1 hc)
    · exact container?_eq_none_iff.2 ⟨hsettled.vector, hsettled.sharedPtr⟩
  · rintro ⟨htidy, hplain⟩
    obtain ⟨hvector, hptr⟩ := container?_eq_none_iff.1 hplain.container
    have hbare := stripNamespace_idem scopedNames name
    have htrimmed : trimChars (stripNamespace scopedNames name).toList = (stripNamespace scopedNames name).toList := by
      obtain ⟨before, hbefore⟩ := hsuffix
      rw [trimChars, htidy.trimmedStart]
      refine trimEndChars_of_append (s := before) ?_
      rw [hbefore]
      exact trimEndChars_of_trimChars htrim
    exact
      { htidy with
        vec := fun hc => hname.vec (hplain.vec hc)
        vector := hvector
        sharedPtr := hptr
        key := by rw [hbare]; exact hname.key
        keySequence := by rw [hbare]; exact hname.keySequence
        trimmed := htrimmed
        unmarked := fun w hw hc => hplain.unmarked w hw (hc.trans hsuffix)
        unqualified := hbare }

/-! ### Second rounds -/

/-- One round of the rules leaves a second nothing to do. -/
structure IsReducedOnce (text : String) : Prop where
  tidy : IsTidyInside text
  plain : container? (coreName text) = none → IsPlain (coreName text)

theorem isSettled_nameOf_iff (text : String) : IsSettled (nameOf text) ↔ IsReducedOnce text := by
  cases h : container? (coreName text) with
  | none =>
    rw [nameOf_eq_finish, ← coreName, isSettled_finish_iff h (trimChars_coreName text), ← isTidy_finish_iff h, coreName,
      ← nameOf_eq_finish, isTidy_nameOf_iff]
    exact ⟨fun ⟨htidy, hplain⟩ => ⟨htidy, fun _ => hplain⟩, fun hreduced => ⟨hreduced.tidy, hreduced.plain h⟩⟩
  | some parts =>
    obtain ⟨argument, suffix⟩ := parts
    have hs := suffix_mem_of_container? h
    have htidy := isTidy_nameOf_iff text
    rw [nameOf_of_container? h, isTidy_append_iff hs] at htidy
    rw [nameOf_of_container? h, isSettled_append_iff (stripNamespace_nameOf argument) hs, htidy]
    refine ⟨fun hinside => ⟨hinside, fun hnone => ?_⟩, IsReducedOnce.tidy⟩
    cases h.symm.trans hnone

/-- **A name is kept by a second round just if the first was enough.** -/
theorem nameOf_nameOf_iff (text : String) : nameOf (nameOf text) = nameOf text ↔ IsReducedOnce text :=
  nameOf_eq_self_iff.trans (isSettled_nameOf_iff text)

/-- The mark of a constant pointer comes to the end only when its `const` is taken off, after the rule for marks. -/
theorem nameOf_nameOf_ne : nameOf (nameOf "float3 * const") ≠ nameOf "float3 * const" := by decide +kernel

end ScriptGlue.Cpp.Descriptor
