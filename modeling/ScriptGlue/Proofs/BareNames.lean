import ScriptGlue.Proofs.Reduction

/-!
# Bare names

In a bare name the rules find nothing to do. **`nameOf_eq_self_iff`** says when a name is its own bare name: it is
trimmed and tight, has no constness and no mark at its ends, is neither an alias nor a template, and has no
qualification that could go. A suffix of a container gives the rules nothing to do either (`IsSettled.append`), so the
name of a container is as bare as that of its elements.
-/

namespace ScriptGlue.Cpp.Descriptor

open ScriptGlue.Text

/-! ### Names that keep their core -/

/-- No rule renames the name, though one may take its qualification off. -/
structure IsUnaliased (name : String) : Prop where
  vec : name ≠ "vec"
  vector : Rule.templateArgument? "Vector" name = none
  sharedPtr : Rule.templateArgument? "SharedPtr" name = none
  key : stripNamespace scopedNames name ≠ "Key"
  keySequence : stripNamespace scopedNames name ≠ "KeySequence"

instance (name : String) : Decidable (IsUnaliased name) :=
  decidable_of_iff (name ≠ "vec" ∧ Rule.templateArgument? "Vector" name = none ∧
      Rule.templateArgument? "SharedPtr" name = none ∧ stripNamespace scopedNames name ≠ "Key" ∧
      stripNamespace scopedNames name ≠ "KeySequence")
    ⟨fun ⟨hvec, hvector, hptr, hkey, hsequence⟩ => ⟨hvec, hvector, hptr, hkey, hsequence⟩,
      fun ⟨hvec, hvector, hptr, hkey, hsequence⟩ => ⟨hvec, hvector, hptr, hkey, hsequence⟩⟩

theorem IsUnaliased.finish_eq {name : String} (h : IsUnaliased name) : finish name = stripNamespace scopedNames name := by
  simp [finish, rename, Rule.templateName, h.vec, h.vector, h.sharedPtr, h.key, h.keySequence]

theorem cutLast_of_cutNamespace? {keep : List String} {name before after : String}
    (h : cutNamespace? keep name = some (before, after)) :
    cutLast "::".toList name.toList = some (before.toList, after.toList) := by
  unfold cutNamespace? at h
  split at h
  · next hcut =>
    split at h
    · cases h
    · cases h
      rw [hcut, String.toList_ofList, String.toList_ofList]
  · cases h

theorem length_of_cutNamespace? {keep : List String} {name before after : String}
    (h : cutNamespace? keep name = some (before, after)) : after.length < name.length := by
  have hlen := congrArg List.length (cutLast_eq (cutLast_of_cutNamespace? h))
  have hcolons : "::".length = 2 := rfl
  simp only [String.length_toList, List.length_append] at hlen
  omega

theorem length_stripNamespace_le (keep : List String) (name : String) :
    (stripNamespace keep name).length ≤ name.length := by
  unfold stripNamespace
  cases hcut : cutNamespace? keep name with
  | none => exact Nat.le_refl _
  | some parts => exact (length_of_cutNamespace? hcut).le

/-- A name keeps its qualification just if there is none that could go. -/
theorem stripNamespace_eq_self_iff {keep : List String} {name : String} :
    stripNamespace keep name = name ↔ cutNamespace? keep name = none := by
  unfold stripNamespace
  cases hcut : cutNamespace? keep name with
  | none => simp
  | some parts =>
    have hlen := length_of_cutNamespace? hcut
    simp only [reduceCtorEq, iff_false]
    intro heq
    rw [heq] at hlen
    omega

/-! ### Endings -/

/-- The suffixes that the names of containers have. -/
def suffixes : List String := ["Vector", "Map", "Ptr"]

/-- The endings of names with which the rules have nothing to do: the suffixes, and the names that aliases stand for. -/
def endings : List String := ["float3", "int"] ++ suffixes

theorem solid_ending {e : String} (he : e ∈ endings) : Solid e.toList ∧ e.toList ≠ [] ∧ ':' ∉ e.toList := by
  revert e
  decide

theorem apart_ending {e : String} (he : e ∈ endings) : Apart constWord e.toList ∧ constWord ≠ e.toList := by
  revert e
  decide

/-- A text that ends so ends with no mark. -/
theorem not_mark_of_ending {e : String} (he : e ∈ endings) {s : List Char} (h : e.toList <:+ s) {w : List Char}
    (hw : w ∈ marks) : ¬ w <:+ s := by
  have hdisjoint : ∀ w ∈ marks, ∀ e ∈ endings, ¬ w <:+ e.toList ∧ ¬ e.toList <:+ w := by decide
  intro hc
  rcases List.suffix_or_suffix_of_suffix hc h with hc | hc
  · exact (hdisjoint w hw e he).1 hc
  · exact (hdisjoint w hw e he).2 hc

theorem isUnaliased_of_ending {e : String} (he : e ∈ endings) {name : String} (h : e.toList <:+ name.toList) :
    IsUnaliased name := by
  have halias : ∀ e ∈ endings, ∀ other ∈ ["vec", "Key", "KeySequence"], ¬ e.toList <:+ other.toList := by decide
  have hother : ∀ s : String, e.toList <:+ s.toList → ∀ other ∈ ["vec", "Key", "KeySequence"], s ≠ other := by
    rintro s hs other hmem rfl
    exact halias e he s hmem hs
  obtain ⟨hsolid, hne, hcolon⟩ := solid_ending he
  have hbare := suffix_stripNamespace hcolon h
  exact
    { vec := hother name h _ (by simp)
      vector := templateArgument?_of_suffix hsolid hne h "Vector"
      sharedPtr := templateArgument?_of_suffix hsolid hne h "SharedPtr"
      key := hother _ hbare _ (by simp)
      keySequence := hother _ hbare _ (by simp) }

/-- The argument of a name that is the template of a container, and the suffix that names the container. -/
def container? (name : String) : Option (String × String) :=
  match Rule.templateArgument? "Vector" name with
  | some argument => some (argument, "Vector")
  | none => (Rule.templateArgument? "SharedPtr" name).map fun argument => (argument, "Ptr")

theorem container?_eq_none_iff {name : String} :
    container? name = none ↔
      Rule.templateArgument? "Vector" name = none ∧ Rule.templateArgument? "SharedPtr" name = none := by
  unfold container?
  split <;> simp_all

theorem suffix_mem_of_container? {name argument suffix : String} (h : container? name = some (argument, suffix)) :
    suffix ∈ suffixes := by
  unfold container? at h
  split at h
  · cases h
    decide
  · obtain ⟨argument, -, hpair⟩ := Option.map_eq_some_iff.1 h
    cases hpair
    decide

theorem length_of_container? {name argument suffix : String} (h : container? name = some (argument, suffix)) :
    argument.length < name.length := by
  unfold container? at h
  split at h
  · next hvector =>
    cases h
    exact templateArgument?_length hvector
  · obtain ⟨argument, hptr, hpair⟩ := Option.map_eq_some_iff.1 h
    cases hpair
    exact templateArgument?_length hptr

/-- The name of a container is that of its argument with the suffix. -/
theorem finish_of_container? {name argument suffix : String} (h : container? name = some (argument, suffix)) :
    finish name = stripNamespace scopedNames (nameOf argument ++ suffix) := by
  have hvec : name ≠ "vec" := by
    rintro rfl
    cases (show container? "vec" = none by decide).symm.trans h
  have hname : IsUnaliased (nameOf argument ++ suffix) :=
    isUnaliased_of_ending (List.mem_append_right _ (suffix_mem_of_container? h)) (suffix_toList_append _ suffix)
  unfold container? at h
  split at h
  · next hvector =>
    cases h
    simp [finish, rename, Rule.templateName, hvec, hvector, hname.sharedPtr, hname.key, hname.keySequence]
  · next hvector =>
    obtain ⟨argument, hptr, hpair⟩ := Option.map_eq_some_iff.1 h
    cases hpair
    simp [finish, rename, Rule.templateName, hvec, hvector, hptr, hname.key, hname.keySequence]

/-- A name that is neither an alias nor a container loses at most its qualification. -/
theorem alias_or_isUnaliased {name : String} (h : container? name = none) :
    (name = "vec" ∨ stripNamespace scopedNames name ∈ ["Key", "KeySequence"]) ∨ IsUnaliased name := by
  obtain ⟨hvector, hptr⟩ := container?_eq_none_iff.1 h
  rw [or_iff_not_imp_left, not_or]
  rintro ⟨hvec, hkey⟩
  simp only [List.mem_cons, List.not_mem_nil, or_false, not_or] at hkey
  exact ⟨hvec, hvector, hptr, hkey.1, hkey.2⟩

theorem finish_vec : finish "vec" = "float3" := by
  have hbare : stripNamespace scopedNames "float3" = "float3" := by decide
  simp [finish, rename, Rule.templateName, Rule.templateArgument?, startsWith, hbare]

theorem finish_key {name : String} (h : container? name = none)
    (hkey : stripNamespace scopedNames name ∈ ["Key", "KeySequence"]) : finish name = "int" := by
  obtain ⟨hvector, hptr⟩ := container?_eq_none_iff.1 h
  have hvec : name ≠ "vec" := by
    rintro rfl
    exact absurd hkey (by decide)
  simp only [List.mem_cons, List.not_mem_nil, or_false] at hkey
  simp [finish, rename, Rule.templateName, hvec, hvector, hptr, hkey]

/-- A name that the renaming rules change, the qualification apart, gets one of the endings. -/
theorem isUnaliased_or (name : String) : IsUnaliased name ∨ ∃ e ∈ endings, e.toList <:+ (finish name).toList := by
  cases hcontainer : container? name with
  | some parts =>
    obtain ⟨argument, suffix⟩ := parts
    have he : suffix ∈ endings := List.mem_append_right _ (suffix_mem_of_container? hcontainer)
    refine .inr ⟨suffix, he, ?_⟩
    rw [finish_of_container? hcontainer]
    exact suffix_stripNamespace (solid_ending he).2.2 (suffix_toList_append _ suffix)
  | none =>
    rcases alias_or_isUnaliased hcontainer with (rfl | hkey) | hname
    · exact .inr ⟨"float3", by decide, by rw [finish_vec]⟩
    · exact .inr ⟨"int", by decide, by rw [finish_key hcontainer hkey]⟩
    · exact .inl hname

/-- An ending of a name is one of its core. -/
theorem suffix_core_of_ending {e : String} (he : e ∈ endings) {name : String} (h : e.toList <:+ name.toList) :
    e.toList <:+ core name := by
  obtain ⟨hsolid, hne, -⟩ := solid_ending he
  obtain ⟨hapart, hconst⟩ := apart_ending he
  have htrim : e.toList <:+ trimChars name.toList := by
    obtain ⟨r, hr⟩ := h
    rw [← hr, trimChars_concat hsolid hne]
    exact List.suffix_append _ _
  have hstart : e.toList <:+ withoutStart constWord (trimChars name.toList) :=
    suffix_withoutStart_of_apart hsolid hne hapart hconst htrim
  have hmarks : ∀ w ∈ marks, ¬ w <:+ withoutStart constWord (trimChars name.toList) :=
    fun w hw => not_mark_of_ending he hstart hw
  rw [core, suffix_tighten_iff hsolid, strip, withoutMark, if_neg (hmarks _ (by decide)),
    withoutEnd_of_not (hmarks pointerMark (by decide)), withoutEnd_of_not (hmarks constWord (by decide))]
  exact hstart

/-! ### Names that are their own -/

theorem length_withoutStart_lt {w s : List Char} (hne : w ≠ []) (h : w <+: s) :
    (withoutStart w s).length < s.length := by
  obtain ⟨r, rfl⟩ := h
  have hr := (trimChars_sublist r).length_le
  have hw := List.length_pos_iff.2 hne
  rw [withoutStart_append, List.length_append]
  omega

theorem length_withoutEnd_lt {w s : List Char} (hne : w ≠ []) (h : w <:+ s) :
    (withoutEnd w s).length < s.length := by
  obtain ⟨r, rfl⟩ := h
  have hr := (trimChars_sublist r).length_le
  have hw := List.length_pos_iff.2 hne
  rw [withoutEnd_concat, List.length_append]
  omega

/-- Taking the ends off a text changes it unless it begins with no `const` and ends with no mark. -/
theorem not_mark_of_strip_eq {s : List Char} (h : strip s = s) :
    ¬ constWord <+: s ∧ ∀ w ∈ marks, ¬ w <:+ s := by
  have hend := (withoutEnd_sublist constWord (withoutMark (withoutStart constWord s))).length_le
  have hmark := (withoutMark_sublist (withoutStart constWord s)).length_le
  have hstart := (withoutStart_sublist constWord s).length_le
  have hlen := congrArg List.length h
  rw [strip] at hlen
  have hconst : ¬ constWord <+: s := by
    intro hc
    have := length_withoutStart_lt (by decide) hc
    omega
  rw [withoutStart_of_not hconst] at *
  have href : ¬ referenceMark <:+ s := by
    intro hc
    have := length_withoutEnd_lt (by decide) hc
    rw [withoutMark, if_pos hc] at *
    omega
  rw [withoutMark, if_neg href] at *
  have hptr : ¬ pointerMark <:+ s := by
    intro hc
    have := length_withoutEnd_lt (by decide) hc
    omega
  rw [withoutEnd_of_not hptr] at *
  have hword : ¬ constWord <:+ s := by
    intro hc
    have := length_withoutEnd_lt (by decide) hc
    omega
  exact ⟨hconst, by simp [marks, href, hptr, hword]⟩

/-- No rule has anything to do in the name. -/
structure IsSettled (name : String) : Prop extends IsUnaliased name where
  trimmed : trimChars name.toList = name.toList
  tight : tighten name.toList = name.toList
  notConst : ¬ constWord <+: name.toList
  unmarked : ∀ w ∈ marks, ¬ w <:+ name.toList
  unqualified : stripNamespace scopedNames name = name

instance (name : String) : Decidable (IsSettled name) :=
  decidable_of_iff (IsUnaliased name ∧ trimChars name.toList = name.toList ∧ tighten name.toList = name.toList ∧
      ¬ constWord <+: name.toList ∧ (∀ w ∈ marks, ¬ w <:+ name.toList) ∧ stripNamespace scopedNames name = name)
    ⟨fun ⟨hname, htrim, htight, hconst, hmarks, hbare⟩ => ⟨hname, htrim, htight, hconst, hmarks, hbare⟩,
      fun ⟨hname, htrim, htight, hconst, hmarks, hbare⟩ => ⟨hname, htrim, htight, hconst, hmarks, hbare⟩⟩

/-- A settled name is its own descriptor. -/
theorem IsSettled.ofText_eq {name : String} (h : IsSettled name) : ofText name = { raw := name, name } := by
  have hstrip : strip name.toList = name.toList := by
    rw [strip, withoutStart_of_not h.notConst, withoutMark, if_neg (h.unmarked _ (by decide)),
      withoutEnd_of_not (h.unmarked pointerMark (by decide)), withoutEnd_of_not (h.unmarked constWord (by decide))]
  have hconst : constWord.isPrefixOf name.toList = false := by
    rw [Bool.eq_false_iff, ne_eq, List.isPrefixOf_iff_prefix]
    exact h.notConst
  have hmark : ∀ w ∈ marks, w.isSuffixOf name.toList = false := by
    intro w hw
    rw [Bool.eq_false_iff, ne_eq, List.isSuffixOf_iff_suffix]
    exact h.unmarked w hw
  rw [ofText_eq_core, marked, core, h.trimmed, hstrip, h.tight, withoutStart_of_not h.notConst, String.ofList_toList,
    h.finish_eq, h.unqualified, hconst, hmark referenceMark (by decide), hmark pointerMark (by decide)]
  rfl

theorem isSettled_of_nameOf_eq {name : String} (h : nameOf name = name) : IsSettled name := by
  have hcore : IsUnaliased (String.ofList (core name)) := by
    refine (isUnaliased_or _).elim id ?_
    rintro ⟨e, he, hend⟩
    rw [← nameOf_eq_finish, h] at hend
    refine isUnaliased_of_ending he ?_
    rw [String.toList_ofList]
    exact suffix_core_of_ending he hend
  have hname : stripNamespace scopedNames (String.ofList (core name)) = name := by
    rw [← hcore.finish_eq, ← nameOf_eq_finish, h]
  -- the core is as long as the name, so nothing is taken off
  have hlen : name.toList.length ≤ (core name).length := by
    have := length_stripNamespace_le scopedNames (String.ofList (core name))
    rwa [hname, String.length_ofList, ← String.length_toList] at this
  have htrim := (trimChars_sublist name.toList).eq_of_length_le
    (hlen.trans ((tighten_sublist _).trans (strip_sublist _)).length_le)
  have hall : core name = name.toList := (core_sublist name).eq_of_length_le hlen
  have hstrip : strip name.toList = name.toList := by
    refine (strip_sublist _).eq_of_length_le ?_
    rw [core, htrim] at hlen
    exact hlen.trans (tighten_sublist _).length_le
  rw [hall, String.ofList_toList] at hcore hname
  obtain ⟨hconst, hmarks⟩ := not_mark_of_strip_eq hstrip
  refine { hcore with trimmed := htrim, tight := ?_, notConst := hconst, unmarked := hmarks, unqualified := hname }
  rw [core, htrim, hstrip] at hall
  exact hall

/-- **A name is its own bare name just if no rule has anything to do in it.** -/
theorem nameOf_eq_self_iff {name : String} : nameOf name = name ↔ IsSettled name :=
  ⟨isSettled_of_nameOf_eq, fun h => by rw [nameOf, h.ofText_eq]⟩

/-! ### Names of containers -/

/-- Text without a colon goes on what stands after the last `::`. -/
theorem cutLast_append {w : List Char} (hw : ':' ∉ w) (s : List Char) :
    cutLast "::".toList (s ++ w) = (cutLast "::".toList s).map fun parts => (parts.1, parts.2 ++ w) := by
  induction s with
  | nil =>
    cases hcut : cutLast "::".toList w with
    | none => exact hcut
    | some parts =>
      refine absurd ?_ hw
      rw [cutLast_eq hcut]
      simp
  | cons c s ih =>
    have hbegin : "::".toList.isPrefixOf (c :: (s ++ w)) = "::".toList.isPrefixOf (c :: s) := by
      cases s with
      | nil =>
        cases w with
        | nil => rfl
        | cons d w =>
          have hd : (':' == d) = false := by
            rw [beq_eq_false_iff_ne]
            rintro rfl
            exact hw List.mem_cons_self
          simp [List.isPrefixOf, hd]
      | cons d s => simp [List.isPrefixOf]
    rw [List.cons_append, cutLast, cutLast, ih, hbegin]
    cases cutLast "::".toList s with
    | some parts => rfl
    | none =>
      simp only [Option.map_none]
      split
      · next h =>
        obtain ⟨r, hr⟩ := List.isPrefixOf_iff_prefix.1 h
        rw [← List.cons_append, ← hr, Option.map_some]
        simp
      · rfl

/-- A suffix without a colon leaves a name its qualification. -/
theorem stripNamespace_append {keep : List String} {name suffix : String} (hname : stripNamespace keep name = name)
    (hsuffix : ':' ∉ suffix.toList) : stripNamespace keep (name ++ suffix) = name ++ suffix := by
  rw [stripNamespace_eq_self_iff] at *
  unfold cutNamespace? at *
  rw [String.toList_append, cutLast_append hsuffix]
  cases hcut : cutLast "::".toList name.toList with
  | none => rfl
  | some parts =>
    simp only [hcut, ite_eq_left_iff, reduceCtorEq, imp_false, not_not, Bool.or_eq_true] at hname
    have hkept : (parts.1.isEmpty || keep.any (startsWith (name ++ suffix))) = true := by
      rw [Bool.or_eq_true]
      refine hname.imp_right fun hany => ?_
      obtain ⟨p, hp, hstart⟩ := List.any_eq_true.1 hany
      refine List.any_eq_true.2 ⟨p, hp, ?_⟩
      rw [startsWith, List.isPrefixOf_iff_prefix] at *
      rw [String.toList_append]
      exact hstart.trans (List.prefix_append _ _)
    simp [hkept]

/-- Nothing is to be taken off the start of the name, and no space inside its angle brackets. -/
structure IsTidy (name : String) : Prop where
  trimmedStart : trimStartChars name.toList = name.toList
  tight : tighten name.toList = name.toList
  notConst : ¬ constWord <+: name.toList

instance (name : String) : Decidable (IsTidy name) :=
  decidable_of_iff (trimStartChars name.toList = name.toList ∧ tighten name.toList = name.toList ∧
      ¬ constWord <+: name.toList)
    ⟨fun ⟨hstart, htight, hconst⟩ => ⟨hstart, htight, hconst⟩, fun ⟨hstart, htight, hconst⟩ => ⟨hstart, htight, hconst⟩⟩

theorem IsSettled.isTidy {name : String} (h : IsSettled name) : IsTidy name :=
  ⟨trimStartChars_of_trimChars h.trimmed, h.tight, h.notConst⟩

/-- A suffix of a container hides the end of a name and leaves the rest as it is. -/
theorem isTidy_append_iff {name suffix : String} (hs : suffix ∈ suffixes) : IsTidy (name ++ suffix) ↔ IsTidy name := by
  obtain ⟨hsolid, -, -⟩ := solid_ending (List.mem_append_right _ hs)
  obtain ⟨hapart, hne⟩ := apart_ending (List.mem_append_right _ hs)
  have hstart : trimStartChars (name ++ suffix).toList = (name ++ suffix).toList ↔
      trimStartChars name.toList = name.toList := by
    rw [String.toList_append, trimStartChars_concat hsolid, List.append_cancel_right_eq]
  have htight : tighten (name ++ suffix).toList = (name ++ suffix).toList ↔ tighten name.toList = name.toList := by
    rw [String.toList_append, tighten_concat hsolid, List.append_cancel_right_eq]
  have hconst : constWord <+: (name ++ suffix).toList ↔ constWord <+: name.toList := by
    rw [String.toList_append]
    refine ⟨fun hc => ?_, fun hc => hc.trans (List.prefix_append _ _)⟩
    rcases hapart.split hc (List.suffix_append _ _) with ⟨-, heq⟩ | ⟨z, hz⟩
    · exact absurd heq hne
    · rw [List.append_cancel_right_eq] at hz
      exact hz ▸ List.prefix_append _ _
  constructor
  · intro h
    exact ⟨hstart.1 h.trimmedStart, htight.1 h.tight, mt hconst.2 h.notConst⟩
  · intro h
    exact ⟨hstart.2 h.trimmedStart, htight.2 h.tight, mt hconst.1 h.notConst⟩

/-- With a suffix of a container a name is settled as soon as its start is. -/
theorem isSettled_append_iff {name suffix : String} (hname : stripNamespace scopedNames name = name)
    (hs : suffix ∈ suffixes) : IsSettled (name ++ suffix) ↔ IsTidy name := by
  have he : suffix ∈ endings := List.mem_append_right _ hs
  obtain ⟨hsolid, hne, hcolon⟩ := solid_ending he
  have hend := suffix_toList_append name suffix
  constructor
  · intro h
    exact (isTidy_append_iff hs).1 h.isTidy
  · intro h
    have htidy := (isTidy_append_iff hs).2 h
    exact
      { isUnaliased_of_ending he hend, htidy with
        trimmed := by rw [String.toList_append, trimChars_concat hsolid hne, h.trimmedStart]
        unmarked := fun w hw => not_mark_of_ending he hend hw
        unqualified := stripNamespace_append hname hcolon }

/-- **A suffix of a container leaves the rules nothing to do.** -/
theorem IsSettled.append {name suffix : String} (h : IsSettled name) (hs : suffix ∈ suffixes) :
    IsSettled (name ++ suffix) :=
  (isSettled_append_iff h.unqualified hs).2 h.isTidy

end ScriptGlue.Cpp.Descriptor
