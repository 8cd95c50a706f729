import ScriptGlue.Proofs.Maps
import ScriptGlue.Proofs.Supports

/-!
# Types by their names

A type that can be carried has a bare name: one of a few fixed names, that of a number or of a class, or the name of the
elements of a container with a suffix. So a type is classified by its name as it is by its spelling (**`classify_name`**);
only the deny-list can tell the two apart.
-/

namespace ScriptGlue.Cpp.Vocabulary

open ScriptGlue.Text ScriptGlue.Cpp.Descriptor

/-! ### Fixed names -/

theorem isSettled_primitive {name : String} (h : isPrimitive name = true) : IsSettled name := by
  have hall : ∀ name ∈ ["void", "bool", "Variant", "string", "String"], IsSettled name := by decide
  exact hall name (List.contains_iff_mem.1 h)

/-! ### Names of containers -/

/-- The elements that have substitutes go by their bare names. -/
def HasBareKeys (v : Vocabulary) : Prop := ∀ key ∈ v.config.templateSubstitutions.keys, nameOf key = key

variable {v : Vocabulary}

/-- An element is known by its own name or by that of its substitute. -/
theorem isSettled_of_substitute (hkeys : v.HasBareKeys) {key : String} (h : IsSettled (v.substitute key)) :
    IsSettled key := by
  by_cases hkey : key ∈ v.config.templateSubstitutions.keys
  · exact nameOf_eq_self_iff.1 (hkeys key hkey)
  · have hnone : v.config.templateSubstitutions.get? key = none := by
      rw [← List.contains_iff_mem, OrderedMap.contains_keys, OrderedMap.contains, Bool.not_eq_true,
        Option.isSome_eq_false_iff, Option.isNone_iff_eq_none] at hkey
      exact hkey
    rwa [substitute, OrderedMap.getD, hnone, Option.getD_none] at h

theorem isSettled_of_containerElement? (hkeys : v.HasBareKeys) {suffix name element : String} (hs : suffix ∈ suffixes)
    (hname : v.containerElement? suffix name = some element) (h : IsSettled element) : IsSettled name := by
  unfold containerElement? at hname
  split at hname
  · next hend =>
    rw [endsWith, List.isSuffixOf_iff_suffix] at hend
    obtain ⟨key, hkey⟩ := hend
    have hconcat : name = String.ofList key ++ suffix := by
      rw [← String.toList_inj, String.toList_append, String.toList_ofList, hkey]
    have hdrop : dropEnd name suffix.length = String.ofList key := by
      rw [dropEnd, ← hkey, ← String.length_toList, ← String.length_toList, ← hkey, List.length_append,
        Nat.add_sub_cancel, List.take_left]
    rw [Option.some.injEq, hdrop] at hname
    rw [hconcat]
    exact (isSettled_of_substitute hkeys (hname ▸ h)).append hs
  · cases hname

theorem isSettled_of_isRegistered (hv : v.Bare) {name : String} (h : v.isRegistered name = true) : IsSettled name :=
  nameOf_eq_self_iff.1 (hv.classes name (List.contains_iff_mem.1 h))

theorem isSettled_of_vectorOf (hv : v.Bare) {element : String} (h : ∀ other, v.vectorOf element ≠ .unsupported other) :
    IsSettled element := by
  unfold vectorOf at h
  split at h
  · next kind hkind =>
    refine isSettled_primitive ?_
    unfold StringKind.ofName? at hkind
    split at hkind
    · next hname => rw [beq_iff_eq.1 hname]; rfl
    split at hkind
    · next hname => rw [beq_iff_eq.1 hname]; rfl
    · cases hkind
  · split at h
    · next hregistered => exact isSettled_of_isRegistered hv hregistered
    · exact absurd rfl (h element)

theorem isSettled_of_mapOf (hv : v.Bare) {element : String} (h : ∀ other, v.mapOf element ≠ .unsupported other) :
    IsSettled element := by
  unfold mapOf at h
  split at h
  · next hregistered => exact isSettled_of_isRegistered hv hregistered
  · exact absurd rfl (h element)

theorem isSettled_of_sharedPtrOf (hv : v.Bare) {element : String} (h : ∀ other, v.sharedPtrOf element ≠ .unsupported other) :
    IsSettled element := by
  unfold sharedPtrOf at h
  split at h
  · next hshared =>
    rw [Bool.and_eq_true] at hshared
    exact isSettled_of_isRegistered hv hshared.1
  · exact absurd rfl (h element)

/-- **What can be carried has a bare name.** -/
theorem isSettled_of_categoryOf (hv : v.Bare) (hkeys : v.HasBareKeys) {name : String}
    (h : ∀ element, v.categoryOf name ≠ .unsupported element) : IsSettled name := by
  by_cases hprimitive : isPrimitive name = true
  · exact isSettled_primitive hprimitive
  by_cases hnumber : v.isNumber name = true
  · exact nameOf_eq_self_iff.1 (hv.numbers name (List.contains_iff_mem.1 hnumber))
  by_cases hclass : v.isRegistered name = true
  · exact isSettled_of_isRegistered hv hclass
  simp only [isPrimitive, List.contains_eq_mem, List.mem_cons, List.not_mem_nil, or_false, decide_eq_true_eq, not_or]
    at hprimitive
  obtain ⟨hvoid, hbool, hvariant, hstandard, hframework⟩ := hprimitive
  -- the name is that of a container
  simp only [categoryOf, StringKind.ofName?, beq_iff_eq, hvoid, hbool, hnumber, hvariant, hstandard, hframework, hclass,
    if_false, Bool.false_eq_true] at h
  cases hvector : v.containerElement? "Vector" name with
  | some element =>
    simp only [hvector] at h
    exact isSettled_of_containerElement? hkeys (by decide) hvector (isSettled_of_vectorOf hv h)
  | none =>
    cases hmap : v.containerElement? "Map" name with
    | some element =>
      simp only [hvector, hmap] at h
      exact isSettled_of_containerElement? hkeys (by decide) hmap (isSettled_of_mapOf hv h)
    | none =>
      cases hptr : v.containerElement? "Ptr" name with
      | some element =>
        simp only [hvector, hmap, hptr] at h
        exact isSettled_of_containerElement? hkeys (by decide) hptr (isSettled_of_sharedPtrOf hv h)
      | none =>
        simp only [hvector, hmap, hptr] at h
        exact absurd rfl (h "")

/-! ### Types -/

/-- **A type is classified by its name as it is by its spelling**, if it can be carried and its name is not denied. -/
theorem classify_name (hv : v.Bare) (hkeys : v.HasBareKeys) {text : String}
    (hsupported : (v.classify text).isSupported = true) (hallowed : v.isDenied (v.classify text).name = false) :
    (v.classify (v.classify text).name).name = (v.classify text).name ∧
      (v.classify (v.classify text).name).category = (v.classify text).category ∧
      (v.classify (v.classify text).name).className = (v.classify text).className := by
  have hunsupported : ∀ element, (v.classify text).category ≠ .unsupported element := by
    intro element hc
    rw [TypeInfo.isSupported, hc] at hsupported
    cases hsupported
  have hcategory : v.categoryOf (v.classify text).name = (v.classify text).category := category_eq rfl hunsupported
  have hsettled : IsSettled (v.classify text).name :=
    isSettled_of_categoryOf hv hkeys fun element => hcategory ▸ hunsupported element
  have hclassify : v.classify (v.classify text).name =
      ⟨{ raw := (v.classify text).name, name := (v.classify text).name }, (v.classify text).category⟩ := by
    rw [← hcategory]
    conv_lhs => rw [classify, hsettled.ofText_eq, hallowed]
    rfl
  rw [hclassify]
  exact ⟨rfl, rfl, rfl⟩

/-- Assets, which are registered by the name of their interface. -/
def assetVocabulary : Vocabulary where
  config := Config.default
  classes := ["IAsset"]
  isRefcounted name := name == "IAsset"

theorem classify_name_assets :
    (assetVocabulary.classify "const Vector< Tundra::Asset > &").name = "AssetVector" ∧
      (assetVocabulary.classify "const Vector< Tundra::Asset > &").category = .vector "IAsset" (.object .weak) ∧
      (assetVocabulary.classify "AssetVector").category = .vector "IAsset" (.object .weak) ∧
      (assetVocabulary.classify "AssetVector").className = "IAsset" := by
  have hbare : assetVocabulary.Bare := bare_of_default rfl (by decide)
  have hkeys : ∀ key ∈ assetVocabulary.config.templateSubstitutions.keys, IsSettled key := by decide +kernel
  have htype : assetVocabulary.classify "const Vector< Tundra::Asset > &" =
      { descriptor := { raw := "const Vector< Tundra::Asset > &", name := "AssetVector", isConst := true, isReference := true }
        category := .vector "IAsset" (.object .weak) } := by decide +kernel
  have hallowed : assetVocabulary.isDenied "AssetVector" = false := by decide +kernel
  have hname : (assetVocabulary.classify "const Vector< Tundra::Asset > &").name = "AssetVector" := by rw [htype]; rfl
  obtain ⟨-, hcategory, hclass⟩ := classify_name hbare (fun key h => nameOf_eq_self_iff.2 (hkeys key h))
    (by rw [htype]; rfl) (hname ▸ hallowed)
  rw [hname, htype] at hcategory hclass
  exact ⟨hname, by rw [htype], hcategory, hclass⟩

end ScriptGlue.Cpp.Vocabulary
