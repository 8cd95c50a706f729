import ScriptGlue.Proofs.Supports

/-!
# Classes as types

A registered class can be passed as an object by its name and by a constant reference to it. Classification looks at
the ending of a bare name before it looks at the registered classes, so a class that is called like a container is
taken for one. **`classify_class_iff`** says that this is the only exception.
-/

namespace ScriptGlue.Cpp

open ScriptGlue.Text

namespace Descriptor

/-! ### Constant references -/

/-- A constant reference to what a settled name denotes. -/
theorem IsSettled.ofText_constReference {name : String} (h : IsSettled name) :
    ofText ("const " ++ name ++ " &") = { raw := "const " ++ name ++ " &", name, isConst := true, isReference := true } := by
  have hspelled : ("const " ++ name ++ " &").toList = constWord ++ (' ' :: name.toList ++ [' '] ++ referenceMark) := by
    have hstart : "const ".toList = constWord ++ [' '] := rfl
    have hend : " &".toList = [' '] ++ referenceMark := rfl
    rw [String.toList_append, String.toList_append, hstart, hend]
    simp only [List.append_assoc, List.cons_append, List.nil_append]
  have htrimmed : trimChars ("const " ++ name ++ " &").toList = constWord ++ (' ' :: name.toList ++ [' '] ++ referenceMark) := by
    rw [hspelled, trimChars_append solid_constWord (by decide), trimEndChars_concat solid_referenceMark (by decide)]
  have hmarked : marked ("const " ++ name ++ " &") = trimStartChars (' ' :: name.toList ++ [' ']) ++ referenceMark := by
    rw [marked, htrimmed, withoutStart_append, trimChars_concat solid_referenceMark (by decide)]
  -- the blanks around the name go with the words beside it
  have hname : trimChars (' ' :: name.toList ++ [' ']) = name.toList := by
    have hstart : trimChars (' ' :: name.toList) = trimChars name.toList := by
      rw [trimChars, trimStartChars_cons, if_pos (by decide), trimChars]
    have hend : trimEndChars (' ' :: name.toList ++ [' ']) = trimEndChars (' ' :: name.toList) := by
      simp only [trimEndChars, List.reverse_append, List.reverse_singleton, List.singleton_append]
      rw [List.dropWhile_cons_of_pos (by decide)]
    rw [trimChars, ← trimStartChars_trimEndChars, hend, trimStartChars_trimEndChars]
    exact hstart.trans h.trimmed
  have hcore : core ("const " ++ name ++ " &") = name.toList := by
    have hends : strip (trimChars ("const " ++ name ++ " &").toList) = name.toList := by
      rw [strip, ← marked, hmarked, withoutMark, if_pos (List.suffix_append _ _), withoutEnd_concat,
        trimChars_trimStartChars, hname, withoutEnd_of_not (h.unmarked constWord (by decide))]
    rw [core, hends, h.tight]
  have hconst : constWord.isPrefixOf (tighten (trimChars ("const " ++ name ++ " &").toList)) = true := by
    rw [List.isPrefixOf_iff_prefix, prefix_tighten_iff solid_constWord, htrimmed]
    exact List.prefix_append _ _
  have href : referenceMark.isSuffixOf (marked ("const " ++ name ++ " &")) = true := by
    rw [List.isSuffixOf_iff_suffix, hmarked]
    exact List.suffix_append _ _
  rw [ofText_eq_core, hcore, String.ofList_toList, h.finish_eq, h.unqualified, hconst, href]
  rfl

end Descriptor

namespace Vocabulary

open ScriptGlue.Cpp.Descriptor

variable {v : Vocabulary}

/-! ### Names of classes -/

theorem containerElement?_eq_none_iff {suffix name : String} :
    v.containerElement? suffix name = none ↔ endsWith name suffix = false := by
  unfold containerElement?
  cases endsWith name suffix <;> simp

theorem vectorOf_ne_object (element : String) (ownership : Ownership) : v.vectorOf element ≠ .object ownership := by
  rcases v.vectorOf_cases element with ⟨kind, h⟩ | ⟨-, h⟩ | h <;> simp [h]

theorem mapOf_ne_object (element : String) (ownership : Ownership) : v.mapOf element ≠ .object ownership := by
  unfold mapOf
  split <;> simp

theorem sharedPtrOf_ne_object (element : String) (ownership : Ownership) : v.sharedPtrOf element ≠ .object ownership := by
  unfold sharedPtrOf
  split <;> simp

/-- The name of a class is that of an object unless it ends like that of a container. -/
theorem categoryOf_eq_object_iff {name : String} (hclass : v.isRegistered name = true) (hprimitive : isPrimitive name = false)
    (hnumber : v.isNumber name = false) :
    v.categoryOf name = .object (v.ownership name) ↔ ∀ suffix ∈ suffixes, endsWith name suffix = false := by
  simp only [isPrimitive, List.contains_eq_mem, List.mem_cons, List.not_mem_nil, or_false, decide_eq_false_iff_not, not_or]
    at hprimitive
  obtain ⟨hvoid, hbool, hvariant, hstandard, hframework⟩ := hprimitive
  have hall : (∀ suffix ∈ suffixes, endsWith name suffix = false) ↔ v.containerElement? "Vector" name = none ∧
      v.containerElement? "Map" name = none ∧ v.containerElement? "Ptr" name = none := by
    simp [suffixes, containerElement?_eq_none_iff]
  rw [hall]
  simp only [categoryOf, StringKind.ofName?, beq_iff_eq, hvoid, hbool, hnumber, hvariant, hstandard, hframework, hclass,
    if_false, if_true, Bool.false_eq_true]
  cases v.containerElement? "Vector" name with
  | some element => simp [v.vectorOf_ne_object]
  | none =>
    cases v.containerElement? "Map" name with
    | some element => simp [v.mapOf_ne_object]
    | none =>
      cases v.containerElement? "Ptr" name with
      | some element => simp [v.sharedPtrOf_ne_object]
      | none => simp

/-! ### Classes -/

/-- The ways to spell a class as the type of an object: its name, and a constant reference. -/
def classSpellings (name : String) : List String := [name, "const " ++ name ++ " &"]

/-- The spellings of a class have its name and no mark of a pointer. -/
theorem of_mem_classSpellings {name text : String} (h : IsSettled name) (htext : text ∈ classSpellings name) :
    (ofText text).name = name ∧ (ofText text).isPointer = false := by
  rcases List.mem_pair.1 htext with rfl | rfl
  · rw [h.ofText_eq]
    exact ⟨rfl, rfl⟩
  · rw [h.ofText_constReference]
    exact ⟨rfl, rfl⟩

/-- **A registered class is a type of objects unless it is called like a container.** Let the name of a class be its own
bare name, that of no number and no other type, and let no spelling of it be denied. Then each spelling is of an object of
the class, owned as the class is, just when the name has none of the suffixes of containers. -/
theorem classify_class_iff {name : String} (hclass : v.isRegistered name = true) (hbare : nameOf name = name)
    (hprimitive : isPrimitive name = false) (hnumber : v.isNumber name = false)
    (hallowed : ∀ text ∈ classSpellings name, v.isDenied text = false) :
    ∀ text ∈ classSpellings name,
      ((v.classify text).category = .object (v.ownership name) ∧ (v.classify text).className = name) ↔
        ∀ suffix ∈ suffixes, endsWith name suffix = false := by
  intro text htext
  obtain ⟨hname, hpointer⟩ := of_mem_classSpellings (nameOf_eq_self_iff.1 hbare) htext
  have hclassify : v.classify text = ⟨ofText text, v.categoryOf name⟩ := by
    rw [classify, hallowed text htext, hpointer, hname]
    rfl
  rw [← categoryOf_eq_object_iff hclass hprimitive hnumber, hclassify]
  constructor
  · exact fun h => h.1
  · intro hcategory
    refine ⟨hcategory, ?_⟩
    simp only [TypeInfo.className, hcategory]
    exact hname

/-- A scene, which counts references, and a class that is called like a map. -/
def terrainVocabulary : Vocabulary where
  config := Config.default
  classes := ["Scene", "HeightMap"]
  isRefcounted name := name == "Scene"

theorem classify_class_iff_scene :
    (terrainVocabulary.classify "const Scene &").category = .object .weak ∧
      (terrainVocabulary.classify "const Scene &").className = "Scene" := by
  have hallowed : ∀ text ∈ classSpellings "Scene", terrainVocabulary.isDenied text = false := by decide +kernel
  have hsuffixes : ∀ suffix ∈ suffixes, endsWith "Scene" suffix = false := by decide
  have hbare : IsSettled "Scene" := by decide
  exact (classify_class_iff rfl (nameOf_eq_self_iff.2 hbare) rfl rfl hallowed _ (by decide)).2 hsuffixes

/-- A class may be taken for a map of another that does not exist. -/
theorem classify_heightMap :
    terrainVocabulary.isRegistered "HeightMap" = true ∧ nameOf "HeightMap" = "HeightMap" ∧
      isPrimitive "HeightMap" = false ∧ terrainVocabulary.isNumber "HeightMap" = false ∧
      (∀ text ∈ classSpellings "HeightMap", terrainVocabulary.isDenied text = false) ∧
      ∀ text ∈ classSpellings "HeightMap", (terrainVocabulary.classify text).category = .unsupported "Height" ∧
        (terrainVocabulary.classify text).className = "" := by
  decide +kernel

end Vocabulary

end ScriptGlue.Cpp
