import ScriptGlue.Proofs.OverloadSets

/-!
# Denying more

A configuration denies more than another if it is the other with further denied types and further exclusions
(`Config.DeniesMore`). With the registered classes held fixed, members are then lost, and others may take their place:
of two functions with one name the second is bound once the first is rejected. **`binds_less_of_deniesMore`** says that
no type, no function name and no base name comes up that was not there before.
-/

namespace ScriptGlue

open ScriptGlue.Text ScriptGlue.Cpp

/-- The second configuration is the first with further denied types and further exclusions, in whatever places. -/
inductive Config.DeniesMore (lax : Config) : Config → Prop
  | intro {deniedTypes : List DeniedType} {exclusions : List Exclusion} : lax.deniedTypes ⊆ deniedTypes →
      lax.exclusions ⊆ exclusions → lax.DeniesMore { lax with deniedTypes, exclusions }

/-! ### Types -/

namespace Cpp.Vocabulary

/-- The same classes under another configuration. -/
def under (v : Vocabulary) (config : Config) : Vocabulary := { v with config }

variable {v : Vocabulary} {strict : Config} (h : v.config.DeniesMore strict)

include h

theorem isDenied_of_deniesMore {text : String} (hd : (v.under strict).isDenied text = false) : v.isDenied text = false := by
  cases h with
  | intro htypes =>
    rw [isDenied, Bool.and_eq_false_iff, List.any_eq_false] at hd ⊢
    exact hd.imp_right fun hnone rule hrule => hnone rule (htypes hrule)

/-- The tables that a name is looked up in are the same. -/
theorem categoryOf_of_deniesMore : (v.under strict).categoryOf = v.categoryOf := by
  cases h
  rfl

/-- **A type that is still supported is supported as it was.** -/
theorem classify_of_deniesMore {text : String} (hs : ((v.under strict).classify text).isSupported = true) :
    (v.under strict).classify text = v.classify text := by
  have hnumber : (v.under strict).isNumber = v.isNumber := by
    cases h
    rfl
  have hcategory := categoryOf_of_deniesMore h
  unfold classify at hs ⊢
  dsimp only at hs ⊢
  split at hs
  · cases hs
  · next hnot =>
    rw [hnumber, Bool.or_eq_true, not_or] at hnot
    have hd := isDenied_of_deniesMore h (by simpa using hnot.1)
    rw [hnumber, hcategory, if_neg (by simpa [not_or] using hnot), if_neg (by simpa [hd] using hnot.2)]

end Cpp.Vocabulary

/-! ### Members -/

namespace Config.DeniesMore

variable {lax strict : Config} (h : lax.DeniesMore strict)

include h

theorem excludes {className member : String} {parameters : List String}
    (hk : strict.excludes className member parameters = false) : lax.excludes className member parameters = false := by
  cases h with
  | intro _ hexclusions =>
    rw [Config.excludes, List.any_eq_false] at hk ⊢
    exact fun rule hrule => hk rule (hexclusions hrule)

end Config.DeniesMore

namespace Registry

/-- The same classes under another configuration. -/
def under (r : Registry) (config : Config) : Registry := { r with config }

variable {r : Registry} {strict : Config} (h : r.config.DeniesMore strict)

include h

theorem isRefcounted_under : (r.under strict).isRefcounted = r.isRefcounted := by
  cases h
  rfl

theorem vocabulary_under : (r.under strict).vocabulary = r.vocabulary.under strict := by
  rw [vocabulary, isRefcounted_under h]
  rfl

theorem isDenied_under {text : String} (hd : (r.under strict).vocabulary.isDenied text = false) :
    r.vocabulary.isDenied text = false := by
  rw [vocabulary_under h] at hd
  exact Vocabulary.isDenied_of_deniesMore h hd

theorem classify_under {text : String} (hs : ((r.under strict).vocabulary.classify text).isSupported = true) :
    (r.under strict).vocabulary.classify text = r.vocabulary.classify text := by
  rw [vocabulary_under h] at hs ⊢
  exact Vocabulary.classify_of_deniesMore h hs

theorem isScriptable_under {m : Symbol} (hm : (r.under strict).isScriptable m = true) : r.isScriptable m = true := by
  simp only [isScriptable, Bool.and_eq_true, Bool.not_eq_true', List.all_eq_true] at hm ⊢
  obtain ⟨⟨⟨⟨harray, htype⟩, hparameters⟩, hcomments⟩, hreturn⟩ := hm
  refine ⟨⟨⟨⟨harray, isDenied_under h htype⟩, fun p hp => ?_⟩, hcomments⟩, hreturn⟩
  exact (hparameters p hp).imp (isDenied_under h) (isDenied_under h)

theorem returnRejection?_under {type : String} (ht : (r.under strict).returnRejection? type = none) :
    r.returnRejection? type = none := by
  by_cases hs : ((r.under strict).vocabulary.classify type).isSupported = true
  · rwa [returnRejection?, classify_under h hs] at ht
  · rw [returnRejection?, if_pos (by simpa using hs)] at ht
    cases ht

theorem parameterRejection?_under {p : Parameter} (hp : (r.under strict).parameterRejection? p = none) :
    r.parameterRejection? p = none := by
  by_cases hs : ((r.under strict).vocabulary.classify p.basicType).isSupported = true
  · rwa [parameterRejection?, classify_under h hs, isRefcounted_under h] at hp
  · rw [parameterRejection?, if_pos (by simp [hs])] at hp
    cases hp

/-- **A function that is still accepted was accepted.** -/
theorem functionRejection?_under {c : Compound} {m : Symbol} (hm : (r.under strict).functionRejection? c m = none) :
    r.functionRejection? c m = none := by
  unfold functionRejection? at hm ⊢
  split at hm
  · cases hm
  · next hscriptable =>
    rw [if_neg (by simpa using isScriptable_under h (by simpa using hscriptable))]
    split at hm
    · cases hm
    · next hexcluded =>
      rw [if_neg (Bool.eq_false_iff.1 (h.excludes (Bool.eq_false_iff.2 hexcluded)))]
      rw [Option.or_eq_none_iff, List.findSome?_eq_none_iff] at hm ⊢
      refine ⟨?_, fun p hp => parameterRejection?_under h (hm.2 p hp)⟩
      have hresult := hm.1
      rw [isRefcounted_under h] at hresult
      split at hresult
      · next hconstructor => rwa [if_pos hconstructor]
      · next hconstructor =>
        rw [if_neg hconstructor]
        exact returnRejection?_under h hresult

theorem accepted_under (c : Compound) (isStatic : Bool) : (r.under strict).accepted c isStatic ⊆ r.accepted c isStatic := by
  intro m hm
  rw [accepted, List.mem_filter, Option.isNone_iff_eq_none] at hm ⊢
  exact hm.imp_right (functionRejection?_under h)

end Registry

/-! ### Names -/

namespace Registry

variable {r : Registry} {c : Compound} {isStatic : Bool}

theorem mem_keys_sets_iff {base : String} :
    base ∈ (r.sets c isStatic).keys ↔ ∃ m ∈ r.accepted c isStatic, c.baseName m isStatic = base := by
  rw [sets_eq_setsOf, Compound.setsOf, OrderedMap.keys_tabulate, Compound.basesOf, List.mem_eraseDups, List.mem_map]

theorem mem_functionNames_iff {name : String} :
    name ∈ (r.bound c isStatic).map (·.functionName) ↔
      ∃ m ∈ r.accepted c isStatic, (c.overloadOf m isStatic).functionName = name := by
  have hbound : (r.bound c isStatic).map (·.functionName) = (c.basesOf isStatic (r.accepted c isStatic)).flatMap fun base =>
      (c.setOf isStatic base (c.groupOf isStatic (r.accepted c isStatic) base)).overloads.map (·.functionName) := by
    rw [bound, OrderedMap.values, toList_sets, List.map_map, List.map_flatMap, List.flatMap_map]
    rfl
  rw [hbound, List.mem_flatMap]
  constructor
  · rintro ⟨base, -, hname⟩
    obtain ⟨m, hm, rfl⟩ := mem_functionNames_setOf.1 hname
    exact ⟨m, List.mem_of_mem_filter hm, rfl⟩
  · rintro ⟨m, hm, rfl⟩
    have hgroup : m ∈ c.groupOf isStatic (r.accepted c isStatic) (c.baseName m isStatic) :=
      List.mem_filter.2 ⟨hm, beq_self_eq_true _⟩
    exact ⟨_, Compound.mem_basesOf.2 (List.ne_nil_of_mem hgroup), mem_functionNames_setOf.2 ⟨m, hgroup, rfl⟩⟩

/-- **Denying more never binds more.** Under a configuration that denies more, with the same classes registered, every
supported type was supported in the same way, and every function name and every base name of a class was there. -/
theorem binds_less_of_deniesMore (r : Registry) {strict : Config} (h : r.config.DeniesMore strict) :
    (∀ text, ((r.under strict).vocabulary.classify text).isSupported = true →
      (r.vocabulary.classify text).isSupported = true ∧
        r.vocabulary.classify text = (r.under strict).vocabulary.classify text) ∧
    ∀ c isStatic,
      ((r.under strict).bound c isStatic).map (·.functionName) ⊆ (r.bound c isStatic).map (·.functionName) ∧
      ((r.under strict).sets c isStatic).keys ⊆ (r.sets c isStatic).keys := by
  refine ⟨fun text hs => ?_, fun c isStatic => ⟨fun name hname => ?_, fun base hbase => ?_⟩⟩
  · have hsame := classify_under h hs
    exact ⟨hsame ▸ hs, hsame.symm⟩
  · obtain ⟨m, hm, hfunction⟩ := mem_functionNames_iff.1 hname
    exact mem_functionNames_iff.2 ⟨m, accepted_under h c isStatic hm, hfunction⟩
  · obtain ⟨m, hm, hkey⟩ := mem_keys_sets_iff.1 hbase
    exact mem_keys_sets_iff.2 ⟨m, accepted_under h c isStatic hm, hkey⟩

/-- A class with two functions of one name for scripts, which differ in a `const`. -/
def meter : Compound where
  kind := "class"
  name := "Meter"
  members := [
    { kind := "function", name := "Read", type := "void", parameters := [{ type := "const float", name := "unit" }] },
    { kind := "function", name := "Read", type := "void", parameters := [{ type := "float", name := "unit" }] },
    { kind := "function", name := "Reset", type := "void" }]

/-- The registry of the class. -/
def meterRegistry : Registry := (build .default { preferred := [] } [meter] []).value

/-- The built-in tables, with a `const` before a number denied and a function of the class excluded. -/
def meterTables : Config :=
  { Config.default with
    deniedTypes := ⟨"const float", "contains"⟩ :: Config.default.deniedTypes
    exclusions := Config.default.exclusions ++ [⟨"Meter::Reset", none⟩] }

/-- The first function goes and the second takes its place; the name was there before. -/
theorem binds_less_of_deniesMore_meter : meterRegistry.config.DeniesMore meterTables ∧
    (meterRegistry.under meterTables).bound meter false = [meter.overloadOf meter.members[1].toSymbol false] ∧
    meterRegistry.bound meter false =
      [meter.overloadOf meter.members[0].toSymbol false, meter.overloadOf meter.members[2].toSymbol false] ∧
    ((meterRegistry.under meterTables).bound meter false).map (·.functionName) ⊆
      (meterRegistry.bound meter false).map (·.functionName) := by
  have hmore : meterRegistry.config.DeniesMore meterTables :=
    .intro (List.subset_cons_self _ _) (List.subset_append_left _ _)
  refine ⟨hmore, by decide +kernel, by decide +kernel, ?_⟩
  exact ((binds_less_of_deniesMore meterRegistry hmore).2 meter false).1

end Registry

end ScriptGlue
