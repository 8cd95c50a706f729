import ScriptGlue.Proofs.Dependencies
import ScriptGlue.Proofs.HeaderLookup
import ScriptGlue.Proofs.RegisteredClasses
import ScriptGlue.Proofs.Supports
import ScriptGlue.Proofs.UnitSteps

/-!
# Included headers

A class resolves to a header through the tables and the headers that were found (`resolvedHeader`), and a unit includes
the headers of the class and of its dependencies. **`headers_included`** says that those of the dependencies are listed
once each, in the order of the dependencies and without that of the class. The header of a class is asked for by a
spelling, and so by its bare name: that is the name it is registered by just if the name is its own bare name.
-/

namespace ScriptGlue

open ScriptGlue.Text ScriptGlue.Cpp ScriptGlue.Files

/-! ### What stands in a row, each once -/

/-- The headers are those of a row, each once and in the order in which they first come there, but for one that is known
already and for those that are missing. -/
structure ListsOnce (row : List String) (known : String) (listed : List String) : Prop where
  /-- Which headers are listed. -/
  mem_iff : ∀ header, header ∈ listed ↔ header ∈ row ∧ header ≠ "" ∧ header ≠ known
  /-- No header is listed twice. -/
  once : listed.Nodup
  /-- A header comes before those whose first place in the row is later. -/
  ordered : listed.Pairwise fun header header' => row.idxOf header < row.idxOf header'

/-- The elements of a row with a property, each once, come in the order of their first places. -/
theorem pairwise_idxOf_eraseDups {α : Type} [DecidableEq α] (p : α → Bool) (row : List α) :
    (row.filter p).eraseDups.Pairwise fun a b => row.idxOf a < row.idxOf b := by
  induction row using List.reverseRecOn with
  | nil => exact .nil
  | append_singleton row x ih =>
    have hmem : ∀ a ∈ (row.filter p).eraseDups, a ∈ row := fun a ha => List.mem_of_mem_filter (List.mem_eraseDups.1 ha)
    -- what was there keeps its place
    have hkept : (row.filter p).eraseDups.Pairwise fun a b => (row ++ [x]).idxOf a < (row ++ [x]).idxOf b := by
      refine ih.imp_of_mem fun {a b} ha hb hlt => ?_
      rwa [List.idxOf_append_of_mem (hmem a ha), List.idxOf_append_of_mem (hmem b hb)]
    rw [List.filter_append]
    cases hx : p x with
    | false => simpa [hx] using hkept
    | true =>
      rw [List.filter_cons_of_pos hx, List.filter_nil, eraseDups_concat]
      split
      · exact hkept
      · next hnew =>
        have hnot : x ∉ row := fun hold => hnew (List.mem_eraseDups.2 (List.mem_filter.2 ⟨hold, hx⟩))
        refine List.pairwise_append.2 ⟨hkept, List.pairwise_singleton _ _, fun a ha b hb => ?_⟩
        obtain rfl := List.mem_singleton.1 hb
        rw [List.idxOf_append_of_mem (hmem a ha), List.idxOf_append_of_notMem hnot]
        exact Nat.lt_add_right _ (List.idxOf_lt_length_of_mem (hmem a ha))

theorem listsOnce_eraseDups (row : List String) (known : String) :
    ListsOnce row known (row.filter fun header => !header.isEmpty && header != known).eraseDups where
  mem_iff header := by
    rw [List.mem_eraseDups, List.mem_filter, Bool.and_eq_true, bne_iff_ne, Bool.not_eq_true', ← Bool.not_eq_true, ne_eq,
      String.isEmpty_iff]
  once := nodup_eraseDups _
  ordered := pairwise_idxOf_eraseDups _ row

/-! ### Resolving a class to a header -/

/-- The header of a class: the one the tables have for it, or the one found for it or for the class that the tables have
for it. Where there is none, another may stand in. -/
def resolvedHeader (config : Config) (headers : Headers) (name : String) : String :=
  let found :=
    match config.headerAliases.get? name with
    | some other => if endsWith other ".h" then other else headers.lookup other
    | none => headers.lookup name
  if found.isEmpty then config.fallbackIncludes.getD name "" else found

theorem value_search (headers : Headers) (name : String) :
    (resolveHeader.search headers name).value = headers.lookup name := by
  unfold resolveHeader.search
  dsimp only
  split <;> rfl

theorem value_resolveHeader (config : Config) (headers : Headers) (name : String) :
    (resolveHeader config headers name).value =
      match config.headerAliases.get? name with
      | some other => if endsWith other ".h" then other else headers.lookup other
      | none => headers.lookup name := by
  unfold resolveHeader
  cases config.headerAliases.get? name with
  | none => exact value_search headers name
  | some other =>
    by_cases hheader : endsWith other ".h" = true
    · simp only [hheader, if_true]
      rfl
    · simp only [hheader]
      exact value_search headers other

/-! ### The classes of types -/

/-- The class that a category refers to is registered; that of an object is named by the type. -/
def Cpp.Category.IsKnown (v : Vocabulary) (name : String) : Category → Prop
  | .object _ => v.isRegistered name = true
  | .vector element (.object _) => v.isRegistered element = true
  | .map element _ => v.isRegistered element = true
  | .sharedPtr element => v.isRegistered element = true
  | _ => True

namespace Cpp.Vocabulary

variable {v : Vocabulary}

theorem isKnown_vectorOf (element name : String) : (v.vectorOf element).IsKnown v name := by
  rcases v.vectorOf_cases element with ⟨kind, h⟩ | ⟨hregistered, h⟩ | h <;> rw [h]
  · trivial
  · exact hregistered
  · trivial

theorem isKnown_mapOf (element name : String) : (v.mapOf element).IsKnown v name := by
  unfold mapOf
  split
  · next hregistered => exact hregistered
  · trivial

theorem isKnown_sharedPtrOf (element name : String) : (v.sharedPtrOf element).IsKnown v name := by
  unfold sharedPtrOf
  split
  · next hshared => exact (Bool.and_eq_true_iff.1 hshared).1
  · trivial

/-- The category of a type holds registered classes only. -/
theorem isKnown_classify (text : String) : (v.classify text).category.IsKnown v (v.classify text).name := by
  refine category_cases (P := fun category => category.IsKnown v (v.classify text).name) text ?_ ?_ ?_ ?_ id trivial
  · simp [Category.IsKnown]
  · exact fun element => isKnown_vectorOf element _
  · exact fun element => isKnown_mapOf element _
  · exact fun element => isKnown_sharedPtrOf element _

/-- The class that a type refers to is registered. -/
theorem isRegistered_className {text : String} (h : (v.classify text).className ≠ "") :
    v.isRegistered (v.classify text).className = true := by
  have hknown := isKnown_classify (v := v) text
  unfold TypeInfo.className at h ⊢
  cases hcategory : (v.classify text).category with
  | object ownership => simpa [hcategory, Category.IsKnown] using hknown
  | vector element holds =>
    cases holds with
    | object ownership => simpa [hcategory, Category.IsKnown] using hknown
    | string kind => simp [hcategory] at h
  | map element ownership => simpa [hcategory, Category.IsKnown] using hknown
  | sharedPtr element => simpa [hcategory, Category.IsKnown] using hknown
  | _ => simp [hcategory] at h

end Cpp.Vocabulary

namespace Registry

section

variable (config : Config) (headers : Headers) (requested : List String) (cs : List Compound)

/-- Every registered class is registered with its header. -/
theorem header_of_get?_build {name : String} {entry : ClassEntry}
    (h : (build config headers cs requested).value.get? name = some entry) :
    entry.header = (resolveHeader config headers name).value := by
  by_cases hdescribed : ∀ c ∈ registrable config requested cs, c.className ≠ name
  · rw [get?_build_of_not_described config headers requested cs hdescribed] at h
    split at h
    · cases h
      rfl
    · cases h
  · simp only [not_forall, not_not] at hdescribed
    obtain ⟨c, hc, rfl⟩ := hdescribed
    obtain ⟨last, hlast, hsame⟩ := exists_mem_lastNamed hc
    rw [← hsame, get?_build_of_described config headers requested cs hlast] at h
    cases h
    rw [← hsame]
    rfl

/-- The header that is asked for by a name is that of its bare name, if the bare name is registered. -/
theorem includeFor_build {name : String}
    (h : (build config headers cs requested).value.contains (Descriptor.nameOf name) = true) :
    (build config headers cs requested).value.includeFor name = resolvedHeader config headers (Descriptor.nameOf name) := by
  obtain ⟨entry, hentry⟩ : ∃ entry, (build config headers cs requested).value.get? (Descriptor.nameOf name) = some entry :=
    Option.isSome_iff_exists.1 h
  have hconfig : (build config headers cs requested).value.config = config := by rw [value_build]
  rw [includeFor, hentry, Option.map_some, Option.getD_some, header_of_get?_build config headers requested cs hentry,
    value_resolveHeader, hconfig]
  rfl

/-- Of a name that is not registered by its bare name only the header that stands in is known. -/
theorem includeFor_of_not_registered {r : Registry} {name : String} (h : r.get? (Descriptor.nameOf name) = none) :
    r.includeFor name = r.config.fallbackIncludes.getD (Descriptor.nameOf name) "" := by
  rw [includeFor, h]
  rfl

end

/-! ### Units -/

/-- The dependencies of a class are registered. -/
theorem contains_of_mem_dependencies {r : Registry} {c : Compound} {name : String} (h : name ∈ r.dependencies c) :
    r.contains name = true := by
  obtain ⟨isPushed, hmentioned⟩ := mem_dependencies.1 h
  obtain ⟨⟨m, -, mention, -, rfl, -⟩, hne, -⟩ := mem_mentionedClasses.1 hmentioned
  have hregistered := r.vocabulary.isRegistered_className hne
  rwa [Vocabulary.isRegistered, vocabulary, names, OrderedMap.contains_keys] at hregistered

/-- The headers of a unit are those that its class and its dependencies are asked for. -/
theorem headers_of_unitOf {r : Registry} {c : Compound} {u : BindingsUnit} (h : (r.unitOf c).outcome = .ok u) :
    u.ownHeader? = r.ownHeader? c ∧ u.dependencyHeaders = r.dependencyHeaders c := by
  rw [outcome_unitOf] at h
  obtain ⟨ks, -, h⟩ := bind_eq_ok.1 h
  obtain ⟨instanceParts, -, h⟩ := bind_eq_ok.1 h
  obtain ⟨staticParts, -, h⟩ := bind_eq_ok.1 h
  cases h
  exact ⟨rfl, rfl⟩

/-- A unit includes the header that its class resolves to, and those that the dependencies resolve to. -/
structure IncludesResolved (r : Registry) (config : Config) (headers : Headers) (c : Compound) (u : BindingsUnit) :
    Prop where
  /-- The header of the class comes first, if there is one. -/
  own : u.ownHeader? = (some (resolvedHeader config headers c.className)).filter (!·.isEmpty)
  /-- The headers of the dependencies, in the order of the dependencies. -/
  listed : ListsOnce ((r.dependencies c).map (resolvedHeader config headers)) (resolvedHeader config headers c.className)
    u.dependencyHeaders

theorem includesResolved_of_bare {config : Config} {headers : Headers} {requested : List String} {cs : List Compound}
    {c : Compound} {u : BindingsUnit} (hclass : (build config headers cs requested).value.contains c.className = true)
    (hu : ((build config headers cs requested).value.unitOf c).outcome = .ok u)
    (hbare : ∀ name ∈ c.className :: (build config headers cs requested).value.dependencies c,
      Descriptor.nameOf name = name) :
    (build config headers cs requested).value.IncludesResolved config headers c u := by
  have hresolved : ∀ name ∈ c.className :: (build config headers cs requested).value.dependencies c,
      (build config headers cs requested).value.includeFor name = resolvedHeader config headers name := by
    intro name hname
    have hcontains : (build config headers cs requested).value.contains name = true := by
      rcases List.mem_cons.1 hname with rfl | hname
      · exact hclass
      · exact contains_of_mem_dependencies hname
    rw [includeFor_build config headers requested cs (by rwa [hbare name hname]), hbare name hname]
  obtain ⟨hown, hlisted⟩ := headers_of_unitOf hu
  rw [List.forall_mem_cons] at hresolved
  refine ⟨?_, ?_⟩
  · rw [hown, ownHeader?, hresolved.1]
  · rw [hlisted, dependencyHeaders, hresolved.1, List.map_congr_left hresolved.2]
    exact listsOnce_eraseDups _ _

theorem argumentName_underscore (name : String) : argumentName ("_" ++ name) = name := by
  have hstarts : startsWith ("_" ++ name) "_" = true := by
    rw [startsWith, List.isPrefixOf_iff_prefix, String.toList_append]
    exact List.prefix_append _ _
  rw [argumentName, if_pos hstarts, dropStart, String.toList_append]
  exact String.ofList_toList

/-- A name that is not its own bare name may have a header that it does not lead to. -/
theorem exists_includeFor_ne {name : String} (h : Descriptor.nameOf name ≠ name) :
    ∃ config headers cs requested, (build config headers cs requested).value.contains name = true ∧
      (build config headers cs requested).value.includeFor name ≠ resolvedHeader config headers name := by
  let config : Config := { Config.default with headerAliases := ⟨[(name, "known.h")]⟩, fallbackIncludes := ∅ }
  have hasked : ∀ other, IsAskedFor ["_" ++ name] other ↔ other ≠ "" ∧ other = name := by
    intro other
    simp [IsAskedFor, argumentName_underscore, eq_comm]
  have hget (other : String) : (build config { preferred := [] } [] ["_" ++ name]).value.get? other =
      if other ∈ (requestedClasses ["_" ++ name]).1 then
        some (requestedEntry config { preferred := [] } (requestedClasses ["_" ++ name]).2 other) else none :=
    get?_build_of_not_described config { preferred := [] } ["_" ++ name] [] fun c hc => absurd hc List.not_mem_nil
  have hne : name ≠ "" := by
    rintro rfl
    exact h (by decide +kernel)
  refine ⟨config, { preferred := [] }, [], ["_" ++ name], ?_, ?_⟩
  · have hfound := hget name
    rw [if_pos (isAskedFor_iff.1 ((hasked name).2 ⟨hne, rfl⟩))] at hfound
    exact Option.isSome_iff_exists.2 ⟨_, hfound⟩
  · have hmissing := hget (Descriptor.nameOf name)
    rw [if_neg fun hmem => h ((hasked _).1 (isAskedFor_iff.2 hmem)).2] at hmissing
    have hconfig : (build config { preferred := [] } [] ["_" ++ name]).value.config = config := by rw [value_build]
    have hknown : resolvedHeader config { preferred := [] } name = "known.h" := by
      have halias : config.headerAliases.get? name = some "known.h" := by simp [config, OrderedMap.get?]
      rw [resolvedHeader, halias]
      rfl
    rw [includeFor_of_not_registered hmissing, hconfig, hknown]
    exact (by decide : ("" : String) ≠ "known.h")

/-- **A unit includes the headers that its classes resolve to.** What is found for a class is the first of the headers
called after it that begin in the best way, or the first of all. Let the names of a class and of its dependencies be their
own bare names. Then its unit includes first its own header, then those of the dependencies once each, in order and without
its own. A registered name always leads to the header it resolves to just if it is its own bare name. -/
theorem headers_included {t : Tree} {root : Option String} {preferred : List String} {headers : Headers}
    (hscan : (Headers.scan t root preferred).outcome = .ok headers) :
    (∀ name, Finds preferred (IsHeaderOf t root name) (headers.lookup name) ∧
      (headers.lookup name = "" ↔ ∀ parts, ¬ IsHeaderOf t root name parts)) ∧
    (∀ (config : Config) (cs : List Compound) (requested : List String) (c : Compound) (u : BindingsUnit),
      (build config headers cs requested).value.contains c.className = true →
      ((build config headers cs requested).value.unitOf c).outcome = .ok u →
      (∀ name ∈ c.className :: (build config headers cs requested).value.dependencies c, Descriptor.nameOf name = name) →
      (build config headers cs requested).value.IncludesResolved config headers c u) ∧
    ∀ name, (∀ (config : Config) (headers' : Headers) (cs : List Compound) (requested : List String),
      (build config headers' cs requested).value.contains name = true →
      (build config headers' cs requested).value.includeFor name = resolvedHeader config headers' name) ↔
        Descriptor.nameOf name = name := by
  refine ⟨Headers.finds_scan hscan, fun config cs requested c u => includesResolved_of_bare, fun name => ⟨fun h => ?_, ?_⟩⟩
  · by_contra hbare
    obtain ⟨config, headers', cs, requested, hcontains, hne⟩ := exists_includeFor_ne hbare
    exact hne (h config headers' cs requested hcontains)
  · intro hbare config headers' cs requested hcontains
    have hbuild : (build config headers' cs requested).value.contains (Descriptor.nameOf name) = true := by rwa [hbare]
    rw [includeFor_build config headers' requested cs hbuild, hbare]

/-- A class that returns objects of two others, one of which has no header of its own. -/
def garage : Compound where
  kind := "class"
  name := "Garage"
  members :=
    [{ kind := "function", name := "Wheel", type := "Wheel" }, { kind := "function", name := "Vehicle", type := "Vehicle" }]

/-- The header of a wheel is that of a vehicle. -/
def garageConfig : Config := { Config.default with headerAliases := ⟨[("Wheel", "Vehicle")]⟩ }

/-- Headers of which two are called after the same class. -/
def garageTree : Tree :=
  Tree.ofFiles ["work"] [("src/Garage.h", ""), ("src/Old/Vehicle.h", ""), ("src/Vehicles/Vehicle.h", "")]

/-- What is found among them. -/
def garageHeaders : Headers where
  preferred := ["Vehicles/"]
  candidates := Headers.group [["Garage.h"], ["Old", "Vehicle.h"], ["Vehicles", "Vehicle.h"]]

/-- The registry of the three classes. -/
def garageRegistry : Registry :=
  (build garageConfig garageHeaders
    [garage, { kind := "class", name := "Wheel" }, { kind := "class", name := "Vehicle" }] []).value

theorem headers_included_garage :
    (Headers.scan garageTree (some "src") ["Vehicles/"]).outcome = .ok garageHeaders ∧
      Finds ["Vehicles/"] (IsHeaderOf garageTree (some "src") "Vehicle") (garageHeaders.lookup "Vehicle") ∧
      garageHeaders.lookup "Vehicle" = "Vehicles/Vehicle.h" ∧
      ∃ u, (garageRegistry.unitOf garage).outcome = .ok u ∧
        garageRegistry.IncludesResolved garageConfig garageHeaders garage u ∧
        u.ownHeader? = some "Garage.h" ∧ u.dependencyHeaders = ["Vehicles/Vehicle.h"] := by
  have hfound : garageTree.matching ["work", "src"] true ".h" =
      [["Garage.h"], ["Old", "Vehicle.h"], ["Vehicles", "Vehicle.h"]] :=
    (List.mergeSort_of_pairwise (by decide +kernel)).trans (by decide +kernel)
  have hscan : (Headers.scan garageTree (some "src") ["Vehicles/"]).outcome = .ok garageHeaders := by
    rw [Headers.outcome_scan_of_directory (by decide) (by decide +kernel : _ = Except.ok (some ["work", "src"])), hfound]
    rfl
  obtain ⟨hlookup, hincludes, -⟩ := headers_included hscan
  have hunit : (garageRegistry.unitOf garage).outcome.isOk = true := by decide +kernel
  cases hu : (garageRegistry.unitOf garage).outcome with
  | error e =>
    rw [hu] at hunit
    cases hunit
  | ok u =>
    obtain ⟨hown, hlisted⟩ := headers_of_unitOf hu
    have hresolved := hincludes garageConfig _ _ garage u (by decide +kernel) hu (by decide +kernel)
    refine ⟨hscan, (hlookup "Vehicle").1, by decide +kernel, u, rfl, hresolved, ?_, ?_⟩
    · rw [hown]
      decide +kernel
    · rw [hlisted]
      decide +kernel

/-- A class that returns objects of one whose name begins like a word of types. -/
def solver : Compound where
  kind := "class"
  name := "Solver"
  members := [{ kind := "function", name := "Hold", type := "Physics::constraint" }]

/-- The headers of the two. -/
def solverTree : Tree := Tree.ofFiles ["work"] [("src/Physics/constraint.h", ""), ("src/Solver.h", "")]

/-- What is found among them. -/
def solverHeaders : Headers where
  preferred := []
  candidates := Headers.group [["Physics", "constraint.h"], ["Solver.h"]]

/-- The registry of the two classes. -/
def solverRegistry : Registry :=
  (build Config.default solverHeaders [solver, { kind := "class", name := "Physics::constraint" }] []).value

/-- The class is registered with its header, but the name it is registered by leads to another class. -/
theorem not_listed_constraint :
    (Headers.scan solverTree (some "src") []).outcome = .ok solverHeaders ∧ solver ∈ solverRegistry.bindable.map (·.2) ∧
      (solverRegistry.unitOf solver).outcome.isOk = true ∧ solverRegistry.dependencies solver = ["constraint"] ∧
      (solverRegistry.get? "constraint").map (·.header) = some "Physics/constraint.h" ∧
      resolvedHeader Config.default solverHeaders "constraint" = "Physics/constraint.h" ∧
      (solverRegistry.unitOf solver).outcome.toOption.map (·.dependencyHeaders) = some [] := by
  have hfound : solverTree.matching ["work", "src"] true ".h" = [["Physics", "constraint.h"], ["Solver.h"]] :=
    (List.mergeSort_of_pairwise (by decide +kernel)).trans (by decide +kernel)
  refine ⟨?_, ?_⟩
  · rw [Headers.outcome_scan_of_directory (by decide) (by decide +kernel : _ = Except.ok (some ["work", "src"])), hfound]
    rfl
  · decide +kernel

end Registry

end ScriptGlue
