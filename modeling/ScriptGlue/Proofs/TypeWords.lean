import Mathlib.Data.List.Find
import Mathlib.Data.List.Perm.Subperm
import ScriptGlue.Proofs.Completion
import ScriptGlue.Proofs.OverloadSets
import ScriptGlue.Proofs.References

/-!
# Types in the names of functions

An overload is named after the types of its parameters. The names of the types are written one after the other
with an underscore before each, and with an underscore for every character that is no letter or digit; so the name
tells the words of which the types consist, and nothing else of them (`mangle_eq_mangle_iff`). A class called
`Rect_int` is spelled as the classes `Rect` and `int` are one after the other. **`boundApart_iff`** says that two
accepted functions of one base name are bound side by side just when their types differ in words, and that of all
that agree in words the first is bound.
-/

namespace ScriptGlue

open ScriptGlue.Text ScriptGlue.Cpp

/-! ### Words -/

/-- The pieces of a name between the characters that are neither letters nor digits. -/
def nameWords (name : String) : List (List Char) := name.toList.splitOnP (!isAlphanumeric ·)

/-- What a list is split at is not in the pieces. -/
theorem not_of_mem_splitOnP {α : Type} {p : α → Bool} {s piece : List α} (h : piece ∈ s.splitOnP p) {a : α}
    (ha : a ∈ piece) : p a = false := by
  induction s generalizing piece with
  | nil =>
    rw [List.splitOnP_nil] at h
    cases List.mem_singleton.1 h
    cases ha
  | cons b s ih =>
    rw [List.splitOnP_cons_eq_if_modifyHead] at h
    split at h
    · rcases List.mem_cons.1 h with rfl | h
      · cases ha
      · exact ih h ha
    · next hb =>
      obtain ⟨first, rest, hrest⟩ := List.exists_cons_of_ne_nil (List.splitOnP_ne_nil p s)
      rw [hrest] at h ih
      rcases List.mem_cons.1 h with rfl | h
      · rcases List.mem_cons.1 ha with rfl | ha
        · simpa using hb
        · exact ih List.mem_cons_self ha
      · exact ih (List.mem_cons_of_mem first h) ha

theorem not_mem_nameWords {name : String} {word : List Char} (h : word ∈ nameWords name) : '_' ∉ word := by
  intro hmark
  exact absurd (not_of_mem_splitOnP h hmark) (by decide)

/-- A name of letters and digits is one word. -/
theorem nameWords_eq_singleton {name : String} (h : ∀ ch ∈ name.toList, isAlphanumeric ch = true) :
    nameWords name = [name.toList] :=
  List.splitOnP_eq_singleton fun ch hch => by simp [h ch hch]

/-- After an underscore a name is spelled as its words, each after an underscore. -/
theorem toList_identifierOf (name : String) : '_' :: (identifierOf name).toList = (nameWords name).flatMap ('_' :: ·) := by
  have hpieces : ∀ s : List Char, '_' :: (s.map fun c => if isWordChar c then c else '_') =
      (s.splitOnP (!isAlphanumeric ·)).flatMap ('_' :: ·) := by
    intro s
    induction s with
    | nil => rfl
    | cons c s ih =>
      rw [List.map_cons, List.splitOnP_cons_eq_if_modifyHead]
      cases hletter : isAlphanumeric c with
      | false =>
        have hspelled : (if isWordChar c then c else '_') = '_' := by simp [isWordChar, hletter]
        rw [hspelled, ih]
        simp
      | true =>
        obtain ⟨first, rest, hrest⟩ := List.exists_cons_of_ne_nil (List.splitOnP_ne_nil (!isAlphanumeric ·) s)
        rw [hrest, List.flatMap_cons, List.cons_append, List.cons.injEq] at ih
        simpa [isWordChar, hletter, hrest] using ih.2
  rw [identifierOf, String.toList_ofList]
  exact hpieces _

/-- Words without underscores are told by the text that has an underscore before each. -/
theorem flatMap_underscore_inj {us vs : List (List Char)} (hu : ∀ u ∈ us, '_' ∉ u) (hv : ∀ v ∈ vs, '_' ∉ v)
    (h : us.flatMap ('_' :: ·) = vs.flatMap ('_' :: ·)) : us = vs := by
  have hjoin : ∀ ws : List (List Char), ws.flatMap ('_' :: ·) = ['_'].intercalate ([] :: ws) := by
    intro ws
    induction ws with
    | nil => rfl
    | cons w ws ih => cases ws <;> simp_all [List.intercalate]
  have hsplit : ∀ ws : List (List Char), (∀ w ∈ ws, '_' ∉ w) → (ws.flatMap ('_' :: ·)).splitOn '_' = [] :: ws := by
    intro ws hws
    rw [hjoin]
    refine List.splitOn_intercalate '_' ?_ (List.cons_ne_nil _ _)
    simpa using hws
  have hsame := hsplit us hu
  rw [h, hsplit vs hv] at hsame
  exact (List.cons.inj hsame).2.symm

/-- The bare names of the types of some parameters. -/
def typeNames (ps : List Parameter) : List String := ps.map fun p => Descriptor.nameOf p.basicType

/-- The words of the types of some parameters, all in a row. -/
def typeWords (ps : List Parameter) : List (List Char) := (typeNames ps).flatMap nameWords

theorem not_mem_typeWords {ps : List Parameter} : ∀ word ∈ typeWords ps, '_' ∉ word := by
  intro word hword
  obtain ⟨name, -, hword⟩ := List.mem_flatMap.1 hword
  exact not_mem_nameWords hword

/-- The name of a function is its base and the words of its types. -/
theorem toList_mangle (base : String) (ps : List Parameter) :
    (mangle base ps).toList = base.toList ++ (typeWords ps).flatMap ('_' :: ·) := by
  induction ps generalizing base with
  | nil => simp [mangle, typeWords, typeNames]
  | cons p ps ih =>
    have hstep : mangle base (p :: ps) = mangle (base ++ "_" ++ identifierOf (Descriptor.nameOf p.basicType)) ps := rfl
    have hmark : "_".toList = ['_'] := rfl
    have hwords : typeWords (p :: ps) = nameWords (Descriptor.nameOf p.basicType) ++ typeWords ps := rfl
    rw [hstep, ih, hwords, List.flatMap_append, ← toList_identifierOf, String.toList_append, String.toList_append, hmark]
    simp

/-- **A function name tells the words of the types and no more.** -/
theorem mangle_eq_mangle_iff (base : String) (ps qs : List Parameter) :
    mangle base ps = mangle base qs ↔ typeWords ps = typeWords qs := by
  rw [← String.toList_inj, toList_mangle, toList_mangle, List.append_cancel_left_eq]
  constructor
  · exact flatMap_underscore_inj not_mem_typeWords not_mem_typeWords
  · exact fun h => congrArg _ h

/-- Types called by letters and digits only are told by their words. -/
theorem typeWords_eq_typeWords_iff {ps qs : List Parameter}
    (hps : ∀ name ∈ typeNames ps, ∀ ch ∈ name.toList, isAlphanumeric ch = true)
    (hqs : ∀ name ∈ typeNames qs, ∀ ch ∈ name.toList, isAlphanumeric ch = true) :
    typeWords ps = typeWords qs ↔ typeNames ps = typeNames qs := by
  have hwords : ∀ rs : List Parameter, (∀ name ∈ typeNames rs, ∀ ch ∈ name.toList, isAlphanumeric ch = true) →
      typeWords rs = (typeNames rs).map String.toList := by
    intro rs hrs
    rw [typeWords, List.map_eq_flatMap]
    exact List.flatMap_congr fun name hname => nameWords_eq_singleton (hrs name hname)
  rw [hwords ps hps, hwords qs hqs]
  exact (List.map_injective_iff.2 fun _ _ h => String.toList_inj.1 h).eq_iff

/-! ### Functions of one name -/

/-- Of the functions with a name the first is kept. -/
theorem filter_firstNamed (os : List Overload) (name : String) :
    (firstNamed os).filter (·.functionName == name) = (os.find? (·.functionName == name)).toList := by
  induction os with
  | nil => rfl
  | cons o os ih =>
    rw [firstNamed, List.filter_cons, List.filter_filter]
    by_cases hname : o.functionName = name
    · subst hname
      simp
    · have hother : ∀ x : Overload, (x.functionName == name && x.functionName != o.functionName) = (x.functionName == name) := by
        intro x
        by_cases hx : x.functionName = name
        · simp [hx, Ne.symm hname]
        · simp [hx]
      rw [List.find?_cons_of_neg (by simpa using hname), if_neg (by simpa using hname), List.filter_congr fun x _ => hother x,
        ih]

namespace Registry

variable {r : Registry} {c : Compound} {isStatic : Bool} {m m' : Symbol}

/-- Two functions are bound side by side: they are named differently, and one set has functions of both names and a
selector that tries both. -/
structure BoundApart (r : Registry) (c : Compound) (isStatic : Bool) (m m' : Symbol) : Prop where
  names_ne : (c.overloadOf m isStatic).functionName ≠ (c.overloadOf m' isStatic).functionName
  dispatched : ∃ s, (c.baseName m isStatic, s) ∈ (r.sets c isStatic).toList ∧ s.needsSelector = true ∧
    ∃ selector, r.vocabulary.selector s = .ok selector ∧ ∀ x ∈ [m, m'],
      (c.overloadOf x isStatic).functionName ∈ s.overloads.map (·.functionName) ∧
      (c.overloadOf x isStatic).functionName ∈ selector.cases.map (·.2)

/-- The set of an accepted function. -/
theorem mem_toList_sets (h : m ∈ r.accepted c isStatic) :
    (c.baseName m isStatic, c.setOf isStatic (c.baseName m isStatic)
      (c.groupOf isStatic (r.accepted c isStatic) (c.baseName m isStatic))) ∈ (r.sets c isStatic).toList := by
  rw [toList_sets]
  refine List.mem_map.2 ⟨_, Compound.mem_basesOf.2 ?_, rfl⟩
  exact List.ne_nil_of_mem (List.mem_filter.2 ⟨h, beq_self_eq_true _⟩)

/-- The name of an accepted function is in its set, whoever of that name is bound. -/
theorem mem_names_setOf (h : m ∈ r.accepted c isStatic) :
    (c.overloadOf m isStatic).functionName ∈ ((c.setOf isStatic (c.baseName m isStatic)
      (c.groupOf isStatic (r.accepted c isStatic) (c.baseName m isStatic))).overloads).map (·.functionName) := by
  have hgroup : m ∈ c.groupOf isStatic (r.accepted c isStatic) (c.baseName m isStatic) :=
    List.mem_filter.2 ⟨h, beq_self_eq_true _⟩
  exact mem_functionNames_setOf.2 ⟨m, hgroup, rfl⟩

/-- Functions of one base are named alike just when their types have the same words. -/
theorem functionName_eq_iff (hbase : c.baseName m' isStatic = c.baseName m isStatic) :
    (c.overloadOf m isStatic).functionName = (c.overloadOf m' isStatic).functionName ↔
      typeWords m.parameters = typeWords m'.parameters := by
  have hname' : (c.overloadOf m' isStatic).functionName = mangle (c.baseName m isStatic) m'.parameters :=
    congrArg (mangle · m'.parameters) hbase
  rw [hname']
  exact mangle_eq_mangle_iff _ _ _

/-- Two functions of one base whose types differ in words are bound side by side. -/
theorem boundApart_of_ne (hm : m ∈ r.accepted c isStatic) (hm' : m' ∈ r.accepted c isStatic)
    (hbase : c.baseName m' isStatic = c.baseName m isStatic) (hwords : typeWords m.parameters ≠ typeWords m'.parameters) :
    r.BoundApart c isStatic m m' := by
  have hnames : (c.overloadOf m isStatic).functionName ≠ (c.overloadOf m' isStatic).functionName :=
    mt (functionName_eq_iff hbase).1 hwords
  have hset := mem_toList_sets hm
  have hname := mem_names_setOf hm
  have hname' := mem_names_setOf hm'
  rw [hbase] at hname'
  generalize c.setOf isStatic (c.baseName m isStatic) (c.groupOf isStatic (r.accepted c isStatic) (c.baseName m isStatic)) = s
    at hset hname hname'
  have hselector : s.needsSelector = true := by
    have htwo : 2 ≤ (s.overloads.map (·.functionName)).length := by
      have hpair : [(c.overloadOf m isStatic).functionName, (c.overloadOf m' isStatic).functionName].Nodup := by
        simpa using hnames
      exact (List.subperm_of_subset hpair (by simp [hname, hname'])).length_le
    simpa [OverloadSet.needsSelector] using htwo
  obtain ⟨selector, hfound⟩ := exists_selector (List.mem_map.2 ⟨_, hset, rfl⟩)
  have htargets : ∀ name ∈ s.overloads.map (·.functionName), name ∈ selector.cases.map (·.2) := by
    intro name hmem
    rw [Vocabulary.targets_of_selector hfound]
    simpa [OverloadSet.dispatchOrder] using hmem
  refine ⟨hnames, s, hset, hselector, selector, hfound, ?_⟩
  intro x hx
  rcases List.mem_pair.1 hx with rfl | rfl
  · exact ⟨hname, htargets _ hname⟩
  · exact ⟨hname', htargets _ hname'⟩

/-- Of the accepted functions of one base whose types have the same words, the first is bound. -/
theorem filter_overloads_setOf (m : Symbol) :
    ((c.setOf isStatic (c.baseName m isStatic) (c.groupOf isStatic (r.accepted c isStatic) (c.baseName m isStatic))).overloads).filter
        (·.functionName == (c.overloadOf m isStatic).functionName) =
      (((r.accepted c isStatic).find? fun x => c.baseName x isStatic = c.baseName m isStatic ∧
        typeWords x.parameters = typeWords m.parameters).map (c.overloadOf · isStatic)).toList := by
  have hsame : ∀ x ∈ c.groupOf isStatic (r.accepted c isStatic) (c.baseName m isStatic),
      ((c.overloadOf x isStatic).functionName == (c.overloadOf m isStatic).functionName) =
        (typeWords x.parameters == typeWords m.parameters) := by
    intro x hx
    have hbase : c.baseName x isStatic = c.baseName m isStatic := by simpa using (List.mem_filter.1 hx).2
    rw [Bool.eq_iff_iff, beq_iff_eq, beq_iff_eq]
    exact functionName_eq_iff hbase.symm
  rw [Compound.setOf, filter_firstNamed, List.find?_map, Function.comp_def, List.find?_congr hsame, Compound.groupOf,
    List.find?_filter]
  simp only [beq_iff_eq]

/-- **When overloads are bound apart.** Two accepted functions of one base name are bound side by side just when their
types differ in words; where types are called by letters and digits only, just when their types differ. Of all that
agree in words the first is bound, alone. -/
theorem boundApart_iff (hm : m ∈ r.accepted c isStatic) (hm' : m' ∈ r.accepted c isStatic)
    (hbase : c.baseName m' isStatic = c.baseName m isStatic) :
    (r.BoundApart c isStatic m m' ↔ typeWords m.parameters ≠ typeWords m'.parameters) ∧
    ((∀ name ∈ typeNames m.parameters ++ typeNames m'.parameters, ∀ ch ∈ name.toList, isAlphanumeric ch = true) →
      (r.BoundApart c isStatic m m' ↔ typeNames m.parameters ≠ typeNames m'.parameters)) ∧
    ∃ s first, (c.baseName m isStatic, s) ∈ (r.sets c isStatic).toList ∧
      (r.accepted c isStatic).find? (fun x => c.baseName x isStatic = c.baseName m isStatic ∧
        typeWords x.parameters = typeWords m.parameters) = some first ∧
      s.overloads.filter (·.functionName == (c.overloadOf m isStatic).functionName) = [c.overloadOf first isStatic] := by
  have hapart : r.BoundApart c isStatic m m' ↔ typeWords m.parameters ≠ typeWords m'.parameters :=
    ⟨fun h => mt (functionName_eq_iff hbase).2 h.names_ne, boundApart_of_ne hm hm' hbase⟩
  refine ⟨hapart, ?_, ?_⟩
  · intro hplain
    have hiff := typeWords_eq_typeWords_iff (fun name hname => hplain name (List.mem_append_left _ hname))
      (fun name hname => hplain name (List.mem_append_right _ hname))
    rw [hapart, ne_eq, hiff]
  · have hfound : ((r.accepted c isStatic).find? fun x => c.baseName x isStatic = c.baseName m isStatic ∧
        typeWords x.parameters = typeWords m.parameters).isSome = true := by
      rw [List.find?_isSome]
      exact ⟨m, hm, by simp⟩
    obtain ⟨first, hfirst⟩ := Option.isSome_iff_exists.1 hfound
    refine ⟨_, first, mem_toList_sets hm, hfirst, ?_⟩
    rw [filter_overloads_setOf, hfirst]
    rfl

/-- A class with a function of one type and a function of two, the first of which is spelled as the two. -/
def canvas : Compound where
  kind := "class"
  name := "Canvas"
  members := [{ kind := "function", name := "Clip", type := "void", parameters := [{ type := "Rect_int", name := "area" }] },
    { kind := "function", name := "Clip", type := "void",
      parameters := [{ type := "Rect", name := "area" }, { type := "int", name := "margin" }] }]

/-- The registry of the class and of the structures that its functions take. -/
def canvasRegistry : Registry :=
  (build .default { preferred := [] } [{ kind := "struct", name := "Rect" }, { kind := "struct", name := "Rect_int" }, canvas]
    []).value

/-- Functions of different types are accepted, and the second is not bound. -/
theorem not_boundApart_canvas : canvas ∈ canvasRegistry.bindable.map (·.2) ∧ ∃ m m', canvasRegistry.accepted canvas false = [m, m'] ∧
    canvas.baseName m' false = canvas.baseName m false ∧ typeNames m.parameters ≠ typeNames m'.parameters ∧
    ¬ canvasRegistry.BoundApart canvas false m m' ∧
    canvasRegistry.bound canvas false = [canvas.overloadOf m false] := by
  refine ⟨by decide +kernel, canvas.members[0].toSymbol, canvas.members[1].toSymbol, by decide +kernel, by decide +kernel,
    by decide +kernel, ?_, by decide +kernel⟩
  intro h
  exact h.names_ne (by decide +kernel)

theorem boundApart_iff_canvas : ∃ m m', m ∈ canvasRegistry.accepted canvas false ∧ m' ∈ canvasRegistry.accepted canvas false ∧
    canvas.baseName m' false = canvas.baseName m false ∧
    (canvasRegistry.BoundApart canvas false m m' ↔ typeWords m.parameters ≠ typeWords m'.parameters) := by
  have hm : canvas.members[0].toSymbol ∈ canvasRegistry.accepted canvas false := by decide +kernel
  have hm' : canvas.members[1].toSymbol ∈ canvasRegistry.accepted canvas false := by decide +kernel
  have hbase : canvas.baseName canvas.members[1].toSymbol false = canvas.baseName canvas.members[0].toSymbol false := by
    decide +kernel
  exact ⟨_, _, hm, hm', hbase, (boundApart_iff hm hm' hbase).1⟩

end Registry

end ScriptGlue
