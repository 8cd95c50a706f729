import ScriptGlue.Proofs.Carriage
import ScriptGlue.Proofs.Maps

/-!
# Bound functions

Which functions end up in the overload sets of a class: **`mem_bound`** says that each comes from a member
that was accepted, and `binds_facts` what acceptance settles about the member.
-/

namespace ScriptGlue

open ScriptGlue.Text ScriptGlue.Cpp

namespace Registry

variable (r : Registry)

/-! ### Resolution as a fold -/

/-- The member is bound as a function that is called with or without an object. -/
def binds (c : Compound) (isStatic : Bool) (m : Symbol) : Bool :=
  m.isCandidateFunction && c.bindsStatic m == isStatic && (r.functionRejection? c m).isNone

/-- The sets after a member has been considered. -/
def consider (c : Compound) (isStatic : Bool) (sets : OrderedMap OverloadSet) (m : Symbol) : OrderedMap OverloadSet :=
  if r.binds c isStatic m then c.accept isStatic sets m else sets

theorem resolveFrom_value (c : Compound) (isStatic : Bool) (sets : OrderedMap OverloadSet) (ms : List Symbol) :
    (r.resolveFrom c isStatic sets ms).value = ms.foldl (r.consider c isStatic) sets := by
  induction ms generalizing sets with
  | nil => rfl
  | cons m ms ih =>
    rw [List.foldl_cons, consider, binds, resolveFrom]
    cases hcandidate : m.isCandidateFunction with
    | false => simpa using ih sets
    | true =>
      cases hstatic : c.bindsStatic m == isStatic with
      | false => simpa [bne, hstatic] using ih sets
      | true =>
        cases hrejection : r.functionRejection? c m with
        | none => simpa [bne, hstatic] using ih (c.accept isStatic sets m)
        | some reason => simpa [bne, hstatic] using ih sets

/-- The sets of a class. -/
def sets (c : Compound) (isStatic : Bool) : OrderedMap OverloadSet := (r.resolve c isStatic).value

theorem sets_eq (c : Compound) (isStatic : Bool) :
    r.sets c isStatic = (c.members.map (·.toSymbol)).foldl (r.consider c isStatic) ∅ :=
  r.resolveFrom_value c isStatic ∅ _

/-- The bound functions of a class that are called with or without an object. -/
def bound (c : Compound) (isStatic : Bool) : List Overload := (r.sets c isStatic).values.flatMap (·.overloads)

/-! ### Where bound functions come from -/

/-- Every function of the sets is that of an accepted one among the members. -/
def Sourced (c : Compound) (isStatic : Bool) (ms : List Symbol) (sets : OrderedMap OverloadSet) : Prop :=
  ∀ s ∈ sets.values, ∀ o ∈ s.overloads, ∃ m ∈ ms, r.binds c isStatic m = true ∧ o = c.overloadOf m isStatic

variable {r}

theorem Sourced.consider {c : Compound} {isStatic : Bool} {ms : List Symbol} {sets : OrderedMap OverloadSet}
    (h : r.Sourced c isStatic ms sets) {m : Symbol} (hm : m ∈ ms) :
    r.Sourced c isStatic ms (r.consider c isStatic sets m) := by
  rw [Registry.consider]
  split
  · next hbinds =>
    -- the set of the member held only what was there before, or nothing if it is new
    have hold : ∀ o ∈ (sets.getD (c.baseName m isStatic)
        { baseName := c.baseName m isStatic, scriptName := m.name, isConstructor := c.bindsConstructor m }).overloads,
        ∃ m ∈ ms, r.binds c isStatic m = true ∧ o = c.overloadOf m isStatic := by
      rw [OrderedMap.getD]
      cases hget : sets.get? (c.baseName m isStatic) with
      | none => simp
      | some s => exact h s (OrderedMap.mem_values_of_get? hget)
    intro s hs o ho
    rcases OrderedMap.mem_values_insert hs with rfl | hs
    · split at ho
      · exact hold o ho
      · rcases List.mem_append.1 ho with ho | ho
        · exact hold o ho
        · exact ⟨m, hm, hbinds, List.mem_singleton.1 ho⟩
    · exact h s hs o ho
  · exact h

theorem Sourced.foldl {c : Compound} {isStatic : Bool} {ms : List Symbol} {sets : OrderedMap OverloadSet}
    (h : r.Sourced c isStatic ms sets) {considered : List Symbol} (hsub : ∀ m ∈ considered, m ∈ ms) :
    r.Sourced c isStatic ms (considered.foldl (r.consider c isStatic) sets) := by
  induction considered generalizing sets with
  | nil => exact h
  | cons m considered ih =>
    exact ih (h.consider (hsub m List.mem_cons_self)) fun m' hm' => hsub m' (List.mem_cons_of_mem m hm')

/-- **A bound function is that of an accepted member.** -/
theorem mem_bound {c : Compound} {isStatic : Bool} {o : Overload} (h : o ∈ r.bound c isStatic) :
    ∃ m ∈ c.members, r.binds c isStatic m.toSymbol = true ∧ o = c.overloadOf m.toSymbol isStatic := by
  have hempty : r.Sourced c isStatic (c.members.map (·.toSymbol)) ∅ := fun s hs => absurd hs List.not_mem_nil
  have hsourced := hempty.foldl fun m hm => hm
  rw [← sets_eq] at hsourced
  obtain ⟨s, hs, ho⟩ := List.mem_flatMap.1 h
  obtain ⟨m, hm, hbinds, rfl⟩ := hsourced s hs o ho
  obtain ⟨member, hmember, rfl⟩ := List.mem_map.1 hm
  exact ⟨member, hmember, hbinds, rfl⟩

/-! ### What acceptance settles -/

/-- What is known about a member that is bound as a function. -/
structure BoundFacts (r : Registry) (c : Compound) (isStatic : Bool) (m : Symbol) : Prop where
  candidate : m.isCandidateFunction = true
  static : c.bindsStatic m = isStatic
  scriptable : r.isScriptable m = true
  /-- A class that counts references gets no constructor. -/
  constructor : c.bindsConstructor m = true → r.isRefcounted c.className = false
  /-- The result can be carried. -/
  result : c.bindsConstructor m = false → (r.vocabulary.classify m.type).isSupported = true
  parameters : ∀ p ∈ m.parameters, r.parameterRejection? p = none

/-- A function is accepted if it is scriptable, its result can be carried and its parameters are accepted. -/
theorem of_functionRejection? {c : Compound} {m : Symbol} (h : r.functionRejection? c m = none) :
    r.isScriptable m = true ∧ (c.bindsConstructor m = true → r.isRefcounted c.className = false) ∧
      (c.bindsConstructor m = false → (r.vocabulary.classify m.type).isSupported = true) ∧
      ∀ p ∈ m.parameters, r.parameterRejection? p = none := by
  unfold functionRejection? at h
  split at h
  · cases h
  · next hscriptable =>
    split at h
    · cases h
    · rw [Option.or_eq_none_iff] at h
      obtain ⟨hresult, hparameters⟩ := h
      refine ⟨by simpa using hscriptable, fun hc => ?_, fun hc => ?_, List.findSome?_eq_none_iff.1 hparameters⟩
      · simpa [hc] using hresult
      · simp only [hc, Bool.false_eq_true, if_false, returnRejection?] at hresult
        split at hresult
        · cases hresult
        · next hsupported => simpa using hsupported

theorem binds_facts {c : Compound} {isStatic : Bool} {m : Symbol} (h : r.binds c isStatic m = true) :
    BoundFacts r c isStatic m := by
  simp only [binds, Bool.and_eq_true, beq_iff_eq, Option.isNone_iff_eq_none] at h
  obtain ⟨⟨hcandidate, hstatic⟩, haccepted⟩ := h
  obtain ⟨hscriptable, hconstructor, hresult, hparameters⟩ := of_functionRejection? haccepted
  exact ⟨hcandidate, hstatic, hscriptable, hconstructor, hresult, hparameters⟩

/-- An exposed variable is scriptable and can be carried. -/
theorem of_isProperty {m : Symbol} (h : r.isProperty m = true) :
    m.isCandidateVariable = true ∧ r.isScriptable m = true ∧ (r.vocabulary.classify m.type).isSupported = true := by
  simp only [isProperty, variableRejection?, Bool.and_eq_true, Option.isNone_iff_eq_none] at h
  obtain ⟨hvariable, hrejection⟩ := h
  split at hrejection
  · cases hrejection
  · next hscriptable =>
    split at hrejection
    · next hsupported => exact ⟨hvariable, by simpa using hscriptable, hsupported⟩
    · cases hrejection

/-- Neither spelling of a parameter of a scriptable member is denied. -/
theorem not_denied_of_isScriptable {m : Symbol} (h : r.isScriptable m = true) {p : Parameter} (hp : p ∈ m.parameters) :
    r.vocabulary.isDenied p.type = false ∧ r.vocabulary.isDenied p.basicType = false := by
  simp only [isScriptable, Bool.and_eq_true, Bool.not_eq_true', List.all_eq_true] at h
  exact h.1.1.2 p hp

/-- The type of an accepted parameter can be read where it is judged. -/
theorem isSignalType_basicType {p : Parameter} (h : r.parameterRejection? p = none) :
    r.vocabulary.isSignalType p.basicType = true := by
  simp only [parameterRejection?] at h
  split at h
  · cases h
  · next hsupported =>
    simp only [Bool.or_eq_true, Bool.not_eq_true', beq_iff_eq, not_or, Bool.not_eq_false] at hsupported
    unfold Vocabulary.isSignalType
    cases hcategory : (r.vocabulary.classify p.basicType).category with
    | void => exact absurd hcategory hsupported.2
    | map => simp [hcategory] at h
    | unsupported => simp [TypeInfo.isSupported, hcategory] at hsupported
    | _ => rfl

/-- The parameters of the functions in a set can be tested. -/
theorem isSignalType_of_mem_overloads {c : Compound} {isStatic : Bool} {s : OverloadSet} (hs : s ∈ (r.sets c isStatic).values)
    {o : Overload} (ho : o ∈ s.overloads) {p : Parameter} (hp : p ∈ o.parameters) :
    r.vocabulary.isSignalType p.basicType = true := by
  obtain ⟨m, -, hbinds, rfl⟩ := mem_bound (List.mem_flatMap.2 ⟨s, hs, ho⟩)
  exact isSignalType_basicType ((binds_facts hbinds).parameters p hp)

end Registry

end ScriptGlue
