import ScriptGlue.Proofs.ParameterTypes
import ScriptGlue.Proofs.UnitSteps

/-!
# When a unit comes about

Selection promises that what it accepts can be emitted. The promise is kept for results, and for parameters
whose two spellings come to the same (`isSignalType_readType`); it is broken by a variable of type `void`, which
selection accepts, and by a parameter that is accepted by a spelling without its reference mark and cannot be
read by the one with it. **`unitOf_completes`** says that there is no other obstacle in the types, and that the
rest is up to the qualifications of the tables.
-/

namespace ScriptGlue.Registry

open ScriptGlue.Cpp

variable (r : Registry)

/-- The functions of a class that are bound. -/
def boundFunctions (c : Compound) : List Overload := r.bound c false ++ r.bound c true

/-- The variables that are exposed hold values. -/
def CarriesVariables (c : Compound) : Prop :=
  r.exposesProperties c = true →
    ∀ m ∈ c.members, r.isProperty m.toSymbol = true → (r.vocabulary.classify m.type).category ≠ .void

/-- The parameters of the bound functions can be read. -/
def CarriesParameters (c : Compound) : Prop :=
  ∀ o ∈ r.boundFunctions c, ∀ p ∈ o.parameters, r.vocabulary.isSignalType p.readType = true

/-- The results of the bound functions can be declared. -/
def DeclaresResults (c : Compound) : Prop :=
  ∀ o ∈ r.boundFunctions c, o.isConstructor = false → (r.vocabulary.classify o.function.type).category ≠ .void →
    r.vocabulary.isDeclarable o.function.type

/-! ### Variables and signals -/

/-- An exposed variable needs a type with values. -/
theorem hinges_variableContribution {c : Compound} {m : Symbol} (h : r.isProperty m = true) :
    Hinges (r.variableContribution c m) ((r.vocabulary.classify m.type).category ≠ .void) True := by
  obtain ⟨-, -, hsupported⟩ := of_isProperty h
  have hpushable : r.vocabulary.isPushable m.type = true ↔ (r.vocabulary.classify m.type).category ≠ .void := by
    simp [Vocabulary.isPushable, hsupported]
  refine ((r.vocabulary.hinges_setter? c.className m).bind fun setter? _ =>
    (r.vocabulary.hinges_getter c.className m).bind fun getter _ => Hinges.ok _).congr ?_ ?_
  · rw [hpushable]
    constructor
    · rintro ⟨-, hvoid, -⟩
      exact hvoid
    · intro hvoid
      exact ⟨fun hwritable => r.vocabulary.isSignalType_of_isWritable hwritable (hpushable.2 hvoid), hvoid, trivial⟩
  · simp

theorem hinges_contribution? (c : Compound) (m : Symbol) :
    Hinges (r.contribution? c m) (r.isProperty m = true → (r.vocabulary.classify m.type).category ≠ .void) True := by
  unfold contribution?
  by_cases hemits : r.emitsEvent c m = true
  · obtain ⟨hsignal, htypes⟩ := r.of_emitsEvent hemits
    rw [if_pos hemits]
    refine ((r.vocabulary.hinges_signal c.className m (signalTypes m)).map _).congr ?_ Iff.rfl
    simp only [r.not_isProperty_of_isSignal hsignal, Bool.false_eq_true, false_imp_iff, iff_true]
    exact htypes
  · rw [if_neg hemits]
    by_cases hproperty : r.isProperty m = true
    · rw [if_pos hproperty]
      exact ((r.hinges_variableContribution hproperty).map _).congr (by simp [hproperty]) Iff.rfl
    · rw [if_neg hproperty]
      exact Hinges.carried fun h => absurd h hproperty

theorem hinges_contributionsOf (c : Compound) : Hinges (r.contributionsOf c) (r.CarriesVariables c) True := by
  unfold contributionsOf CarriesVariables
  cases r.exposesProperties c with
  | true =>
    rw [if_pos rfl]
    exact ((Hinges.mapM fun m _ => r.hinges_contribution? c m).map _).congr (by simp) (by simp)
  | false =>
    rw [if_neg Bool.false_ne_true]
    exact Hinges.carried fun h => absurd h Bool.false_ne_true

/-! ### Functions -/

/-- Selectors and results are no obstacle, whatever was accepted. -/
theorem hinges_dispatchParts (c : Compound) (isStatic : Bool) :
    Hinges (r.dispatchParts c (r.sets c isStatic).values)
      (∀ o ∈ r.bound c isStatic, ∀ p ∈ o.parameters, r.vocabulary.isSignalType p.readType = true)
      (∀ o ∈ r.bound c isStatic, o.isConstructor = false → (r.vocabulary.classify o.function.type).category ≠ .void →
        r.vocabulary.isDeclarable o.function.type) := by
  have hsupported : ∀ o ∈ r.bound c isStatic, o.isConstructor = false →
      (r.vocabulary.classify o.function.type).isSupported = true := by
    intro o ho hconstructor
    obtain ⟨m, -, hbinds, rfl⟩ := mem_bound ho
    exact (binds_facts hbinds).result hconstructor
  have hchecked : ∀ s ∈ (r.sets c isStatic).values.filter (·.needsSelector), ∀ o ∈ s.overloads,
      ∀ p ∈ o.parameters.take o.significant.toNat, r.vocabulary.isSignalType p.basicType = true := by
    intro s hs o ho p hp
    exact isSignalType_of_mem_overloads (List.mem_filter.1 hs).1 ho (List.mem_of_mem_take hp)
  have hthunks := Hinges.mapM fun o (_ : o ∈ r.bound c isStatic) => r.vocabulary.hinges_thunk c.className o
  have hselectors := Hinges.mapM fun s (_ : s ∈ (r.sets c isStatic).values.filter (·.needsSelector)) =>
    r.vocabulary.hinges_selector s
  refine (hthunks.bind fun thunks _ => hselectors.bind fun selectors _ => Hinges.ok _).congr ?_ ?_
  · constructor
    · rintro ⟨h, -⟩ o ho
      exact (h o ho).1
    · intro h
      exact ⟨fun o ho => ⟨h o ho, hsupported o ho⟩, hchecked, trivial⟩
  · simp

/-- Every set of a class can have a selector. -/
theorem exists_selector {r : Registry} {c : Compound} {isStatic : Bool} {s : OverloadSet}
    (hs : s ∈ (r.sets c isStatic).values) : ∃ selector, r.vocabulary.selector s = .ok selector :=
  (r.vocabulary.hinges_selector s).ok_of
    (fun _ ho _ hp => isSignalType_of_mem_overloads hs ho (List.mem_of_mem_take hp)) trivial

/-- The outcome of a unit hinges on its variables, its parameters and the names in its results. -/
theorem hinges_unitOf (c : Compound) :
    Hinges (r.unitOf c).outcome (r.CarriesVariables c ∧ r.CarriesParameters c) (r.DeclaresResults c) := by
  rw [outcome_unitOf]
  refine ((r.hinges_contributionsOf c).bind fun ks _ => (r.hinges_dispatchParts c false).bind fun instances _ =>
    (r.hinges_dispatchParts c true).bind fun statics _ => Hinges.ok _).congr ?_ ?_
  · simp only [CarriesParameters, boundFunctions, List.mem_append, or_imp, forall_and, and_true]
  · simp only [DeclaresResults, boundFunctions, List.mem_append, or_imp, forall_and, and_true, true_and]

/-! ### Parameters -/

variable {r}

/-- An accepted parameter can be read if its type has no second leading `const` and no two marks at its end. -/
theorem isSignalType_readType {m : Symbol} (hscriptable : r.isScriptable m = true) {p : Parameter}
    (hp : p ∈ m.parameters) (haccepted : r.parameterRejection? p = none) (hconst : p.SingleConst)
    (hmarks : ¬ p.DoublyMarked) : r.vocabulary.isSignalType p.readType = true := by
  obtain ⟨htype, hbasic⟩ := not_denied_of_isScriptable hscriptable hp
  obtain ⟨-, hcategory⟩ := Vocabulary.classify_readType hconst hmarks htype hbasic
  have hread := isSignalType_basicType haccepted
  unfold Vocabulary.isSignalType at *
  rwa [hcategory]

/-- **When generation succeeds.** A unit comes about just when its exposed variables hold values, its accepted
parameters can be read by the spelling that is read, and its results can be declared; it fails over a type or a
qualification otherwise. An accepted parameter can be read if its two spellings come to the same, and cannot if
two marks meet at the end of its type, where classes and numbers go by bare names. -/
theorem unitOf_completes (r : Registry) (c : Compound) :
    ((∃ u, (r.unitOf c).outcome = .ok u) ↔
      (r.CarriesVariables c ∧ r.CarriesParameters c) ∧ r.DeclaresResults c) ∧
    (∀ e, (r.unitOf c).outcome = .error e →
      (∃ name use, e = .unsupportedType name use) ∧ ¬ (r.CarriesVariables c ∧ r.CarriesParameters c) ∨
      (∃ escape, e = .qualification escape) ∧ ¬ r.DeclaresResults c) ∧
    (∀ m, r.functionRejection? c m = none → ∀ p ∈ m.parameters, p.SingleConst → ¬ p.DoublyMarked →
      r.vocabulary.isSignalType p.readType = true) ∧
    (r.vocabulary.Bare → ∀ p : Parameter, p.SingleConst → p.DoublyMarked →
      r.vocabulary.isSignalType p.readType = false) := by
  refine ⟨(r.hinges_unitOf c).ok_iff, fun e he => ?_, fun m hm p hp hconst hmarks => ?_,
    fun hbare p hconst hmarks => ?_⟩
  · refine ((r.hinges_unitOf c).of_error e he).imp (And.imp_left fun htype => ?_) (And.imp_left fun hspelling => ?_)
    · cases e with
      | unsupportedType name use => exact ⟨name, use, rfl⟩
      | _ => exact htype.elim
    · cases e with
      | qualification escape => exact ⟨escape, rfl⟩
      | _ => exact hspelling.elim
  · obtain ⟨hscriptable, -, -, haccepted⟩ := of_functionRejection? hm
    exact isSignalType_readType hscriptable hp (haccepted p hp) hconst hmarks
  · simp [Vocabulary.isSignalType, Vocabulary.category_readType_of_doublyMarked hbare hconst hmarks]

/-- A class that can be made of an object which is given up. -/
def movable : Compound where
  kind := "class"
  name := "Foo"
  members := [{ kind := "function", name := "Foo", parameters := [{ type := "Foo &&", name := "other" }] }]

/-- The registry of this class alone. -/
def movableRegistry : Registry := (build .default { preferred := [] } [movable] []).value

/-- A constructor is accepted and stops the generation: of `Foo &&` one mark is left in the name that is read. -/
theorem unitOf_movable :
    movableRegistry.bindable.map (·.2) = [movable] ∧
    (∀ m ∈ movable.members, movableRegistry.functionRejection? movable m.toSymbol = none) ∧
    (movableRegistry.unitOf movable).outcome = .error (.unsupportedType "Foo &" .reading) := by
  decide +kernel

end ScriptGlue.Registry
