import ScriptGlue.Proofs.UnitSteps

/-!
# Registries that agree

The order in which classes were registered shows nowhere: generation asks a registry what it knows of a name, and
whether it knows the name at all. **`outcome_unitOf`** says that two registries which answer alike give every class the
same unit. The lemmas before it follow the way from the types to the unit, one for each function that asks.
-/

namespace ScriptGlue

open ScriptGlue.Text ScriptGlue.Cpp

/-! ### Vocabularies -/

namespace Cpp.Vocabulary

/-- Two vocabularies say the same of every name. -/
structure Agrees (v w : Vocabulary) : Prop where
  config : v.config = w.config
  isRegistered : v.isRegistered = w.isRegistered
  isRefcounted : v.isRefcounted = w.isRefcounted

namespace Agrees

variable {v w : Vocabulary} (h : v.Agrees w)

include h

theorem ownership : v.ownership = w.ownership := by
  funext name
  simp only [Vocabulary.ownership, h.isRefcounted]

theorem isDenied : v.isDenied = w.isDenied := by
  funext text
  simp only [Vocabulary.isDenied, h.config]

theorem isNumber : v.isNumber = w.isNumber := by
  funext name
  simp only [Vocabulary.isNumber, h.config]

theorem containerElement? : v.containerElement? = w.containerElement? := by
  funext suffix name
  simp only [Vocabulary.containerElement?, Vocabulary.substitute, h.config]

theorem categoryOf : v.categoryOf = w.categoryOf := by
  funext name
  simp only [Vocabulary.categoryOf, Vocabulary.vectorOf, Vocabulary.mapOf, Vocabulary.sharedPtrOf, h.isNumber,
    h.containerElement?, h.isRegistered, h.isRefcounted, h.ownership]

/-- Every type is classified alike. -/
theorem classify : v.classify = w.classify := by
  funext text
  simp only [Vocabulary.classify, h.isDenied, h.isNumber, h.categoryOf]

theorem thisAccess : v.thisAccess = w.thisAccess := by
  funext className
  simp only [Vocabulary.thisAccess, h.ownership]

theorem read : v.read = w.read := by
  funext text index variableName
  simp only [Vocabulary.read, Vocabulary.fetch, h.classify]

theorem push : v.push = w.push := by
  funext type
  simp only [Vocabulary.push, h.classify]

theorem arguments : v.arguments = w.arguments := by
  funext position ps
  simp only [Vocabulary.arguments_eq, Vocabulary.argument, h.read]

theorem result : v.result = w.result := by
  funext type
  simp only [Vocabulary.result, Vocabulary.declaration, h.classify, h.push, h.config]

/-- Every function is called alike. -/
theorem thunk : v.thunk = w.thunk := by
  funext className o
  simp only [Vocabulary.thunk, h.arguments, h.result, h.thisAccess]

theorem checks : v.checks = w.checks := by
  have hcheck : v.positionedCheck = w.positionedCheck := by
    funext entry
    simp only [Vocabulary.positionedCheck, Vocabulary.argCheck, h.classify]
  funext position ps
  rw [Vocabulary.checks_eq, Vocabulary.checks_eq, hcheck]

/-- Every call is dispatched alike. -/
theorem selector : v.selector = w.selector := by
  funext s
  simp only [Vocabulary.selector, Vocabulary.guard, h.checks]

theorem getter : v.getter = w.getter := by
  funext className m
  simp only [Vocabulary.getter, Vocabulary.pushVariable, h.classify, h.push, h.thisAccess]

theorem isWritable : v.isWritable = w.isWritable := by
  funext m
  simp only [Vocabulary.isWritable, h.classify]

theorem setter? : v.setter? = w.setter? := by
  funext className m
  simp only [Vocabulary.setter?, h.isWritable, h.read, h.thisAccess]

theorem variableFinalizer? : v.variableFinalizer? = w.variableFinalizer? := by
  funext type
  simp only [Vocabulary.variableFinalizer?, h.classify]

theorem isSignalType : v.isSignalType = w.isSignalType := by
  funext type
  simp only [Vocabulary.isSignalType, h.classify]

theorem signal : v.signal = w.signal := by
  funext className m types
  simp only [Vocabulary.signal, h.push, h.read, h.thisAccess]

end Agrees

end Cpp.Vocabulary

/-! ### Registries -/

namespace Registry

/-- Two registries say the same of every name. -/
structure Agrees (r r' : Registry) : Prop where
  config : r.config = r'.config
  get? : r.get? = r'.get?

namespace Agrees

variable {r r' : Registry} (h : r.Agrees r')

include h

theorem contains : r.contains = r'.contains := by
  funext name
  exact congrArg Option.isSome (congrFun h.get? name)

theorem isRefcounted : r.isRefcounted = r'.isRefcounted := by
  funext name
  simp only [Registry.isRefcounted, h.get?, h.config]

theorem vocabulary : r.vocabulary.Agrees r'.vocabulary where
  config := h.config
  isRegistered := by
    funext name
    have hnames : ∀ r : Registry, r.vocabulary.isRegistered name = r.contains name := fun r => r.entries.contains_keys name
    rw [hnames, hnames, h.contains]
  isRefcounted := h.isRefcounted

theorem includeFor : r.includeFor = r'.includeFor := by
  funext name
  simp only [Registry.includeFor, h.get?, h.config]

/-! ### Members -/

theorem isScriptable : r.isScriptable = r'.isScriptable := by
  funext m
  simp only [Registry.isScriptable, h.vocabulary.isDenied]

theorem parameterRejection? : r.parameterRejection? = r'.parameterRejection? := by
  funext p
  simp only [Registry.parameterRejection?, h.vocabulary.classify, h.isRefcounted, h.contains]

theorem functionRejection? : r.functionRejection? = r'.functionRejection? := by
  funext c m
  simp only [Registry.functionRejection?, Registry.returnRejection?, h.isScriptable, h.config, h.isRefcounted,
    h.vocabulary.classify, h.parameterRejection?]

theorem isProperty : r.isProperty = r'.isProperty := by
  funext m
  simp only [Registry.isProperty, Registry.variableRejection?, h.isScriptable, h.vocabulary.classify]

theorem mentions : r.mentions = r'.mentions := by
  funext m
  simp only [Registry.mentions, h.isScriptable, h.isProperty]

theorem mentionedClasses : r.mentionedClasses = r'.mentionedClasses := by
  funext c
  simp only [Registry.mentionedClasses, h.mentions, h.vocabulary.classify]

theorem dependencies : r.dependencies = r'.dependencies := by
  funext c
  simp only [Registry.dependencies, h.mentionedClasses]

theorem finalizerDependencies : r.finalizerDependencies = r'.finalizerDependencies := by
  funext c
  simp only [Registry.finalizerDependencies, h.mentionedClasses, h.isRefcounted]

/-! ### Units -/

theorem emitsEvent : r.emitsEvent = r'.emitsEvent := by
  funext c m
  simp only [Registry.emitsEvent, h.isRefcounted, h.vocabulary.isSignalType]

theorem contribution? : r.contribution? = r'.contribution? := by
  funext c m
  simp only [Registry.contribution?, Registry.variableContribution, h.emitsEvent, h.isProperty, h.vocabulary.signal,
    h.vocabulary.setter?, h.vocabulary.getter, h.vocabulary.variableFinalizer?]

theorem exposesProperties : r.exposesProperties = r'.exposesProperties := by
  funext c
  simp only [Registry.exposesProperties, h.config]

theorem contributionsOf : r.contributionsOf = r'.contributionsOf := by
  funext c
  simp only [Registry.contributionsOf, Registry.contributions, h.exposesProperties, h.contribution?]

theorem binds : r.binds = r'.binds := by
  funext c isStatic m
  simp only [Registry.binds, h.functionRejection?]

theorem sets : r.sets = r'.sets := by
  funext c isStatic
  have hconsider : r.consider = r'.consider := by
    funext c isStatic sets m
    simp only [consider, h.binds]
  rw [sets_eq, sets_eq, hconsider]

theorem dispatchParts : r.dispatchParts = r'.dispatchParts := by
  funext c sets
  simp only [Registry.dispatchParts, h.vocabulary.thunk, h.vocabulary.selector]

theorem ownFinalizer : r.ownFinalizer = r'.ownFinalizer := by
  funext c
  simp only [Registry.ownFinalizer, h.isRefcounted, h.finalizerDependencies]

theorem assemble : r.assemble = r'.assemble := by
  funext c ks instanceParts staticParts
  simp only [Registry.assemble, Registry.ownHeader?, Registry.dependencyHeaders, Registry.idDependencies,
    Registry.definedFirst, h.sets, h.includeFor, h.dependencies, h.isRefcounted, h.finalizerDependencies, h.ownFinalizer]

/-- **Registries that agree generate the same units.** -/
theorem outcome_unitOf (c : Compound) : (r.unitOf c).outcome = (r'.unitOf c).outcome := by
  rw [Registry.outcome_unitOf, Registry.outcome_unitOf]
  simp only [h.contributionsOf, h.dispatchParts, h.sets, h.assemble]

end Agrees

end Registry

end ScriptGlue
