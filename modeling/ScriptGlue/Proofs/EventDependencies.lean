import ScriptGlue.Proofs.Dependencies
import ScriptGlue.Proofs.Respacing
import ScriptGlue.Proofs.UnitSteps

/-!
# Dependencies of events

The wrapper of an event mentions the classes of its parameters, so the unit has to declare them. Both the
wrapper and the dependencies are made from the arguments of the signal type, which are the same list
(`signalTypes_eq`); but a dependency is collected only if the member as a whole is scriptable, while the wrapper
is emitted if each argument can be passed. **`eventDependencies_iff`** says what this leaves out.
-/

namespace ScriptGlue.Registry

open ScriptGlue.Text ScriptGlue.Cpp

variable {r : Registry}

/-- The wrapper of a signal and its dependencies come from the same types. -/
theorem signalTypes_eq (m : Symbol) : signalTypes m = signalArguments m.type := templateArguments_collapse _

/-- The bindings of the member push values of the class. -/
def Pushes (r : Registry) (m : Symbol) (name : String) : Prop :=
  ∃ mention ∈ r.mentions m, mention.isPushed = true ∧ (r.vocabulary.classify mention.type).className = name

/-- A class is declared with its finalizer for any member that pushes values of it. -/
theorem mem_declared_iff {c : Compound} {name : String} (hname : name ≠ "") (hother : name ≠ c.className)
    (hvalue : r.isRefcounted name = false) :
    name ∈ r.idDependencies c ∧ name ∈ r.finalizerDependencies c ↔ ∃ m ∈ c.members, r.Pushes m.toSymbol name := by
  have hfinalizer : name ∈ r.finalizerDependencies c ↔ ∃ m ∈ c.members, r.Pushes m.toSymbol name := by
    rw [mem_finalizerDependencies, mem_mentionedClasses]
    constructor
    · rintro ⟨⟨⟨m, hm, mention, hmention, hclass, hpushed⟩, -, -⟩, -⟩
      exact ⟨m, hm, mention, hmention, hpushed, hclass⟩
    · rintro ⟨m, hm, mention, hmention, hpushed, hclass⟩
      exact ⟨⟨⟨m, hm, mention, hmention, hclass, hpushed⟩, hname, hother⟩, hvalue⟩
  exact (and_iff_right_of_imp mem_idDependencies_of_finalizer).trans hfinalizer

/-- Only scriptable members push anything. -/
theorem Pushes.isScriptable {m : Symbol} {name : String} (h : r.Pushes m name) : r.isScriptable m = true := by
  obtain ⟨mention, hmention, -⟩ := h
  cases hscriptable : r.isScriptable m with
  | true => rfl
  | false => simp [mentions, hscriptable] at hmention

/-- A scriptable event pushes the classes of its parameters. -/
theorem pushes_of_emitsEvent {c : Compound} {m : Symbol} (hemits : r.emitsEvent c m = true)
    (hscriptable : r.isScriptable m = true) {type : String} (htype : type ∈ signalTypes m) :
    r.Pushes m (r.vocabulary.classify type).className := by
  have hsignal := (r.of_emitsEvent hemits).1
  have hpublic : m.visibility = .public := by
    simp only [emitsEvent, Bool.and_eq_true, beq_iff_eq] at hemits
    exact hemits.1.1.2
  have hfunction : m.isCandidateFunction = false := by
    simp only [Symbol.isSignal, Bool.and_eq_true, beq_iff_eq] at hsignal
    simp [Symbol.isCandidateFunction, hsignal.1]
  rw [signalTypes_eq] at htype
  refine ⟨⟨type, true⟩, ?_, rfl, rfl⟩
  simp [mentions, hscriptable, hfunction, r.not_isProperty_of_isSignal hsignal, hsignal, hpublic, htype]

/-- **When the classes of an event are declared.** A class whose values an emitted event passes is a dependency
with constant and finalizer just when the event as a whole is scriptable or another member pushes values of the
class; nothing else declares them in the unit. -/
theorem eventDependencies_iff {c : Compound} {m : Member} {type : String} (hm : m ∈ c.members)
    (hemits : (r.exposesProperties c && r.emitsEvent c m.toSymbol) = true) (htype : type ∈ signalTypes m.toSymbol)
    (hname : (r.vocabulary.classify type).className ≠ "")
    (hother : (r.vocabulary.classify type).className ≠ c.className)
    (hvalue : r.isRefcounted (r.vocabulary.classify type).className = false) :
    ((r.vocabulary.classify type).className ∈ r.idDependencies c ∧
        (r.vocabulary.classify type).className ∈ r.finalizerDependencies c ↔
      r.isScriptable m.toSymbol = true ∨
        ∃ other ∈ c.members, other ≠ m ∧ r.Pushes other.toSymbol (r.vocabulary.classify type).className) ∧
    ∀ u, (r.unitOf c).outcome = .ok u →
      u.idClasses = r.idDependencies c ∧ u.finalizerClasses = r.finalizerDependencies c := by
  refine ⟨?_, fun u hu => ?_⟩
  · rw [mem_declared_iff hname hother hvalue]
    constructor
    · rintro ⟨other, hmem, hpushes⟩
      by_cases hsame : other = m
      · subst hsame
        exact .inl hpushes.isScriptable
      · exact .inr ⟨other, hmem, hsame, hpushes⟩
    · rintro (hscriptable | ⟨other, hmem, -, hpushes⟩)
      · exact ⟨m, hm, pushes_of_emitsEvent (Bool.and_eq_true_iff.1 hemits).2 hscriptable htype⟩
      · exact ⟨other, hmem, hpushes⟩
  · rw [outcome_unitOf] at hu
    obtain ⟨ks, -, hu⟩ := bind_eq_ok.1 hu
    obtain ⟨instanceParts, -, hu⟩ := bind_eq_ok.1 hu
    obtain ⟨staticParts, -, hu⟩ := bind_eq_ok.1 hu
    cases hu
    exact ⟨rfl, rfl⟩

/-- A class without members that is copied. -/
def vector : Compound := { kind := "struct", name := "float3" }

/-- An event that passes a string by its qualified name beside a vector. -/
def renamed : Member := { kind := "variable", name := "Changed", type := "Signal2<std::string, float3>" }

/-- A class that counts references with this event. -/
def scene : Compound where
  kind := "class"
  name := "Scene"
  members := [{ kind := "function", name := "URHO3D_OBJECT" }, renamed]

/-- The registry of the two classes. -/
def sceneRegistry : Registry := (build .default { preferred := [] } [vector, scene] []).value

theorem eventDependencies_iff_scene :
    (renamed ∈ scene.members ∧ (sceneRegistry.exposesProperties scene && sceneRegistry.emitsEvent scene renamed.toSymbol) = true ∧
      "float3" ∈ signalTypes renamed.toSymbol) ∧
    (((sceneRegistry.vocabulary.classify "float3").className ∈ sceneRegistry.idDependencies scene ∧
        (sceneRegistry.vocabulary.classify "float3").className ∈ sceneRegistry.finalizerDependencies scene ↔
      sceneRegistry.isScriptable renamed.toSymbol = true ∨
        ∃ other ∈ scene.members, other ≠ renamed ∧
          sceneRegistry.Pushes other.toSymbol (sceneRegistry.vocabulary.classify "float3").className) ∧
    ∀ u, (sceneRegistry.unitOf scene).outcome = .ok u →
      u.idClasses = sceneRegistry.idDependencies scene ∧
        u.finalizerClasses = sceneRegistry.finalizerDependencies scene) := by
  have hmem : renamed ∈ scene.members := by simp [scene]
  have hemits : (sceneRegistry.exposesProperties scene && sceneRegistry.emitsEvent scene renamed.toSymbol) = true := by
    decide +kernel
  have htype : "float3" ∈ signalTypes renamed.toSymbol := by decide +kernel
  exact ⟨⟨hmem, hemits, htype⟩,
    eventDependencies_iff hmem hemits htype (by decide +kernel) (by decide +kernel) (by decide +kernel)⟩

/-- The namespace in one argument keeps the class of the other out of the dependencies of an emitted event. -/
theorem not_mem_dependencies_scene :
    scene ∈ sceneRegistry.bindable.map (·.2) ∧ renamed ∈ scene.members ∧
    (sceneRegistry.exposesProperties scene && sceneRegistry.emitsEvent scene renamed.toSymbol) = true ∧
    "float3" ∈ signalTypes renamed.toSymbol ∧ sceneRegistry.contains "float3" = true ∧
    sceneRegistry.isRefcounted "float3" = false ∧ (sceneRegistry.vocabulary.classify "float3").className = "float3" ∧
    "float3" ∉ sceneRegistry.dependencies scene ∧ "float3" ∉ sceneRegistry.finalizerDependencies scene := by
  decide +kernel

end ScriptGlue.Registry
