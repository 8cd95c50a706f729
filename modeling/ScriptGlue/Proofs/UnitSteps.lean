import Mathlib.Data.List.ReduceOption
import ScriptGlue.Binding.Unit
import ScriptGlue.Proofs.Resolution

/-!
# The steps of a unit

The outcome of generating a unit as a sequence of plain steps: what each member contributes beside its
functions, the thunks and selectors of the overload sets, and the unit put together from them
(**`outcome_unitOf`**). A contribution depends on its member alone, but for the finalizer that it needs, which is
defined by the first member to need it (**`outcome_accessors`**).
-/

namespace ScriptGlue.Registry

open ScriptGlue.Cpp

variable (r : Registry)

/-! ### Members -/

/-- The types of the parameters of a signal. -/
def signalTypes (m : Symbol) : List String := templateArguments (signalType m.type)

/-- Wrapper code is emitted for the member. -/
def emitsEvent (c : Compound) (m : Symbol) : Bool :=
  m.isSignal && r.isRefcounted c.className && m.visibility == .public && !m.isStatic &&
    (signalTypes m).all r.vocabulary.isSignalType

theorem of_emitsEvent {c : Compound} {m : Symbol} (h : r.emitsEvent c m = true) :
    m.isSignal = true ∧ ∀ type ∈ signalTypes m, r.vocabulary.isSignalType type = true := by
  simp only [emitsEvent, Bool.and_eq_true, List.all_eq_true] at h
  exact ⟨h.1.1.1.1, h.2⟩

theorem not_isProperty_of_isSignal {m : Symbol} (h : m.isSignal = true) : r.isProperty m = false := by
  simp [isProperty, Symbol.isCandidateVariable, h]

/-- The parts and the property that a member contributes, the finalizers of some classes being defined. -/
theorem outcome_accessor? (c : Compound) (defined : List String) (m : Symbol) :
    (r.accessor? c defined m).outcome =
      if r.emitsEvent c m then
        (r.vocabulary.signal c.className m (signalTypes m)).map fun s => some (signalParts defined s)
      else if r.isProperty m then (r.variableParts c defined m).map some
      else .ok none := by
  unfold accessor?
  by_cases hsignal : m.isSignal = true
  · rw [if_pos hsignal, r.not_isProperty_of_isSignal hsignal]
    by_cases hpublic : (r.isRefcounted c.className && m.visibility == .public && !m.isStatic) = true
    · by_cases htypes : (templateArguments (signalType m.type)).all r.vocabulary.isSignalType = true
      · have hemits : r.emitsEvent c m = true := by
          simp only [Bool.and_eq_true] at hpublic
          simp [emitsEvent, signalTypes, hsignal, hpublic, htypes]
        simp only [hpublic, htypes, hemits, if_true]
        simp only [Attempt.outcome_bind, Attempt.outcome_except, Attempt.outcome_pure, signalTypes]
        cases r.vocabulary.signal c.className m (templateArguments (signalType m.type)) <;> rfl
      · have hemits : r.emitsEvent c m = false := by
          rw [Bool.not_eq_true] at htypes
          simp [emitsEvent, signalTypes, htypes]
        simp only [hpublic, htypes, hemits, if_true]
        simp
    · have hemits : r.emitsEvent c m = false := by
        rw [Bool.not_eq_true] at hpublic
        simp only [emitsEvent, hsignal, Bool.true_and, hpublic, Bool.false_and]
      simp [hpublic, hemits]
  · have hemits : r.emitsEvent c m = false := by simp [emitsEvent, hsignal]
    rw [if_neg hsignal, hemits, isProperty]
    by_cases hvariable : m.isCandidateVariable = true
    · cases hrejection : r.variableRejection? m with
      | some reason => simp [hvariable]
      | none =>
        simp only [hvariable, if_true, Attempt.outcome_bind, Attempt.outcome_except, Attempt.outcome_pure]
        cases r.variableParts c defined m <;> rfl
    · simp [hvariable]

/-! ### Contributions -/

@[simp] theorem definedBy_append (parts later : List UnitPart) :
    definedBy (parts ++ later) = definedBy parts ++ definedBy later := List.filterMap_append

/-- What a member contributes beside its functions, the finalizer it needs kept apart. -/
structure Contribution where
  /-- The parts before the finalizer. -/
  before : List UnitPart
  /-- The class whose finalizer is needed. -/
  needs? : Option String
  /-- The parts after the finalizer. -/
  after : List UnitPart
  /-- The property. -/
  property : Property
  /-- No finalizer is among the parts before. -/
  definedBy_before : definedBy before = []
  /-- No finalizer is among the parts after. -/
  definedBy_after : definedBy after = []

namespace Contribution

/-- The parts, with the finalizer unless it is among those already defined. -/
def parts (defined : List String) (k : Contribution) : List UnitPart :=
  k.before ++ k.needs?.elim [] (finalizerPart defined) ++ k.after

theorem definedBy_parts (defined : List String) (k : Contribution) :
    definedBy (k.parts defined) = k.needs?.toList.filter (!defined.contains ·) := by
  rw [parts, definedBy_append, definedBy_append, k.definedBy_before, k.definedBy_after]
  cases k.needs? with
  | none => rfl
  | some name => by_cases h : name ∈ defined <;> simp [finalizerPart, definedBy, h]

/-- The contribution of a signal. -/
def ofSignal (s : Signal) : Contribution where
  before := [.signalClasses s]
  needs? := some s.wrapper
  after := [.signalFunctions s]
  property := { name := s.member, getter := s.getterName }
  definedBy_before := rfl
  definedBy_after := rfl

/-- The contribution of a variable with a getter and perhaps a setter, pushed with a finalizer or without. -/
def ofVariable (m : Symbol) (needs? : Option String) (getter : Getter) (setter? : Option Setter) : Contribution where
  before := []
  needs?
  after := setter?.toList.map .setter ++ [.getter getter]
  property := { name := Text.lowerFirst m.name, getter := getter.name, setter := setter?.map (·.name) }
  definedBy_before := rfl
  definedBy_after := by cases setter? <;> rfl

end Contribution

/-- The contribution of a variable. -/
def variableContribution (c : Compound) (m : Symbol) : Except Failure Contribution := do
  let setter? ← r.vocabulary.setter? c.className m
  let getter ← r.vocabulary.getter c.className m
  pure (.ofVariable m (r.vocabulary.variableFinalizer? m.type) getter setter?)

/-- The contribution of a member, if it makes any. -/
def contribution? (c : Compound) (m : Symbol) : Except Failure (Option Contribution) :=
  if r.emitsEvent c m then (r.vocabulary.signal c.className m (signalTypes m)).map fun s => some (.ofSignal s)
  else if r.isProperty m then (r.variableContribution c m).map some
  else .ok none

theorem variableParts_eq (c : Compound) (defined : List String) (m : Symbol) :
    r.variableParts c defined m = (r.variableContribution c m).map fun k => (k.parts defined, k.property) := by
  unfold variableParts variableContribution
  cases r.vocabulary.setter? c.className m with
  | error e => rfl
  | ok setter? =>
    cases r.vocabulary.getter c.className m with
    | error e => rfl
    | ok getter => simp [Contribution.parts, Contribution.ofVariable, pure, Except.pure, Except.map]

/-- The accessor of a member is its contribution, with the finalizer where none is defined yet. -/
theorem outcome_accessor?_eq (c : Compound) (defined : List String) (m : Symbol) :
    (r.accessor? c defined m).outcome =
      (r.contribution? c m).map (Option.map fun k => (k.parts defined, k.property)) := by
  rw [outcome_accessor?, contribution?]
  split
  · cases r.vocabulary.signal c.className m (signalTypes m) <;> rfl
  · split
    · rw [variableParts_eq]
      cases r.variableContribution c m <;> rfl
    · rfl

/-- The parts that contributions make up in order. -/
def partsOf (defined : List String) : List Contribution → List UnitPart
  | [] => []
  | k :: ks => k.parts defined ++ partsOf (defined ++ k.needs?.toList) ks

/-- Only which finalizers are defined matters, not their order. -/
theorem partsOf_congr {defined defined' : List String} (h : ∀ name, name ∈ defined ↔ name ∈ defined')
    (ks : List Contribution) : partsOf defined ks = partsOf defined' ks := by
  induction ks generalizing defined defined' with
  | nil => rfl
  | cons k ks ih =>
    have hfinalizer : finalizerPart defined = finalizerPart defined' := by
      funext name
      simp only [finalizerPart, List.contains_eq_mem, h]
    have hlater : ∀ name, name ∈ defined ++ k.needs?.toList ↔ name ∈ defined' ++ k.needs?.toList := fun name => by
      rw [List.mem_append, List.mem_append, h]
    rw [partsOf, partsOf, Contribution.parts, Contribution.parts, hfinalizer, ih hlater]

/-- A part of a contribution is its own or the finalizer that it needs. -/
theorem Contribution.mem_parts {defined : List String} {k : Contribution} {part : UnitPart} (h : part ∈ k.parts defined) :
    part ∈ k.before ++ k.after ∨ ∃ name ∈ k.needs?, part = .finalizer name := by
  rcases List.mem_append.1 h with h | h
  · rcases List.mem_append.1 h with h | h
    · exact .inl (List.mem_append_left _ h)
    · right
      cases hneeds : k.needs? with
      | none => simp [hneeds] at h
      | some name =>
        simp only [hneeds, Option.elim_some, finalizerPart] at h
        split at h
        · cases h
        · exact ⟨name, rfl, List.mem_singleton.1 h⟩
  · exact .inl (List.mem_append_right _ h)

/-- Parts come from a contribution. -/
theorem exists_mem_parts {defined : List String} {ks : List Contribution} {part : UnitPart} (h : part ∈ partsOf defined ks) :
    ∃ k ∈ ks, ∃ before, part ∈ k.parts before := by
  induction ks generalizing defined with
  | nil => cases h
  | cons k ks ih =>
    rcases List.mem_append.1 h with h | h
    · exact ⟨k, List.mem_cons_self, defined, h⟩
    · obtain ⟨k', hk', hpart⟩ := ih h
      exact ⟨k', List.mem_cons_of_mem k hk', hpart⟩

/-- Parts come from a contribution or are finalizers. -/
theorem mem_partsOf {defined : List String} {ks : List Contribution} {part : UnitPart} (h : part ∈ partsOf defined ks) :
    (∃ k ∈ ks, part ∈ k.before ++ k.after) ∨ ∃ name, part = .finalizer name := by
  obtain ⟨k, hk, before, hpart⟩ := exists_mem_parts h
  rcases Contribution.mem_parts hpart with hpart | ⟨name, -, hpart⟩
  · exact .inl ⟨k, hk, hpart⟩
  · exact .inr ⟨name, hpart⟩

/-- The own parts of a contribution are among the parts. -/
theorem mem_partsOf_of_mem {defined : List String} {ks : List Contribution} {k : Contribution} (hk : k ∈ ks)
    {part : UnitPart} (h : part ∈ k.before ++ k.after) : part ∈ partsOf defined ks := by
  induction ks generalizing defined with
  | nil => cases hk
  | cons k' ks ih =>
    rcases List.mem_cons.1 hk with rfl | hk
    · apply List.mem_append_left
      rcases List.mem_append.1 h with h | h
      · exact List.mem_append_left _ (List.mem_append_left _ h)
      · exact List.mem_append_right _ h
    · exact List.mem_append_right _ (ih hk)

/-- **A finalizer is defined once**: the contributions add none that is there, and none twice. -/
theorem nodup_definedBy_partsOf {defined : List String} (h : defined.Nodup) (ks : List Contribution) :
    (defined ++ definedBy (partsOf defined ks)).Nodup := by
  induction ks generalizing defined with
  | nil => simpa [partsOf, definedBy] using h
  | cons k ks ih =>
    have hfirst : (defined ++ definedBy (k.parts defined)).Nodup := by
      rw [Contribution.definedBy_parts, List.nodup_append]
      have hneeded : k.needs?.toList.Nodup := by cases k.needs? <;> simp
      refine ⟨h, hneeded.filter _, ?_⟩
      rintro name hname _ hother rfl
      simp [hname] at hother
    have hsame : ∀ name, name ∈ defined ++ k.needs?.toList ↔ name ∈ defined ++ definedBy (k.parts defined) := by
      intro name
      by_cases hmem : name ∈ defined <;> simp [Contribution.definedBy_parts, hmem]
    rw [partsOf, definedBy_append, partsOf_congr hsame, ← List.append_assoc]
    exact ih hfirst

/-- The contributions of some members. -/
def contributions (c : Compound) (ms : List Symbol) : Except Failure (List Contribution) :=
  (ms.mapM (r.contribution? c)).map List.reduceOption

/-- A contribution is that of a member. -/
theorem mem_contributions {c : Compound} {ms : List Symbol} {ks : List Contribution} (h : r.contributions c ms = .ok ks)
    {k : Contribution} (hk : k ∈ ks) : ∃ m ∈ ms, r.contribution? c m = .ok (some k) := by
  obtain ⟨found, hfound, rfl⟩ := map_eq_ok.1 h
  exact (mem_of_mapM_ok hfound).1 (List.reduceOption_mem_iff.1 hk)

/-- **The accessors of a class are the contributions of its members**: what each makes up does not depend on
the others, except that a finalizer is defined only once. -/
theorem outcome_accessors (c : Compound) (defined : List String) (ms : List Symbol) :
    (r.accessors c defined ms).outcome =
      (r.contributions c ms).map fun ks => (partsOf defined ks, ks.map (·.property)) := by
  unfold contributions
  induction ms generalizing defined with
  | nil => rfl
  | cons m ms ih =>
    rw [accessors, Attempt.outcome_bind, outcome_accessor?_eq, List.mapM_cons]
    cases r.contribution? c m with
    | error e => rfl
    | ok found =>
      cases found with
      | none =>
        simp only [Except.map, Option.map_none, ok_bind, ih]
        cases ms.mapM (r.contribution? c) <;> rfl
      | some k =>
        have hdefined : ∀ name, name ∈ defined ++ definedBy (k.parts defined) ↔ name ∈ defined ++ k.needs?.toList := by
          intro name
          by_cases hmem : name ∈ defined <;> simp [Contribution.definedBy_parts, hmem]
        simp only [Except.map, Option.map_some, ok_bind, Attempt.outcome_bind, Attempt.outcome_pure, ih]
        cases ms.mapM (r.contribution? c) with
        | error e => rfl
        | ok found =>
          simp [partsOf_congr hdefined, partsOf, List.reduceOption_cons_of_some, pure, Except.pure]

/-! ### Units -/

/-- The finalizer of the class itself, if its objects need one that is not there already. -/
def ownFinalizer (c : Compound) : List UnitPart :=
  if !r.isRefcounted c.className && c.kind != "namespace" then finalizerPart (r.finalizerDependencies c) c.className
  else []

theorem eq_finalizer_of_mem_ownFinalizer {r : Registry} {c : Compound} {part : UnitPart} (h : part ∈ r.ownFinalizer c) :
    part = .finalizer c.className := by
  unfold ownFinalizer finalizerPart at h
  split at h
  · split at h
    · cases h
    · exact List.mem_singleton.1 h
  · cases h

/-- The classes whose finalizers stand before the accessors. -/
def definedFirst (c : Compound) : List String := r.finalizerDependencies c ++ definedBy (r.ownFinalizer c)

/-- The contributions of the members of a class, none if its variables are not exposed. -/
def contributionsOf (c : Compound) : Except Failure (List Contribution) :=
  if r.exposesProperties c then r.contributions c (c.members.map (·.toSymbol)) else .ok []

/-- The unit of a class made of the contributions of its members and of the parts that dispatch its functions. -/
def assemble (c : Compound) (ks : List Contribution) (instanceParts staticParts : List UnitPart) : BindingsUnit :=
  let ownList := functionList? (c.className ++ "_Functions") (r.sets c false).values
  let staticList := functionList? (c.className ++ "_StaticFunctions") (r.sets c true).values
  { className := c.className
    ownHeader? := r.ownHeader? c
    dependencyHeaders := r.dependencyHeaders c
    usingLines := c.usingLines
    idClasses := r.idDependencies c
    finalizerClasses := r.finalizerDependencies c
    parts := r.ownFinalizer c ++ partsOf (r.definedFirst c) ks ++ instanceParts ++ staticParts ++ ownList.toList.map .functionList ++
      staticList.toList.map .functionList ++
      [.exposure (exposure c (r.sets c false) ownList staticList (ks.map (·.property)))] }

/-- **A unit is generated step by step**: the contributions of its members, the parts that dispatch its
functions, the whole. -/
theorem outcome_unitOf (c : Compound) :
    (r.unitOf c).outcome =
      r.contributionsOf c >>= fun ks =>
        r.dispatchParts c (r.sets c false).values >>= fun instanceParts =>
          r.dispatchParts c (r.sets c true).values >>= fun staticParts =>
            .ok (r.assemble c ks instanceParts staticParts) := by
  unfold unitOf contributionsOf
  cases hexposes : r.exposesProperties c with
  | true =>
    simp only [if_true, Attempt.outcome_bind, Attempt.outcome_logged, Attempt.outcome_except, Attempt.outcome_pure,
      outcome_accessors]
    cases r.contributions c (c.members.map (·.toSymbol)) <;> rfl
  | false =>
    simp only [Bool.false_eq_true, if_false, Attempt.outcome_bind, Attempt.outcome_logged, Attempt.outcome_except,
      Attempt.outcome_pure]
    rfl

/-- What a unit is put together from. -/
theorem exists_parts_of_unitOf {c : Compound} {u : BindingsUnit} (h : (r.unitOf c).outcome = .ok u) :
    ∃ ks instanceParts staticParts, r.contributionsOf c = .ok ks ∧
      r.dispatchParts c (r.sets c false).values = .ok instanceParts ∧
      r.dispatchParts c (r.sets c true).values = .ok staticParts ∧ u = r.assemble c ks instanceParts staticParts := by
  rw [outcome_unitOf] at h
  obtain ⟨ks, hks, h⟩ := bind_eq_ok.1 h
  obtain ⟨instanceParts, hinstances, h⟩ := bind_eq_ok.1 h
  obtain ⟨staticParts, hstatics, h⟩ := bind_eq_ok.1 h
  exact ⟨ks, instanceParts, staticParts, hks, hinstances, hstatics, (Except.ok.inj h).symm⟩

end ScriptGlue.Registry
