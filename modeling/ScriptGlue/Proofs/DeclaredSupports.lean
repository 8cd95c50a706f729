import ScriptGlue.Proofs.Dependencies
import ScriptGlue.Proofs.Supports
import ScriptGlue.Proofs.UnitSteps

/-!
# Declared supports

The declarations of a unit come from the mentions of the members, collected by one spelling of each parameter;
the uses come from the snippets, made by another. They meet wherever classes and numbers go by bare names: what
an accessor (`declares_of_contribution`), a thunk (`declares_of_thunk`) or a selector (`declares_of_selector`)
refers to is declared for the class.
-/

namespace ScriptGlue

open ScriptGlue.Text ScriptGlue.Cpp

namespace Registry

variable {r : Registry}

/-! ### Declarations -/

/-- A support that a unit of the class declares. -/
def Declares (r : Registry) (c : Compound) : Support → Prop
  | .constant name => name ∈ r.idDependencies c ∨ name = c.className
  | .finalizer name => name ∈ r.finalizerDependencies c ∨ name = c.className ∧ r.isRefcounted c.className = false

/-- Every value that the bindings of a member mention has its supports declared. -/
theorem declares_of_mention {c : Compound} (hnamed : ∀ name ∈ r.names, name ≠ "") {m : Member} (hm : m ∈ c.members)
    {type name : String} {isPushed : Bool} (hmention : ⟨type, isPushed⟩ ∈ r.mentions m.toSymbol)
    (hcarries : r.vocabulary.Carries type name) :
    r.Declares c (.constant name) ∧ (isPushed = true → r.Declares c (.finalizer name)) := by
  have hvalue : r.isRefcounted name = false := hcarries.value
  have hne : name ≠ "" := hnamed name (by simpa [Vocabulary.isRegistered, vocabulary] using hcarries.registered)
  by_cases hown : name = c.className
  · subst hown
    exact ⟨.inr rfl, fun _ => .inr ⟨rfl, hvalue⟩⟩
  · have hclass : (name, isPushed) ∈ r.mentionedClasses c :=
      mem_mentionedClasses.2 ⟨⟨m, hm, _, hmention, hcarries.className_eq, rfl⟩, hne, hown⟩
    refine ⟨.inl (mem_idDependencies.2 ⟨⟨_, hclass⟩, hvalue⟩), fun hpushed => .inl ?_⟩
    rw [hpushed] at hclass
    exact mem_finalizerDependencies.2 ⟨hclass, hvalue⟩

theorem declares_of_this {c : Compound} {x : Support} (hx : x ∈ (r.vocabulary.thisAccess c.className).uses) :
    r.Declares c x := by
  rw [ThisAccess.uses] at hx
  split at hx
  · rw [List.mem_singleton.1 hx]
    exact .inr rfl
  · cases hx

/-! ### Uses of accessors -/

theorem mentions_of_isProperty {m : Symbol} (h : r.isProperty m = true) : r.mentions m = [⟨m.type, true⟩] := by
  obtain ⟨hvariable, hscriptable, -⟩ := of_isProperty h
  have hfunction : m.isCandidateFunction = false := by
    simp only [Symbol.isCandidateVariable, Bool.and_eq_true, beq_iff_eq] at hvariable
    simp [Symbol.isCandidateFunction, hvariable.1.1.1]
  simp [mentions, hscriptable, hfunction, h]

theorem fetch_of_read {v : Vocabulary} {text : String} {index : Int} {variableName : String} {read : StackRead}
    (h : v.read text index variableName = .ok read) : v.fetch text = .ok read.fetch := by
  obtain ⟨fetch, hfetch, rfl⟩ := map_eq_ok.1 h
  exact hfetch

theorem push_of_getter {v : Vocabulary} {className : String} {m : Symbol} {g : Getter} (h : v.getter className m = .ok g) :
    g.this = v.thisAccess className ∧ v.pushVariable m.type = .ok g.push := by
  obtain ⟨push, hpush, rfl⟩ := map_eq_ok.1 h
  exact ⟨rfl, hpush⟩

theorem read_of_setter {v : Vocabulary} {className : String} {m : Symbol} {s : Setter}
    (h : v.setter? className m = .ok (some s)) :
    s.this = v.thisAccess className ∧ v.read m.type 0 m.name = .ok s.read := by
  unfold Vocabulary.setter? at h
  split at h
  · obtain ⟨read, hread, hs⟩ := map_eq_ok.1 h
    cases hs
    exact ⟨rfl, hread⟩
  · cases h

/-- What the accessors of an exposed variable refer to is declared. -/
theorem declares_of_variable {c : Compound} (hnamed : ∀ name ∈ r.names, name ≠ "") {m : Member} (hm : m ∈ c.members)
    (hproperty : r.isProperty m.toSymbol = true) {k : Contribution}
    (hk : r.variableContribution c m.toSymbol = .ok k) {part : UnitPart} (hpart : part ∈ k.before ++ k.after) {x : Support}
    (hx : x ∈ part.uses) : r.Declares c x := by
  have hmention : (⟨m.type, true⟩ : Mention) ∈ r.mentions m.toSymbol := by
    rw [mentions_of_isProperty hproperty]
    exact List.mem_singleton_self _
  have hmentioned : ∀ {name}, r.vocabulary.Carries m.type name →
      r.Declares c (.constant name) ∧ (true = true → r.Declares c (.finalizer name)) :=
    declares_of_mention hnamed hm hmention
  obtain ⟨setter?, hsetter, hk⟩ := bind_eq_ok.1 hk
  obtain ⟨getter, hgetter, hk⟩ := bind_eq_ok.1 hk
  cases hk
  rcases List.mem_append.1 hpart with hpart | hpart
  · cases hpart
  rcases List.mem_append.1 hpart with hpart | hpart
  · obtain ⟨setter, hmem, rfl⟩ := List.mem_map.1 hpart
    rw [Option.mem_toList] at hmem
    subst hmem
    obtain ⟨hthis, hread⟩ := read_of_setter hsetter
    rcases List.mem_append.1 hx with hx | hx
    · rw [hthis] at hx
      exact declares_of_this hx
    · obtain ⟨name, rfl, hcarries⟩ := Vocabulary.uses_of_fetch (fetch_of_read hread) hx
      exact (hmentioned hcarries).1
  · rw [List.mem_singleton.1 hpart] at hx
    obtain ⟨hthis, hpush⟩ := push_of_getter hgetter
    rcases List.mem_append.1 hx with hx | hx
    · rw [hthis] at hx
      exact declares_of_this hx
    · obtain ⟨name, rfl | rfl, hcarries⟩ := Vocabulary.uses_of_pushVariable hpush hx
      · exact (hmentioned hcarries).1
      · exact (hmentioned hcarries).2 rfl

/-- What a contribution refers to beside finalizers is declared: what is no variable is a signal. -/
theorem declares_of_contribution {c : Compound} (hnamed : ∀ name ∈ r.names, name ≠ "") {ks : List Contribution}
    (hks : r.contributionsOf c = .ok ks) {k : Contribution} (hk : k ∈ ks) {part : UnitPart} (hpart : part ∈ k.before ++ k.after)
    {x : Support} (hx : x ∈ part.uses) : r.Declares c x := by
  unfold contributionsOf at hks
  split at hks
  · obtain ⟨m, hm, hcontribution⟩ := mem_contributions r hks hk
    obtain ⟨member, hmember, rfl⟩ := List.mem_map.1 hm
    unfold contribution? at hcontribution
    split at hcontribution
    · obtain ⟨s, -, hs⟩ := map_eq_ok.1 hcontribution
      cases hs
      rcases List.mem_append.1 hpart with hpart | hpart
      · rw [List.mem_singleton.1 hpart] at hx
        cases hx
      · rw [List.mem_singleton.1 hpart] at hx
        cases hx
    · split at hcontribution
      · next hproperty =>
        obtain ⟨k', hvariable, hsame⟩ := map_eq_ok.1 hcontribution
        cases hsame
        exact declares_of_variable hnamed hmember hproperty hvariable hpart hx
      · cases hcontribution
  · cases hks
    cases hk

/-! ### Uses of functions -/

theorem mentions_of_bound {c : Compound} {isStatic : Bool} {m : Symbol} (h : BoundFacts r c isStatic m) :
    r.mentions m = ⟨m.type, true⟩ :: m.parameters.map fun p => ⟨p.basicType, false⟩ := by
  simp [mentions, h.scriptable, h.candidate]

/-- A bound function mentions the type that it returns. -/
theorem result_mem_mentions {c : Compound} {isStatic : Bool} {m : Symbol} (h : BoundFacts r c isStatic m) :
    (⟨m.type, true⟩ : Mention) ∈ r.mentions m := by
  rw [mentions_of_bound h]
  exact List.mem_cons_self

/-- A bound function mentions the types of its parameters. -/
theorem parameter_mem_mentions {c : Compound} {isStatic : Bool} {m : Symbol} (h : BoundFacts r c isStatic m) {p : Parameter}
    (hp : p ∈ m.parameters) : (⟨p.basicType, false⟩ : Mention) ∈ r.mentions m := by
  rw [mentions_of_bound h]
  exact List.mem_cons_of_mem _ (List.mem_map.2 ⟨p, hp, rfl⟩)

theorem read_of_mem_arguments {v : Vocabulary} {position : Nat} {ps : List Parameter} {arguments : List Argument}
    (h : v.arguments position ps = .ok arguments) {a : Argument} (ha : a ∈ arguments) :
    ∃ p ∈ ps, ∃ index variableName, v.read p.readType index variableName = .ok a.read := by
  rw [Vocabulary.arguments_eq] at h
  obtain ⟨entry, hentry, hargument⟩ := (mem_of_mapM_ok h).1 ha
  obtain ⟨read, hread, rfl⟩ := map_eq_ok.1 hargument
  exact ⟨entry.1, List.fst_mem_of_mem_zipIdx hentry, _, _, hread⟩

theorem argCheck_of_mem_checks {v : Vocabulary} {position : Nat} {ps : List Parameter} {checks : List (Nat × ArgCheck)}
    (h : v.checks position ps = .ok checks) {entry : Nat × ArgCheck} (hentry : entry ∈ checks) :
    ∃ p ∈ ps, v.argCheck p.basicType = .ok (some entry.2) := by
  rw [Vocabulary.checks_eq] at h
  obtain ⟨found, hfound, rfl⟩ := map_eq_ok.1 h
  obtain ⟨positioned, hpositioned, hmade⟩ := (mem_of_mapM_ok hfound).1 (List.reduceOption_mem_iff.1 hentry)
  obtain ⟨check?, hcheck, hentry⟩ := map_eq_ok.1 hmade
  obtain ⟨check, rfl, rfl⟩ := Option.map_eq_some_iff.1 hentry
  exact ⟨positioned.1, List.fst_mem_of_mem_zipIdx hpositioned, hcheck⟩

theorem argCheck_of_selector {v : Vocabulary} {set : OverloadSet} {s : Selector} (h : v.selector set = .ok s)
    {guarded : Guard × String} (hcase : guarded ∈ s.cases) {entry : Nat × ArgCheck} (hentry : entry ∈ guarded.1.checks) :
    ∃ o ∈ set.overloads, ∃ p ∈ o.parameters, v.argCheck p.basicType = .ok (some entry.2) := by
  obtain ⟨cases, hcases, h⟩ := bind_eq_ok.1 h
  cases h
  obtain ⟨o, ho, hguarded⟩ := (mem_of_mapM_ok hcases).1 hcase
  obtain ⟨guard, hguard, hguarded⟩ := bind_eq_ok.1 hguarded
  cases hguarded
  obtain ⟨checks, hchecks, hguard⟩ := bind_eq_ok.1 hguard
  cases hguard
  obtain ⟨p, hp, hcheck⟩ := argCheck_of_mem_checks hchecks hentry
  exact ⟨o, OverloadSet.mem_dispatchOrder.1 ho, p, List.mem_of_mem_take hp, hcheck⟩

theorem push_of_result {v : Vocabulary} {type declared : String} {push : Push}
    (h : v.result type = .ok (some (declared, push))) : v.push type = .ok push := by
  unfold Vocabulary.result at h
  split at h
  · cases h
  · obtain ⟨declared', _, h⟩ := bind_eq_ok.1 h
    obtain ⟨push', hpush, h⟩ := bind_eq_ok.1 h
    cases h
    exact hpush

/-- A thunk is that of its overload, for what its arguments and its result come to. -/
theorem exists_of_thunk {v : Vocabulary} {className : String} {o : Overload} {t : Thunk}
    (h : v.thunk className o = .ok t) :
    ∃ arguments result?, v.arguments 0 o.parameters = .ok arguments ∧
      (if o.isConstructor then pure none else v.result o.function.type) = .ok result? ∧
      t = {
        name := o.functionName
        className
        countsArguments := o.hasDefaults
        callee :=
          if o.isConstructor then .constructor
          else if o.isStatic then .static o.function.name
          else .method (v.thisAccess className) o.function.name
        arguments
        result? } := by
  obtain ⟨arguments, harguments, h⟩ := bind_eq_ok.1 h
  cases hconstructor : o.isConstructor with
  | true =>
    simp only [hconstructor, if_true] at h
    exact ⟨arguments, none, harguments, rfl, (Except.ok.inj h).symm⟩
  | false =>
    simp only [hconstructor, Bool.false_eq_true, if_false] at h
    obtain ⟨result?, hresult, h⟩ := bind_eq_ok.1 h
    exact ⟨arguments, result?, harguments, hresult, (Except.ok.inj h).symm⟩

/-- What a thunk is made of. -/
theorem parts_of_thunk {v : Vocabulary} {className : String} {o : Overload} {t : Thunk}
    (h : v.thunk className o = .ok t) :
    t.className = className ∧ v.arguments 0 o.parameters = .ok t.arguments ∧
      (o.isConstructor = true → t.callee = .constructor) ∧
      (o.isConstructor = false → v.result o.function.type = .ok t.result? ∧
        (t.callee = .static o.function.name ∨ t.callee = .method (v.thisAccess className) o.function.name)) := by
  obtain ⟨arguments, result?, harguments, hresult, rfl⟩ := exists_of_thunk h
  refine ⟨rfl, harguments, fun hconstructor => if_pos hconstructor, fun hconstructor => ?_⟩
  simp only [hconstructor, Bool.false_eq_true, if_false] at hresult ⊢
  refine ⟨hresult, ?_⟩
  cases o.isStatic with
  | true => exact .inl rfl
  | false => exact .inr rfl

/-- What is read has no two marks. -/
theorem not_doublyMarked_of_fetch {v : Vocabulary} (hbare : v.Bare) {p : Parameter} (hconst : p.SingleConst) {f : Fetch}
    (hf : v.fetch p.readType = .ok f) : ¬ p.DoublyMarked := by
  intro hmarks
  simp [Vocabulary.fetch, Vocabulary.category_readType_of_doublyMarked hbare hconst hmarks] at hf

/-- A parameter that was read stands for the class it was judged by. -/
theorem carries_basicType {v : Vocabulary} (hbare : v.Bare) {p : Parameter} (hconst : p.SingleConst)
    (htype : v.isDenied p.type = false) (hbasic : v.isDenied p.basicType = false) {f : Fetch}
    (hf : v.fetch p.readType = .ok f) {name : String} (h : v.Carries p.readType name) : v.Carries p.basicType name := by
  have hmarks := not_doublyMarked_of_fetch hbare hconst hf
  obtain ⟨hname, hcategory⟩ := Vocabulary.classify_readType hconst hmarks htype hbasic
  refine ⟨?_, h.registered, h.value⟩
  rw [← h.className_eq, TypeInfo.className, TypeInfo.className, hname, hcategory]

/-- What a selector refers to is declared. -/
theorem declares_of_selector {c : Compound} (hnamed : ∀ name ∈ r.names, name ≠ "") {isStatic : Bool} {set : OverloadSet}
    (hset : set ∈ (r.sets c isStatic).values) {s : Selector} (hs : r.vocabulary.selector set = .ok s) {x : Support}
    (hx : x ∈ s.uses) : r.Declares c x := by
  obtain ⟨guarded, hcase, hx⟩ := List.mem_flatMap.1 hx
  obtain ⟨entry, hentry, hx⟩ := List.mem_flatMap.1 hx
  obtain ⟨o, ho, p, hp, hcheck⟩ := argCheck_of_selector hs hcase hentry
  obtain ⟨name, rfl, hcarries⟩ := Vocabulary.uses_of_argCheck hcheck rfl hx
  obtain ⟨m, hm, hbinds, rfl⟩ := mem_bound (List.mem_flatMap.2 ⟨set, hset, ho⟩)
  exact (declares_of_mention hnamed hm (parameter_mem_mentions (binds_facts hbinds) hp) hcarries).1

/-- What the result of a bound function refers to is declared. -/
theorem declares_of_result {c : Compound} (hnamed : ∀ name ∈ r.names, name ≠ "") {isStatic : Bool} {m : Member}
    (hm : m ∈ c.members) (hfacts : BoundFacts r c isStatic m.toSymbol) {result? : Option (String × Push)}
    (hresult : r.vocabulary.result m.type = .ok result?) {x : Support} (hx : x ∈ result?.elim [] (·.2.uses)) :
    r.Declares c x := by
  have hmention := result_mem_mentions hfacts
  cases result? with
  | none => cases hx
  | some result =>
    obtain ⟨name, rfl | rfl, hcarries⟩ := Vocabulary.uses_of_push (push_of_result hresult) hx
    · exact (declares_of_mention hnamed hm hmention hcarries).1
    · exact (declares_of_mention hnamed hm hmention hcarries).2 rfl

section

variable {c : Compound} (hbare : r.vocabulary.Bare) (hnamed : ∀ name ∈ r.names, name ≠ "")
  (hconst : ∀ m ∈ c.members, ∀ p ∈ m.parameters, p.SingleConst)

include hbare hnamed hconst

/-- What the arguments of a bound function refer to is declared. -/
theorem declares_of_arguments {isStatic : Bool} {m : Member} (hm : m ∈ c.members)
    (hfacts : BoundFacts r c isStatic m.toSymbol) {arguments : List Argument}
    (harguments : r.vocabulary.arguments 0 m.parameters = .ok arguments) {x : Support}
    (hx : x ∈ arguments.flatMap (·.read.fetch.uses)) : r.Declares c x := by
  obtain ⟨a, ha, hx⟩ := List.mem_flatMap.1 hx
  obtain ⟨p, hp, index, variableName, hread⟩ := read_of_mem_arguments harguments ha
  have hfetch := fetch_of_read hread
  obtain ⟨name, rfl, hcarries⟩ := Vocabulary.uses_of_fetch hfetch hx
  obtain ⟨htype, hbasic⟩ := not_denied_of_isScriptable hfacts.scriptable hp
  have hjudged : r.vocabulary.Carries p.basicType name :=
    carries_basicType hbare (hconst m hm p hp) htype hbasic hfetch hcarries
  exact (declares_of_mention hnamed hm (parameter_mem_mentions hfacts hp) hjudged).1

/-- What a thunk refers to is declared. -/
theorem declares_of_thunk {isStatic : Bool} {o : Overload} (ho : o ∈ r.bound c isStatic) {t : Thunk}
    (ht : r.vocabulary.thunk c.className o = .ok t) {x : Support} (hx : x ∈ t.uses) : r.Declares c x := by
  obtain ⟨m, hm, hbinds, rfl⟩ := mem_bound ho
  have hfacts := binds_facts hbinds
  obtain ⟨hclass, harguments, hconstructed, hcalled⟩ := parts_of_thunk ht
  rcases List.mem_append.1 hx with hx | hx
  · exact declares_of_arguments hbare hnamed hconst hm hfacts harguments hx
  cases hconstructor : c.bindsConstructor m.toSymbol with
  | true =>
    -- a constructor gives its object away, so its class has a finalizer of its own
    rw [hconstructed hconstructor, hclass, List.mem_cons, List.mem_singleton] at hx
    rcases hx with rfl | rfl
    · exact .inr rfl
    · exact .inr ⟨rfl, hfacts.constructor hconstructor⟩
  | false =>
    obtain ⟨hresult, hcallee | hcallee⟩ := hcalled hconstructor
    · rw [hcallee] at hx
      exact declares_of_result hnamed hm hfacts hresult hx
    · rw [hcallee] at hx
      rcases List.mem_append.1 hx with hx | hx
      · exact declares_of_this hx
      · exact declares_of_result hnamed hm hfacts hresult hx

/-- What the parts that dispatch functions refer to is declared. -/
theorem declares_of_dispatchParts {isStatic : Bool} {parts : List UnitPart}
    (hparts : r.dispatchParts c (r.sets c isStatic).values = .ok parts) {part : UnitPart} (hpart : part ∈ parts)
    {x : Support} (hx : x ∈ part.uses) : r.Declares c x := by
  obtain ⟨thunks, hthunks, hparts⟩ := bind_eq_ok.1 hparts
  obtain ⟨selectors, hselectors, hparts⟩ := bind_eq_ok.1 hparts
  cases hparts
  rcases List.mem_append.1 hpart with hpart | hpart
  · obtain ⟨t, ht, rfl⟩ := List.mem_map.1 hpart
    obtain ⟨o, ho, hthunk⟩ := (mem_of_mapM_ok hthunks).1 ht
    exact declares_of_thunk hbare hnamed hconst ho hthunk hx
  · obtain ⟨s, hs, rfl⟩ := List.mem_map.1 hpart
    obtain ⟨set, hset, hselector⟩ := (mem_of_mapM_ok hselectors).1 hs
    exact declares_of_selector hnamed (List.mem_filter.1 hset).1 hselector hx

/-- **What the parts of a unit refer to is declared**, but for the finalizers, which may be those of signals. -/
theorem declares_of_part {ks : List Contribution} (hks : r.contributionsOf c = .ok ks) {instanceParts staticParts : List UnitPart}
    (hinstances : r.dispatchParts c (r.sets c false).values = .ok instanceParts)
    (hstatics : r.dispatchParts c (r.sets c true).values = .ok staticParts) {part : UnitPart}
    (hpart : part ∈ (r.assemble c ks instanceParts staticParts).parts) (hfinalizer : ∀ name, part ≠ .finalizer name)
    {x : Support} (hx : x ∈ part.uses) : r.Declares c x := by
  simp only [assemble, List.mem_append, List.mem_map, List.mem_singleton] at hpart
  rcases hpart with (((((hown | hpart) | hpart) | hpart) | ⟨l, -, rfl⟩) | ⟨l, -, rfl⟩) | rfl
  · exact absurd (eq_finalizer_of_mem_ownFinalizer hown) (hfinalizer _)
  · rcases mem_partsOf hpart with ⟨k, hk, hpart⟩ | ⟨name, rfl⟩
    · exact declares_of_contribution hnamed hks hk hpart hx
    · exact absurd rfl (hfinalizer name)
  · exact declares_of_dispatchParts hbare hnamed hconst hinstances hpart hx
  · exact declares_of_dispatchParts hbare hnamed hconst hstatics hpart hx
  · cases hx
  · cases hx
  · rw [List.mem_singleton.1 hx]
    exact .inr rfl

end

end Registry

end ScriptGlue
