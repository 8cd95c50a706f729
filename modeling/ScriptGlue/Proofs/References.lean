import ScriptGlue.Proofs.Passages

/-!
# References are to functions defined before

The functions of a unit are named where they are defined and named again where they are used: in selectors, in
the lists of functions, with the wrappers of signals, and where the class is exposed. The names are made up anew
each time. **`references_closed`** says that they meet: whatever a passage refers to is defined before it, and the
class is exposed with the lists that are there.
-/

namespace ScriptGlue

open ScriptGlue.Text ScriptGlue.Cpp

namespace Cpp.Vocabulary

variable {v : Vocabulary}

/-- A thunk has the name of the function that it binds. -/
theorem name_of_thunk {className : String} {o : Overload} {t : Thunk} (h : v.thunk className o = .ok t) :
    t.name = o.functionName := by
  obtain ⟨arguments, result?, -, -, rfl⟩ := Registry.exists_of_thunk h
  rfl

theorem name_of_selector {s : OverloadSet} {found : Selector} (h : v.selector s = .ok found) :
    found.name = s.selectorName := by
  obtain ⟨cases, -, h⟩ := bind_eq_ok.1 h
  cases h
  rfl

/-- A selector chooses from the functions of its set. -/
theorem targets_of_selector {s : OverloadSet} {found : Selector} (h : v.selector s = .ok found) :
    found.cases.map (·.2) = s.dispatchOrder.map (·.functionName) := by
  obtain ⟨cases, hcases, h⟩ := bind_eq_ok.1 h
  cases h
  refine map_of_mapM_ok hcases ?_
  intro o _ guarded hguarded
  obtain ⟨guard, -, hguarded⟩ := bind_eq_ok.1 hguarded
  cases hguarded
  rfl

end Cpp.Vocabulary

namespace Registry

variable {r : Registry} {c : Compound}

/-! ### Functions that dispatch -/

/-- The names of the functions that bind those of some sets and choose from them. -/
def dispatchNames (sets : List OverloadSet) : List String :=
  (sets.flatMap (·.overloads)).map (·.functionName) ++ (sets.filter (·.needsSelector)).map (·.selectorName)

theorem passagesOf_thunks (thunks : List Thunk) :
    passagesOf (thunks.map .thunk) = thunks.map fun t => .function (.thunk t) := by
  induction thunks with
  | nil => rfl
  | cons t thunks ih => rw [List.map_cons, passagesOf_cons, ih, List.map_cons]; rfl

theorem passagesOf_selectors (selectors : List Selector) :
    passagesOf (selectors.map .selector) = selectors.map fun s => .function (.selector s) := by
  induction selectors with
  | nil => rfl
  | cons s selectors ih => rw [List.map_cons, passagesOf_cons, ih, List.map_cons]; rfl

/-- The passages that dispatch the functions of some sets define what binds and chooses, and are closed. -/
theorem dispatch_closed {sets : List OverloadSet} {parts : List UnitPart} (h : r.dispatchParts c sets = .ok parts)
    (defined : List String) :
    namesOf (passagesOf parts) = dispatchNames sets ∧ ClosedAfter defined (passagesOf parts) := by
  obtain ⟨thunks, hthunks, h⟩ := bind_eq_ok.1 h
  obtain ⟨selectors, hselectors, h⟩ := bind_eq_ok.1 h
  cases h
  have hbound : namesOf (thunks.map fun t => .function (.thunk t)) =
      (sets.flatMap (·.overloads)).map (·.functionName) := by
    rw [← map_of_mapM_ok hthunks fun o _ t ht => Vocabulary.name_of_thunk ht]
    simp [namesOf, functionsOf, Passage.function?, UnitFunction.name, Function.comp_def]
  have hchoosing : namesOf (selectors.map fun s => .function (.selector s)) =
      (sets.filter (·.needsSelector)).map (·.selectorName) := by
    rw [← map_of_mapM_ok hselectors fun s _ found hfound => Vocabulary.name_of_selector hfound]
    simp [namesOf, functionsOf, Passage.function?, UnitFunction.name, Function.comp_def]
  rw [passagesOf_append, passagesOf_thunks, passagesOf_selectors, namesOf_append, hbound, hchoosing]
  refine ⟨rfl, ClosedAfter.append.2 ⟨?_, ?_⟩⟩
  · apply ClosedAfter.of_refers_eq_nil
    intro p hp
    obtain ⟨t, -, rfl⟩ := List.mem_map.1 hp
    rfl
  · apply ClosedAfter.of_refers
    intro p hp name hname
    apply List.mem_append_right
    obtain ⟨selector, hselector, rfl⟩ := List.mem_map.1 hp
    obtain ⟨s, hs, hfound⟩ := (mem_of_mapM_ok hselectors).1 hselector
    change name ∈ selector.cases.map (·.2) at hname
    rw [Vocabulary.targets_of_selector hfound] at hname
    obtain ⟨o, ho, rfl⟩ := List.mem_map.1 hname
    rw [hbound]
    exact List.mem_map_of_mem (List.mem_flatMap.2 ⟨s, (List.mem_filter.1 hs).1, OverloadSet.mem_dispatchOrder.1 ho⟩)

/-- What scripts call in a set is one of its functions or chooses from them. -/
theorem entryPoint_mem_dispatchNames {sets : List OverloadSet} {s : OverloadSet} (hs : s ∈ sets) (h : s.overloads ≠ []) :
    s.entryPoint ∈ dispatchNames sets := by
  rw [OverloadSet.entryPoint]
  split
  · next hselector =>
    exact List.mem_append_right _ (List.mem_map_of_mem (List.mem_filter.2 ⟨hs, hselector⟩))
  · obtain ⟨o, rest, ho⟩ := List.exists_cons_of_ne_nil h
    rw [ho]
    refine List.mem_append_left _ (List.mem_map_of_mem (List.mem_flatMap.2 ⟨s, hs, ?_⟩))
    rw [ho]
    exact List.mem_cons_self

theorem functionName_mem_dispatchNames {sets : List OverloadSet} {s : OverloadSet} (hs : s ∈ sets) {o : Overload}
    (ho : o ∈ s.overloads) : o.functionName ∈ dispatchNames sets :=
  List.mem_append_left _ (List.mem_map_of_mem (List.mem_flatMap.2 ⟨s, hs, ho⟩))

/-- The entries of a list are functions of its sets. -/
theorem mem_dispatchNames_of_functionList {name : String} {sets : List OverloadSet} {l : FunctionList}
    (hl : functionList? name sets = some l) {entry : FunctionEntry} (hentry : entry ∈ l.entries) :
    entry.function ∈ dispatchNames sets := by
  unfold functionList? at hl
  split at hl
  · cases hl
  · cases hl
    obtain ⟨s, hs, rfl⟩ := List.mem_map.1 hentry
    obtain ⟨hs, hlisted⟩ := List.mem_filter.1 hs
    simp only [Bool.and_eq_true, Bool.not_eq_true', List.isEmpty_eq_false_iff] at hlisted
    exact entryPoint_mem_dispatchNames hs hlisted.2

/-- What a function that reads a property makes up. -/
theorem of_propertyOf? {className base : String} {sets : OrderedMap OverloadSet} {o : Overload} {q : Property}
    (h : propertyOf? className base sets o = some q) :
    q.getter = o.functionName ∧ q.setter = setterOf className (propertyName className base) sets := by
  simp only [propertyOf?, Option.ite_none_left_eq_some, Option.some.injEq] at h
  obtain ⟨-, rfl⟩ := h
  exact ⟨rfl, rfl⟩

/-- A function that writes a property is a function of the sets. -/
theorem mem_dispatchNames_of_setterOf {className property name : String} {sets : OrderedMap OverloadSet}
    (h : setterOf className property sets = some name) : name ∈ dispatchNames sets.values := by
  obtain ⟨s, hs, hname⟩ := Option.bind_eq_some_iff.1 h
  obtain ⟨o, ho, rfl⟩ := Option.map_eq_some_iff.1 hname
  have hmem : s ∈ sets.values := by
    rcases Option.or_eq_some_iff.1 hs with hs | ⟨-, hs⟩
    · exact OrderedMap.mem_values_of_get? hs
    · exact OrderedMap.mem_values_of_get? hs
  exact functionName_mem_dispatchNames hmem (List.mem_of_find?_eq_some ho)

/-- The functions behind the properties that functions make up are functions of the sets. -/
theorem mem_dispatchNames_of_accessorProperties {className : String} {sets : OrderedMap OverloadSet} {q : Property}
    (hq : q ∈ accessorProperties className sets) {name : String} (hname : name ∈ q.getter :: q.setter.toList) :
    name ∈ dispatchNames sets.values := by
  obtain ⟨⟨base, s⟩, hs, hq⟩ := List.mem_flatMap.1 hq
  obtain ⟨o, ho, hq⟩ := List.mem_filterMap.1 hq
  obtain ⟨hgetter, hsetter⟩ := of_propertyOf? hq
  rcases List.mem_cons.1 hname with rfl | hname
  · rw [hgetter]
    exact functionName_mem_dispatchNames (List.mem_map_of_mem hs) ho
  · rw [Option.mem_toList, hsetter] at hname
    exact mem_dispatchNames_of_setterOf hname

/-! ### Accessors -/

/-- What a member contributes comes of a signal or of a variable. -/
theorem contribution_cases {m : Symbol} {k : Contribution} (h : r.contribution? c m = .ok (some k)) :
    (∃ s, r.vocabulary.signal c.className m (signalTypes m) = .ok s ∧ k = .ofSignal s) ∨
    ∃ getter setter?, r.vocabulary.getter c.className m = .ok getter ∧ r.vocabulary.setter? c.className m = .ok setter? ∧
      k = .ofVariable m (r.vocabulary.variableFinalizer? m.type) getter setter? := by
  unfold contribution? at h
  split at h
  · obtain ⟨s, hsignal, hs⟩ := map_eq_ok.1 h
    cases hs
    exact .inl ⟨s, hsignal, rfl⟩
  · split at h
    · obtain ⟨k', hk', hsame⟩ := map_eq_ok.1 h
      cases hsame
      obtain ⟨setter?, hsetter, hk'⟩ := bind_eq_ok.1 hk'
      obtain ⟨getter, hgetter, hk'⟩ := bind_eq_ok.1 hk'
      cases hk'
      exact .inr ⟨getter, setter?, hgetter, hsetter, rfl⟩
    · cases h

/-- The passages of a signal. -/
theorem passagesOf_ofSignal (defined : List String) (s : Signal) :
    passagesOf ((Contribution.ofSignal s).parts defined) =
      [Passage.signalClasses s] ++ passagesOf (finalizerPart defined s.wrapper) ++ ([Passage.function (.connect s),
        .function (.disconnect s), .function (.emit s)] ++ [Passage.function (.signalGetter s)]) := by
  change passagesOf ([.signalClasses s] ++ finalizerPart defined s.wrapper ++ [.signalFunctions s]) = _
  rw [passagesOf_append, passagesOf_append]
  rfl

/-- The passages of the accessors of a variable. -/
theorem passagesOf_accessors (getter : Getter) (setter? : Option Setter) :
    passagesOf (setter?.toList.map UnitPart.setter ++ [UnitPart.getter getter]) =
      setter?.toList.map (fun s => Passage.function (.setter s)) ++ [Passage.function (.getter getter)] := by
  cases setter? <;> rfl

theorem namesOf_accessors (getter : Getter) (setter? : Option Setter) :
    namesOf (setter?.toList.map (fun s => Passage.function (.setter s)) ++ [Passage.function (.getter getter)]) =
      (setter?.map (·.name)).toList ++ [getter.name] := by
  cases setter? <;> rfl

/-- The passages of a variable. -/
theorem passagesOf_ofVariable (defined : List String) (m : Symbol) (needs? : Option String) (getter : Getter)
    (setter? : Option Setter) : passagesOf ((Contribution.ofVariable m needs? getter setter?).parts defined) =
      passagesOf (needs?.elim [] (finalizerPart defined)) ++
        (setter?.toList.map (fun s => Passage.function (.setter s)) ++ [Passage.function (.getter getter)]) := by
  rw [← passagesOf_accessors, ← passagesOf_append]
  rfl

/-- The part that defines a finalizer refers to nothing. -/
theorem refers_of_finalizerPart {defined : List String} {className : String} {p : Passage}
    (hp : p ∈ passagesOf (finalizerPart defined className)) : p.refers = [] := by
  unfold finalizerPart at hp
  split at hp
  · cases hp
  · rw [List.mem_singleton.1 hp]
    rfl

/-- A finalizer is there after the part that defines it unless it is there. -/
theorem finalizerName_mem {defined names : List String} (h : ∀ x ∈ defined, finalizerName x ∈ names) (className : String) :
    finalizerName className ∈ names ++ namesOf (passagesOf (finalizerPart defined className)) := by
  unfold finalizerPart
  split
  · next hdefined =>
    apply List.mem_append_left
    exact h className (List.contains_iff_mem.1 hdefined)
  · apply List.mem_append_right
    exact List.mem_singleton_self _

/-- The passages of a contribution are closed, and define the functions behind its property and the finalizer that it
needs. -/
structure Contribution.Closes (k : Contribution) (defined names : List String) : Prop where
  closed : ClosedAfter names (passagesOf (k.parts defined))
  property : ∀ name ∈ k.property.getter :: k.property.setter.toList, name ∈ namesOf (passagesOf (k.parts defined))
  finalizer : ∀ x ∈ k.needs?, finalizerName x ∈ names ++ namesOf (passagesOf (k.parts defined))

section Contributions

variable {defined names : List String}

theorem closes_ofSignal (hnames : ∀ x ∈ defined, finalizerName x ∈ names) (s : Signal) :
    (Contribution.ofSignal s).Closes defined names := by
  have hfinalizer := finalizerName_mem hnames s.wrapper
  have hpassages := passagesOf_ofSignal defined s
  have hdefines : namesOf [.function (.connect s), .function (.disconnect s), .function (.emit s)] =
      [s.connectName, s.disconnectName, s.emitName] := rfl
  constructor
  case closed =>
    have hbefore : ∀ p ∈ [.signalClasses s] ++ passagesOf (finalizerPart defined s.wrapper), p.refers = [] := by
      intro p hp
      rcases List.mem_append.1 hp with hp | hp
      · rw [List.mem_singleton.1 hp]
        rfl
      · exact refers_of_finalizerPart hp
    have hfunctions : ∀ p ∈ [Passage.function (.connect s), .function (.disconnect s), .function (.emit s)],
        p.refers = [] := by
      intro p hp
      simp only [List.mem_cons, List.not_mem_nil, or_false] at hp
      rcases hp with rfl | rfl | rfl <;> rfl
    rw [hpassages, ClosedAfter.append_of_refers_eq_nil hbefore, ClosedAfter.append_of_refers_eq_nil hfunctions]
    refine ⟨?_, trivial⟩
    intro name hname
    change name ∈ finalizerName s.wrapper :: [s.connectName, s.disconnectName, s.emitName] at hname
    rcases List.mem_cons.1 hname with rfl | hname
    · exact List.mem_append_left _ hfinalizer
    · rw [hdefines]
      exact List.mem_append_right _ hname
  case property =>
    intro name hname
    change name ∈ [s.getterName] at hname
    rw [hpassages, namesOf_append, namesOf_append _ [.function (.signalGetter s)]]
    exact List.mem_append_right _ (List.mem_append_right _ hname)
  case finalizer =>
    intro x hx
    cases hx
    rw [hpassages, namesOf_append, ← List.append_assoc]
    exact List.mem_append_left _ hfinalizer

theorem closes_ofVariable (hnames : ∀ x ∈ defined, finalizerName x ∈ names) (m : Symbol) (needs? : Option String)
    (getter : Getter) (setter? : Option Setter) :
    (Contribution.ofVariable m needs? getter setter?).Closes defined names := by
  have hpassages := passagesOf_ofVariable defined m needs? getter setter?
  have hdefines := namesOf_accessors getter setter?
  constructor
  case closed =>
    rw [hpassages]
    apply ClosedAfter.of_refers_eq_nil
    intro p hp
    rcases List.mem_append.1 hp with hp | hp
    · cases needs? with
      | none => cases hp
      | some x => exact refers_of_finalizerPart hp
    · rcases List.mem_append.1 hp with hp | hp
      · obtain ⟨s, -, rfl⟩ := List.mem_map.1 hp
        rfl
      · rw [List.mem_singleton.1 hp]
        rfl
  case property =>
    intro name hname
    change name ∈ getter.name :: (setter?.map (·.name)).toList at hname
    rw [hpassages, namesOf_append, hdefines]
    apply List.mem_append_right
    rcases List.mem_cons.1 hname with rfl | hname
    · exact List.mem_append_right _ (List.mem_singleton_self _)
    · exact List.mem_append_left _ hname
  case finalizer =>
    intro x hx
    cases hx
    rw [hpassages, namesOf_append, ← List.append_assoc]
    exact List.mem_append_left _ (finalizerName_mem hnames x)

theorem closes_of_contribution? {m : Symbol} {k : Contribution} (h : r.contribution? c m = .ok (some k))
    (hnames : ∀ x ∈ defined, finalizerName x ∈ names) : k.Closes defined names := by
  obtain ⟨s, -, rfl⟩ | ⟨getter, setter?, -, -, rfl⟩ := contribution_cases h
  · exact closes_ofSignal hnames s
  · exact closes_ofVariable hnames m _ getter setter?

/-- **Contributions are closed**: the passages of some contributions refer to functions that are defined before, and
define those behind their properties. -/
theorem partsOf_closed {ks : List Contribution} (hks : ∀ k ∈ ks, ∃ m, r.contribution? c m = .ok (some k))
    (hnames : ∀ x ∈ defined, finalizerName x ∈ names) :
    ClosedAfter names (passagesOf (partsOf defined ks)) ∧
      ∀ k ∈ ks, ∀ name ∈ k.property.getter :: k.property.setter.toList, name ∈ namesOf (passagesOf (partsOf defined ks)) := by
  induction ks generalizing defined names with
  | nil => exact ⟨trivial, fun k hk => nomatch hk⟩
  | cons k ks ih =>
    obtain ⟨m, hm⟩ := hks k List.mem_cons_self
    obtain ⟨hclosed, hproperty, hfinalizer⟩ := closes_of_contribution? hm hnames
    -- what is defined grows by the finalizer that the contribution needs
    have hgrown : ∀ x ∈ defined ++ k.needs?.toList, finalizerName x ∈ names ++ namesOf (passagesOf (k.parts defined)) := by
      intro x hx
      rcases List.mem_append.1 hx with hx | hx
      · exact List.mem_append_left _ (hnames x hx)
      · rw [Option.mem_toList] at hx
        exact hfinalizer x hx
    obtain ⟨hlater, hproperties⟩ := ih (fun k' hk' => hks k' (List.mem_cons_of_mem k hk')) hgrown
    rw [partsOf, passagesOf_append, namesOf_append]
    refine ⟨ClosedAfter.append.2 ⟨hclosed, hlater⟩, ?_⟩
    intro k' hk' name hname
    rcases List.mem_cons.1 hk' with rfl | hk'
    · exact List.mem_append_left _ (hproperty name hname)
    · exact List.mem_append_right _ (hproperties k' hk' name hname)

/-- The contributions of a class are those of members. -/
theorem exists_member_of_contributionsOf {ks : List Contribution} (hks : r.contributionsOf c = .ok ks) :
    ∀ k ∈ ks, ∃ m, r.contribution? c m = .ok (some k) := by
  intro k hk
  unfold contributionsOf at hks
  split at hks
  · obtain ⟨m, -, hm⟩ := r.mem_contributions hks hk
    exact ⟨m, hm⟩
  · cases hks
    cases hk

end Contributions

/-! ### Units -/

/-- The passages before the accessors: the constants of classes and the finalizers. -/
def declarationPassages (r : Registry) (c : Compound) : List Passage :=
  (r.idDependencies c).map Passage.constant ++ [Passage.gap] ++
    (r.finalizerDependencies c).map (fun className => Passage.function (.finalizer className)) ++
    [Passage.gap, .constant c.className, .gap] ++ passagesOf (r.ownFinalizer c)

/-- The lists of functions of a class. -/
def functionLists (r : Registry) (c : Compound) : List FunctionList :=
  (functionList? (c.className ++ "_Functions") (r.sets c false).values).toList ++
    (functionList? (c.className ++ "_StaticFunctions") (r.sets c true).values).toList

/-- What a class with these contributions is exposed with. -/
def exposureOf (r : Registry) (c : Compound) (ks : List Contribution) : Exposure :=
  exposure c (r.sets c false) (functionList? (c.className ++ "_Functions") (r.sets c false).values)
    (functionList? (c.className ++ "_StaticFunctions") (r.sets c true).values) (ks.map (·.property))

theorem passagesOf_functionLists (lists : List FunctionList) :
    passagesOf (lists.map .functionList) = lists.map .list := by
  induction lists with
  | nil => rfl
  | cons l lists ih => rw [List.map_cons, passagesOf_cons, ih, List.map_cons]; rfl

/-- The passages of a unit by what they come from. -/
theorem passages_assemble (ks : List Contribution) (instanceParts staticParts : List UnitPart) :
    (r.assemble c ks instanceParts staticParts).passages =
      r.declarationPassages c ++ passagesOf (partsOf (r.definedFirst c) ks) ++ passagesOf instanceParts ++
        passagesOf staticParts ++ (r.functionLists c).map .list ++ [.exposure (r.exposureOf c ks)] := by
  have hparts : ∀ parts : List UnitPart, (parts.map Piece.part).flatMap Piece.passages = passagesOf parts := by
    intro parts
    rw [List.flatMap_map]
    rfl
  have hconstants : ∀ classes : List String, (classes.map Piece.constant).flatMap Piece.passages = classes.map .constant := by
    intro classes
    rw [List.flatMap_map, List.map_eq_flatMap]
    rfl
  have hfinalizers : ∀ classes : List String, (classes.map fun x => Piece.part (.finalizer x)).flatMap Piece.passages =
      classes.map fun x => .function (.finalizer x) := by
    intro classes
    rw [List.flatMap_map, List.map_eq_flatMap]
    rfl
  have hlists : ∀ own static : Option FunctionList,
      passagesOf (own.toList.map .functionList ++ static.toList.map .functionList) =
        (own.toList ++ static.toList).map .list := by
    intro own static
    rw [← List.map_append, passagesOf_functionLists]
  have hexposure : passagesOf [.exposure (r.exposureOf c ks)] = [.exposure (r.exposureOf c ks)] := rfl
  rw [BindingsUnit.passages, BindingsUnit.pieces, BindingsUnit.constantPieces, BindingsUnit.finalizerPieces,
    declarationPassages, functionLists, ← hlists, ← hexposure]
  simp only [List.flatMap_append, hparts, hconstants, hfinalizers, assemble, passagesOf_append, List.append_assoc]
  rfl

theorem finalizerName_mem_declarationPassages {x : String} (hx : x ∈ r.definedFirst c) :
    finalizerName x ∈ namesOf (r.declarationPassages c) := by
  rw [mem_namesOf]
  refine ⟨.finalizer x, ?_, rfl⟩
  rcases List.mem_append.1 hx with hx | hx
  · simp [declarationPassages, hx]
  · apply List.mem_append_right
    exact List.mem_flatMap.2 ⟨.finalizer x, mem_definedBy.1 hx, List.mem_singleton_self _⟩

theorem refers_of_declarationPassages {p : Passage} (hp : p ∈ r.declarationPassages c) : p.refers = [] := by
  rcases List.mem_append.1 hp with hp | hp
  · simp only [List.mem_append, List.mem_map, List.mem_cons, List.not_mem_nil, or_false] at hp
    rcases hp with ((⟨x, -, rfl⟩ | rfl) | ⟨x, -, rfl⟩) | rfl | rfl | rfl <;> rfl
  · obtain ⟨part, hpart, hp⟩ := List.mem_flatMap.1 hp
    rw [eq_finalizer_of_mem_ownFinalizer hpart] at hp
    rw [List.mem_singleton.1 hp]
    rfl

/-- A class is exposed with functions that are behind its properties or dispatch. -/
theorem mem_of_refers_exposureOf {ks : List Contribution} {name : String} (hname : name ∈ (r.exposureOf c ks).refers) :
    (∃ k ∈ ks, name ∈ k.property.getter :: k.property.setter.toList) ∨ name ∈ dispatchNames (r.sets c false).values := by
  rcases List.mem_append.1 hname with hname | hname
  · right
    rw [Option.mem_toList] at hname
    obtain ⟨s, hs, rfl⟩ := Option.map_eq_some_iff.1 hname
    obtain ⟨hs, hoverloads⟩ := Option.filter_eq_some_iff.1 hs
    apply entryPoint_mem_dispatchNames (OrderedMap.mem_values_of_get? hs)
    simpa using hoverloads
  · obtain ⟨p, hp, hname⟩ := List.mem_flatMap.1 hname
    obtain ⟨q, hq, hname⟩ := List.mem_flatMap.1 hname
    have hproperties : p.properties = ks.map (·.property) ++ accessorProperties c.className (r.sets c false) := by
      rw [Option.mem_toList] at hp
      simp only [exposureOf, exposure, Option.ite_none_left_eq_some, Option.some.injEq] at hp
      rw [← hp.2]
    rw [hproperties] at hq
    rcases List.mem_append.1 hq with hq | hq
    · obtain ⟨k, hk, rfl⟩ := List.mem_map.1 hq
      exact .inl ⟨k, hk, hname⟩
    · exact .inr (mem_dispatchNames_of_accessorProperties hq hname)

/-- A class is exposed with its lists. -/
theorem lists_exposureOf (ks : List Contribution) :
    ((r.exposureOf c ks).lists).Perm ((r.functionLists c).map (·.name)) := by
  simp only [functionLists, Exposure.lists, exposureOf, exposure]
  generalize functionList? (c.className ++ "_Functions") (r.sets c false).values = own
  generalize functionList? (c.className ++ "_StaticFunctions") (r.sets c true).values = static
  rw [List.map_append]
  refine List.perm_append_comm.trans (List.Perm.of_eq ?_)
  congr 1
  · cases own with
    | none => split <;> rfl
    | some l => simp
  · cases static <;> rfl

/-- The entries of the lists of a class are functions that dispatch. -/
theorem mem_dispatchNames_of_functionLists {l : FunctionList} (hl : l ∈ r.functionLists c) {name : String}
    (hname : name ∈ l.entries.map (·.function)) :
    name ∈ dispatchNames (r.sets c false).values ++ dispatchNames (r.sets c true).values := by
  obtain ⟨entry, hentry, rfl⟩ := List.mem_map.1 hname
  rcases List.mem_append.1 hl with hl | hl
  · exact List.mem_append_left _ (mem_dispatchNames_of_functionList (Option.mem_toList.1 hl) hentry)
  · exact List.mem_append_right _ (mem_dispatchNames_of_functionList (Option.mem_toList.1 hl) hentry)

/-- Only a list of functions is a passage that is such a list. -/
theorem list_mem_passagesOf {l : FunctionList} {parts : List UnitPart} (h : .list l ∈ passagesOf parts) :
    .functionList l ∈ parts := by
  obtain ⟨part, hpart, h⟩ := List.mem_flatMap.1 h
  cases part with
  | functionList l' =>
    obtain rfl : l = l' := by simpa [UnitPart.passages] using h
    exact hpart
  | _ => simp [UnitPart.passages] at h

theorem functionList_not_mem_partsOf {ks : List Contribution} (hks : ∀ k ∈ ks, ∃ m, r.contribution? c m = .ok (some k))
    (defined : List String) (l : FunctionList) : .functionList l ∉ partsOf defined ks := by
  intro h
  rcases mem_partsOf h with ⟨k, hk, hpart⟩ | ⟨name, hpart⟩
  · obtain ⟨m, hm⟩ := hks k hk
    obtain ⟨s, -, rfl⟩ | ⟨getter, setter?, -, -, rfl⟩ := contribution_cases hm
    · simp [Contribution.ofSignal] at hpart
    · simp [Contribution.ofVariable] at hpart
  · cases hpart

theorem functionList_not_mem_dispatchParts {sets : List OverloadSet} {parts : List UnitPart}
    (h : r.dispatchParts c sets = .ok parts) (l : FunctionList) : .functionList l ∉ parts := by
  obtain ⟨thunks, -, h⟩ := bind_eq_ok.1 h
  obtain ⟨selectors, -, h⟩ := bind_eq_ok.1 h
  cases h
  simp

theorem list_not_mem_declarationPassages (l : FunctionList) : .list l ∉ r.declarationPassages c := by
  intro h
  rcases List.mem_append.1 h with h | h
  · simp at h
  · cases eq_finalizer_of_mem_ownFinalizer (list_mem_passagesOf h)

/-- **The passages of a unit are closed**, and its lists are those of the class, which stand before it is exposed. -/
theorem passages_closed {u : BindingsUnit} (hu : (r.unitOf c).outcome = .ok u) :
    ∃ before ks, u.passages = before ++ (r.functionLists c).map Passage.list ++ [Passage.exposure (r.exposureOf c ks)] ∧
      (∀ l, .list l ∉ before) ∧ ClosedAfter [] u.passages := by
  obtain ⟨ks, instanceParts, staticParts, hks, hinstances, hstatics, rfl⟩ := r.exists_parts_of_unitOf hu
  have hsource := exists_member_of_contributionsOf hks
  refine ⟨_, ks, passages_assemble ks instanceParts staticParts, ?lists, ?closed⟩
  case lists =>
    intro l hl
    simp only [List.mem_append] at hl
    rcases hl with ((hl | hl) | hl) | hl
    · exact list_not_mem_declarationPassages l hl
    · exact functionList_not_mem_partsOf hsource _ l (list_mem_passagesOf hl)
    · exact functionList_not_mem_dispatchParts hinstances l (list_mem_passagesOf hl)
    · exact functionList_not_mem_dispatchParts hstatics l (list_mem_passagesOf hl)
  case closed =>
    have hdeclarations : ClosedAfter [] (r.declarationPassages c) :=
      ClosedAfter.of_refers_eq_nil fun p hp => refers_of_declarationPassages hp
    have hfinalizers : ∀ x ∈ r.definedFirst c, finalizerName x ∈ namesOf (r.declarationPassages c) :=
      fun x hx => finalizerName_mem_declarationPassages hx
    obtain ⟨haccessors, hproperties⟩ := partsOf_closed hsource hfinalizers
    have hinstance := dispatch_closed hinstances
    have hstatic := dispatch_closed hstatics
    simp only [passages_assemble, ClosedAfter.append, List.nil_append]
    refine ⟨⟨⟨⟨⟨hdeclarations, haccessors⟩, (hinstance _).2⟩, (hstatic _).2⟩, ?_⟩, ?_, trivial⟩
    · apply ClosedAfter.of_refers
      intro p hp name hname
      obtain ⟨l, hl, rfl⟩ := List.mem_map.1 hp
      have hlisted := mem_dispatchNames_of_functionLists hl hname
      simp only [namesOf_append, (hinstance []).1, (hstatic []).1]
      rcases List.mem_append.1 hlisted with h | h <;> simp [h]
    · intro name hname
      simp only [namesOf_append, (hinstance []).1]
      rcases mem_of_refers_exposureOf hname with ⟨k, hk, hname⟩ | hname
      · simp [hproperties k hk name hname]
      · simp [hname]

/-- **Units are closed under references**: whatever a passage refers to is defined before it, and a class is exposed
with the lists that are there. -/
theorem references_closed {u : BindingsUnit} (hu : (r.unitOf c).outcome = .ok u) :
    (∀ before p after, u.passages = before ++ p :: after → ∀ name ∈ p.refers, ∃ f, .function f ∈ before ∧ f.name = name) ∧
      ∃ earlier e, u.passages = earlier ++ [.exposure e] ∧ ∀ name, name ∈ e.lists ↔ ∃ l, .list l ∈ earlier ∧ l.name = name := by
  obtain ⟨before, ks, hpassages, hlists, hclosed⟩ := passages_closed hu
  constructor
  · intro before p after hcut name hname
    exact hclosed.exists_function hcut hname
  · refine ⟨_, _, hpassages, ?_⟩
    intro name
    rw [(lists_exposureOf ks).mem_iff, List.mem_map]
    constructor
    · rintro ⟨l, hl, hname⟩
      exact ⟨l, List.mem_append_right _ (List.mem_map_of_mem hl), hname⟩
    · rintro ⟨l, hl, hname⟩
      rcases List.mem_append.1 hl with hl | hl
      · exact absurd hl (hlists l)
      · obtain ⟨l', hl', heq⟩ := List.mem_map.1 hl
        cases heq
        exact ⟨l, hl', hname⟩

theorem references_closed_clash :
    (∃ f, .function f ∈ clashUnit.passages.dropLast ∧ f.name = "Hub_Get_Up") ∧
    ∀ name, name ∈ clashExposure.lists ↔ ∃ l, .list l ∈ clashUnit.passages.dropLast ∧ l.name = name := by
  have hcut : clashUnit.passages = clashUnit.passages.dropLast ++ [.exposure clashExposure] := rfl
  obtain ⟨hdefined, earlier, e, hpassages, hlists⟩ := references_closed outcome_clashing
  rw [hcut] at hpassages
  obtain ⟨rfl, hexposure⟩ := List.append_inj' hpassages rfl
  cases hexposure
  exact ⟨hdefined _ _ _ hcut "Hub_Get_Up" (by decide), hlists⟩

end Registry

end ScriptGlue
