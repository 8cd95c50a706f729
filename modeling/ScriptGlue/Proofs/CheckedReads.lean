import ScriptGlue.Proofs.DeclaredSupports
import ScriptGlue.Proofs.Dispatch

/-!
# What a dispatched thunk reads

The guard of a function is made of the types of its parameters as they are judged, and covers those before the first
that can be left out; its thunk reads all parameters, each by the type as it is read. **`reads_checked`** says that the
two agree: once the guard has let a call through, every argument that is read unasked is there and was tested for what
it is read as, and every other is asked for first.
-/

namespace ScriptGlue

open ScriptGlue.Text ScriptGlue.Cpp

/-! ### Tests and reads -/

/-- A test lets through what can be taken from the stack: the same kind of value, and of the same class. -/
inductive ArgCheck.Covers : ArgCheck → Fetch → Prop where
  | number (type : String) : Covers .number (.number type)
  | boolean : Covers .boolean .boolean
  | string : Covers .string .string
  | strings : Covers .object .strings
  | values (className : String) : Covers .object (.values className)
  | objects (className : String) : Covers .object (.objects className)
  | valuePointer (className : String) : Covers (.value className) (.valuePointer className)
  | valueReference (className : String) : Covers (.value className) (.valueReference className)

/-- The statement takes the argument from the stack only if it is passed. -/
def Argument.IsGuarded (a : Argument) : Prop :=
  ∃ value ∈ [a.read.expression, a.read.typeName ++ "(" ++ a.read.expression ++ ")"], ∃ other,
    a.statement = a.read.declarator false ++ " = numArgs > " ++ toString a.read.index ++ " ? " ++ value ++ " : " ++ other ++ ";"

theorem Argument.isGuarded {a : Argument} (h : a.fallback? ≠ none) : a.IsGuarded := by
  obtain ⟨fallback, hfallback⟩ := Option.ne_none_iff_exists'.1 h
  have hstatement : a.statement = a.read.statementOr fallback := by rw [statement, hfallback]
  rw [IsGuarded, hstatement, StackRead.statementOr]
  cases a.read.fetch.isDirect with
  | false => exact ⟨_, List.mem_cons_self, fallback, rfl⟩
  | true => exact ⟨_, List.mem_cons_of_mem _ List.mem_cons_self, _, rfl⟩

/-- The statement that counts the arguments. -/
def countStatement : String := "int numArgs = duk_get_top(ctx);"

namespace Cpp.Vocabulary

variable {v : Vocabulary}

/-- Types of one name and category are tested for what they are read as. -/
theorem covers_of_classify {text text' : String} (hname : (v.classify text').name = (v.classify text).name)
    (hcategory : (v.classify text').category = (v.classify text).category) {check : ArgCheck} {fetch : Fetch}
    (hcheck : v.argCheck text = .ok (some check)) (hfetch : v.fetch text' = .ok fetch) : check.Covers fetch := by
  simp only [argCheck] at hcheck
  simp only [Vocabulary.fetch, hcategory] at hfetch
  cases hc : (v.classify text).category with
  | number | bool | string kind =>
    simp only [hc] at hcheck hfetch
    cases hcheck
    cases hfetch
    constructor
  | vector element holds =>
    rcases holds with kind | _ | _
    all_goals
      simp only [hc] at hcheck hfetch
      cases hcheck
      cases hfetch
      constructor
  | object ownership =>
    cases ownership with
    | value =>
      simp only [hc, hname] at hcheck hfetch
      cases hcheck
      split at hfetch
      · cases hfetch
        exact .valuePointer _
      · cases hfetch
        exact .valueReference _
    | weak => simp [hc] at hcheck
  | void | variant | map _ _ | sharedPtr _ | unsupported _ => simp [hc] at hcheck

/-- The arguments of a thunk are those for the parameters, in order. -/
theorem getElem?_arguments {position : Nat} {ps : List Parameter} {as : List Argument} (h : v.arguments position ps = .ok as) :
    as.length = ps.length ∧ ∀ i (a : Argument), as[i]? = some a → ∃ p, ps[i]? = some p ∧ v.argument p (position + i) = .ok a := by
  rw [arguments_eq] at h
  refine ⟨by simpa using length_of_mapM_ok h, fun i a ha => ?_⟩
  obtain ⟨entry, hentry, hargument⟩ := getElem?_of_mapM_ok h ha
  rw [List.getElem?_zipIdx] at hentry
  obtain ⟨p, hp, rfl⟩ := Option.map_eq_some_iff.1 hentry
  exact ⟨p, hp, hargument⟩

/-- A parameter that has a test is tested at its own position. -/
theorem mem_checks {position : Nat} {ps : List Parameter} {checks : List (Nat × ArgCheck)}
    (h : v.checks position ps = .ok checks) {i : Nat} {p : Parameter} (hp : ps[i]? = some p) {check : ArgCheck}
    (hcheck : v.argCheck p.basicType = .ok (some check)) : (position + i, check) ∈ checks := by
  rw [checks_eq] at h
  obtain ⟨found, hfound, rfl⟩ := map_eq_ok.1 h
  have hplace : (ps.zipIdx position)[i]? = some (p, position + i) := by rw [List.getElem?_zipIdx, hp, Option.map_some]
  obtain ⟨made?, hentry, hmade⟩ := exists_of_mapM_ok hfound (List.mem_of_getElem? hplace)
  rw [positionedCheck, hcheck] at hmade
  cases hmade
  exact List.reduceOption_mem_iff.2 hentry

/-- Every function of a set has a case in its selector. -/
theorem exists_case {s : OverloadSet} {selector : Selector} (h : v.selector s = .ok selector) {o : Overload}
    (ho : o ∈ s.overloads) : ∃ guard, v.guard o = .ok guard ∧ (guard, o.functionName) ∈ selector.cases := by
  obtain ⟨cases, hcases, h⟩ := bind_eq_ok.1 h
  cases h
  obtain ⟨guarded, hmem, hguarded⟩ := exists_of_mapM_ok hcases (List.mem_mergeSort.2 ho)
  obtain ⟨guard, hguard, hguarded⟩ := bind_eq_ok.1 hguarded
  cases hguarded
  exact ⟨guard, hguard, hmem⟩

/-- A thunk counts its arguments if some can be left out. -/
theorem countsArguments_of_thunk {className : String} {o : Overload} {t : Thunk} (h : v.thunk className o = .ok t) :
    t.countsArguments = o.hasDefaults := by
  obtain ⟨arguments, result?, -, -, rfl⟩ := Registry.exists_of_thunk h
  rfl

end Cpp.Vocabulary

theorem Thunk.head?_statements {t : Thunk} (h : t.countsArguments = true) : t.statements.head? = some countStatement := by
  simp [statements, h, countStatement]

/-- If all that can be left out stands at the end, what cannot is significant. -/
theorem Overload.IsBoundAs.lt_significant {o : Overload} {base : String} (h : o.IsBoundAs base)
    (hsuffix : o.parameters.Pairwise fun p q => p.hasDefault = true → q.hasDefault = true) {i : Nat} {p : Parameter}
    (hp : o.parameters[i]? = some p) (hrequired : p.hasDefault = false) : (i : Int) < o.significant := by
  obtain ⟨required, optional, hparameters, hsignificant, -, hhead, -⟩ := h.significant_eq
  rw [hparameters] at hp hsuffix
  rw [hsignificant]
  by_contra hlarge
  rw [List.getElem?_append_right (by omega)] at hp
  cases optional with
  | nil => cases hp
  | cons first optional =>
    have hfirst : first.hasDefault = true := hhead first rfl
    rcases List.mem_cons.1 (List.mem_of_getElem? hp) with rfl | hmem
    · simp [hfirst] at hrequired
    · have hlater := (List.pairwise_cons.1 (List.pairwise_append.1 hsuffix).2.1).1 p hmem hfirst
      simp [hlater] at hrequired

theorem Overload.IsBoundAs.hasDefaults_of_mem {o : Overload} {base : String} (h : o.IsBoundAs base) {p : Parameter}
    (hp : p ∈ o.parameters) (hdefault : p.hasDefault = true) : o.hasDefaults = true := by
  obtain ⟨required, optional, hparameters, -, hrequired, -, hdefaults⟩ := h.significant_eq
  refine hdefaults.2 ?_
  rintro rfl
  rw [hparameters, List.append_nil] at hp
  simp [hrequired p hp] at hdefault

/-- A guard that holds lets through no call without the significant arguments. -/
theorem Overload.IsBoundAs.significant_le_of_holds {o : Overload} {base : String} (h : o.IsBoundAs base) {v : Vocabulary}
    {guard : Guard} (hguard : v.guard o = .ok guard) {call : Call} (hholds : call.holds guard.condition = true) :
    o.significant ≤ call.numArgs := by
  obtain ⟨required, optional, -, hsignificant, -⟩ := h.significant_eq
  rw [Vocabulary.holds_guard_iff hguard hsignificant, Vocabulary.admits, Bool.and_eq_true] at hholds
  have hcount := hholds.1
  split at hcount
  · exact of_decide_eq_true hcount
  · exact Int.le_of_eq (of_decide_eq_true hcount).symm

/-- What a thunk reads is there and was tested by the guard. -/
structure ReadsChecked (v : Vocabulary) (o : Overload) (guard : Guard) (t : Thunk) : Prop where
  /-- What is read unasked is passed. -/
  passed : ∀ call : Call, call.holds guard.condition = true → ∀ a ∈ t.arguments, a.fallback? = none →
    0 ≤ a.read.index ∧ a.read.index < call.numArgs
  /-- Every other argument is asked for before it is read, and the arguments are counted first of all. -/
  asked : ∀ a ∈ t.arguments, a.fallback? ≠ none → a.IsGuarded ∧ t.statements.head? = some countStatement
  /-- What cannot be left out is tested where it is read, and for what it is read as. -/
  tested : ∀ (i : Nat) p check, o.parameters[i]? = some p → p.hasDefault = false →
    v.argCheck p.basicType = .ok (some check) →
    (i, check) ∈ guard.checks ∧ ∃ a, t.arguments[i]? = some a ∧ a.fallback? = none ∧ a.read.index = i ∧ check.Covers a.read.fetch

namespace Registry

variable {r : Registry} {c : Compound} {isStatic : Bool} {s : OverloadSet} {o : Overload} {t : Thunk}

/-- A parameter of a bound function is read as it was judged. -/
theorem covers_of_mem_overloads (hbare : r.vocabulary.Bare) (hs : s ∈ (r.sets c isStatic).values) (ho : o ∈ s.overloads)
    {p : Parameter} (hp : p ∈ o.parameters) (hconst : p.SingleConst) {fetch : Fetch}
    (hfetch : r.vocabulary.fetch p.readType = .ok fetch) {check : ArgCheck}
    (hcheck : r.vocabulary.argCheck p.basicType = .ok (some check)) : check.Covers fetch := by
  have hmarks := not_doublyMarked_of_fetch hbare hconst hfetch
  obtain ⟨m, -, hbinds, rfl⟩ := mem_bound (List.mem_flatMap.2 ⟨s, hs, ho⟩)
  obtain ⟨htype, hbasic⟩ := not_denied_of_isScriptable (binds_facts hbinds).scriptable hp
  obtain ⟨hname, hcategory⟩ := Vocabulary.classify_readType hconst hmarks htype hbasic
  exact Vocabulary.covers_of_classify hname hcategory hcheck hfetch

/-- **A dispatched thunk reads only arguments that are there and were tested.** A function that is registered alone and
of which nothing can be left out is registered with as many arguments as it reads. -/
theorem reads_checked (hbare : r.vocabulary.Bare) (hs : s ∈ (r.sets c isStatic).values) (ho : o ∈ s.overloads)
    (ht : r.vocabulary.thunk c.className o = .ok t) (hconst : ∀ p ∈ o.parameters, p.SingleConst)
    (hsuffix : o.parameters.Pairwise fun p q => p.hasDefault = true → q.hasDefault = true) :
    (∃ selector guard, r.vocabulary.selector s = .ok selector ∧ (guard, o.functionName) ∈ selector.cases ∧
      r.vocabulary.guard o = .ok guard ∧ ReadsChecked r.vocabulary o guard t) ∧
    (s.needsSelector = false → o.hasDefaults = false → s.entryArgCount = .exactly t.arguments.length) := by
  obtain ⟨base, hbound⟩ := isBoundAs_of_mem hs ho
  obtain ⟨-, harguments, -⟩ := parts_of_thunk ht
  obtain ⟨hlength, hargument⟩ := Vocabulary.getElem?_arguments harguments
  have hread : ∀ (i : Nat) a, t.arguments[i]? = some a → ∃ p, o.parameters[i]? = some p ∧ a.read.index = i ∧
      r.vocabulary.fetch p.readType = .ok a.read.fetch ∧ (a.fallback? = none ↔ p.hasDefault = false) := by
    intro i a ha
    obtain ⟨p, hp, ha⟩ := hargument i a ha
    obtain ⟨read, hread, rfl⟩ := map_eq_ok.1 ha
    refine ⟨p, hp, ?_, fetch_of_read hread, ?_⟩
    · obtain ⟨fetch, -, rfl⟩ := map_eq_ok.1 hread
      simp
    · simp
  refine ⟨?_, ?_⟩
  · obtain ⟨selector, hselector⟩ := exists_selector hs
    obtain ⟨guard, hguard, hcase⟩ := Vocabulary.exists_case hselector ho
    refine ⟨selector, guard, hselector, hcase, hguard, ?_, ?_, ?_⟩
    · intro call hholds a ha hfallback
      obtain ⟨i, ha⟩ := List.mem_iff_getElem?.1 ha
      obtain ⟨p, hp, hindex, -, hdefault⟩ := hread i a ha
      have hlt : (i : Int) < o.significant := hbound.lt_significant hsuffix hp (hdefault.1 hfallback)
      have hle : o.significant ≤ call.numArgs := hbound.significant_le_of_holds hguard hholds
      omega
    · intro a ha hfallback
      obtain ⟨i, ha⟩ := List.mem_iff_getElem?.1 ha
      obtain ⟨p, hp, -, -, hdefault⟩ := hread i a ha
      have hoptional : p.hasDefault = true := by simpa using mt hdefault.2 hfallback
      have hcounts : o.hasDefaults = true := hbound.hasDefaults_of_mem (List.mem_of_getElem? hp) hoptional
      exact ⟨a.isGuarded hfallback, Thunk.head?_statements (by rw [Vocabulary.countsArguments_of_thunk ht, hcounts])⟩
    · intro i p check hp hrequired hcheck
      obtain ⟨checks, hchecks, hguard⟩ := bind_eq_ok.1 hguard
      cases hguard
      have hlt : i < o.significant.toNat := by
        have hlt := hbound.lt_significant hsuffix hp hrequired
        omega
      have hp' : (o.parameters.take o.significant.toNat)[i]? = some p := by rwa [List.getElem?_take_of_lt hlt]
      have hi : i < t.arguments.length := by
        rw [hlength]
        exact (List.getElem?_eq_some_iff.1 hp).1
      obtain ⟨p', hsame, hindex, hfetch, hdefault⟩ := hread i _ (List.getElem?_eq_getElem hi)
      rw [hp] at hsame
      cases hsame
      have hmem := List.mem_of_getElem? hp
      refine ⟨by simpa using Vocabulary.mem_checks hchecks hp' hcheck, _, List.getElem?_eq_getElem hi, hdefault.2 hrequired, hindex, ?_⟩
      exact covers_of_mem_overloads hbare hs ho hmem (hconst p hmem) hfetch hcheck
  · intro hselector hdefaults
    have halone : s.overloads = [o] := by
      rcases hoverloads : s.overloads with _ | ⟨first, _ | ⟨second, rest⟩⟩
      · simp [hoverloads] at ho
      · simpa [hoverloads, eq_comm] using ho
      · simp [OverloadSet.needsSelector, hoverloads] at hselector
    simp [OverloadSet.entryArgCount, hselector, halone, Overload.argCount, hdefaults, hlength]

/-- A class with a function that can be told whether to go slowly. -/
def lamp : Compound where
  kind := "class"
  name := "Lamp"
  members := [{ kind := "function", name := "Dim", type := "void", parameters := [{ type := "const String &", name := "mode" }] },
    { kind := "function", name := "Dim", type := "void",
      parameters := [{ type := "float", name := "level" }, { type := "bool", name := "slowly", defaultValue := "false" }] }]

/-- The registry of the class. -/
def lampRegistry : Registry := (build .default { preferred := [] } [lamp] []).value

/-- The function of the class that can be called with one argument or two. -/
def lampDim : Overload := lamp.overloadOf lamp.members[1].toSymbol false

theorem reads_checked_lamp : ∃ s ∈ (lampRegistry.sets lamp false).values, lampDim ∈ s.overloads ∧ lampDim.hasDefaults = true ∧
    ∃ t, lampRegistry.vocabulary.thunk lamp.className lampDim = .ok t ∧
      ∃ selector guard, lampRegistry.vocabulary.selector s = .ok selector ∧ (guard, lampDim.functionName) ∈ selector.cases ∧
        lampRegistry.vocabulary.guard lampDim = .ok guard ∧ ReadsChecked lampRegistry.vocabulary lampDim guard t := by
  have hsets : (lampRegistry.sets lamp false).values.map (·.overloads) =
      [[lamp.overloadOf lamp.members[0].toSymbol false, lampDim]] := by decide +kernel
  obtain ⟨s, hvalues, hoverloads⟩ := List.map_eq_singleton_iff.1 hsets
  have hs : s ∈ (lampRegistry.sets lamp false).values := by simp [hvalues]
  have ho : lampDim ∈ s.overloads := by simp [hoverloads]
  have hthunk : (lampRegistry.vocabulary.thunk lamp.className lampDim).isOk = true := by decide +kernel
  obtain ⟨t, ht⟩ : ∃ t, lampRegistry.vocabulary.thunk lamp.className lampDim = .ok t := by
    cases h : lampRegistry.vocabulary.thunk lamp.className lampDim with
    | ok t => exact ⟨t, rfl⟩
    | error e => simp [h, Except.isOk, Except.toBool] at hthunk
  have hbare : lampRegistry.vocabulary.Bare := Vocabulary.bare_of_default rfl (by decide +kernel)
  have hconst : ∀ p ∈ lampDim.parameters, p.SingleConst := by decide +kernel
  have hsuffix : lampDim.parameters.Pairwise fun p q => p.hasDefault = true → q.hasDefault = true := by decide +kernel
  exact ⟨s, hs, ho, by decide, t, ht, (reads_checked hbare hs ho ht hconst hsuffix).1⟩

end Registry

end ScriptGlue
