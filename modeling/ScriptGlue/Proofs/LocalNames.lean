import Mathlib.Data.List.Nodup
import ScriptGlue.Proofs.CheckedReads
import ScriptGlue.Proofs.SpelledNumbers

/-!
# Local variables

A thunk declares a variable for each parameter, named after it. A parameter without a name gets one made from its
position, and a reserved name gets an underscore, but neither of these is looked for among the other parameters. So no
variable takes a reserved name, and the variables of a thunk are distinct just if no parameter happens to have a name that
is made for another: **`variables_apart_iff`**. A setter keeps the name of its member, reserved or not.
-/

namespace ScriptGlue

open ScriptGlue.Cpp ScriptGlue.Text

/-! ### Names -/

/-- The name made for a parameter without one at a position. -/
def numbered (position : Nat) : String := s!"param{(position : Int)}"

/-- The name of a parameter, made from its position if it has none. -/
def Parameter.nameAt (p : Parameter) (position : Nat) : String := if p.name = "" then numbered position else p.name

/-- What is used for a name, so that it is not reserved. -/
def unreserved (name : String) : String := if name ∈ reservedNames then name ++ "_" else name

theorem parameterVariable_eq (p : Parameter) (position : Nat) : parameterVariable p position = unreserved (p.nameAt position) := by
  simp [parameterVariable, unreserved, Parameter.nameAt, numbered]

theorem toList_numbered (position : Nat) : (numbered position).toList = "param".toList ++ Nat.toDigits 10 position := by
  have hdigits := toList_toString position
  rw [if_neg (by omega), Int.natAbs_natCast] at hdigits
  rw [← hdigits, ← String.toList_append]
  rfl

theorem numbered_injective {i j : Nat} (h : numbered i = numbered j) : i = j := by
  have hdigits := congrArg String.toList h
  rw [toList_numbered, toList_numbered, List.append_cancel_left_eq] at hdigits
  rw [← Nat.ofDigitChars_ten_toDigits (n := i), hdigits, Nat.ofDigitChars_ten_toDigits]

/-- A name made from a position has a digit, unlike any reserved name and any that is used for one. -/
theorem numbered_ne {name : String} (h : name ∈ reservedNames) (position : Nat) :
    numbered position ≠ name ∧ numbered position ≠ name ++ "_" := by
  have hall : ∀ name ∈ reservedNames, ((name ++ "_").toList.all fun c => !c.isDigit) = true := by decide
  obtain ⟨c, hc⟩ := List.exists_mem_of_ne_nil _ (Nat.toDigits_ne_nil (b := 10) (n := position))
  have hmem : c ∈ (numbered position).toList := by
    rw [toList_numbered]
    exact List.mem_append_right _ hc
  have hnot : c ∉ (name ++ "_").toList := by
    intro hc'
    have hdigit := List.all_eq_true.1 (hall name h) c hc'
    rw [Nat.isDigit_of_mem_toDigits (by decide) (by decide) hc] at hdigit
    cases hdigit
  constructor <;> intro heq <;> rw [heq] at hmem
  · rw [String.toList_append] at hnot
    exact hnot (List.mem_append_left _ hmem)
  · exact hnot hmem

/-- No reserved name with an underscore is reserved. -/
theorem unreserved_not_mem (name : String) : unreserved name ∉ reservedNames := by
  have hall : ∀ name ∈ reservedNames, name ++ "_" ∉ reservedNames := by decide
  unfold unreserved
  split
  · next h => exact hall name h
  · next h => exact h

/-- Two names are used as one only if one is what is used for the other. -/
theorem unreserved_eq_iff (a b : String) :
    unreserved a = unreserved b ↔ a = b ∨ (a ∈ reservedNames ∧ b = a ++ "_") ∨ b ∈ reservedNames ∧ a = b ++ "_" := by
  have hall : ∀ name ∈ reservedNames, name ++ "_" ∉ reservedNames := by decide
  unfold unreserved
  by_cases ha : a ∈ reservedNames <;> by_cases hb : b ∈ reservedNames
  · have hab : b ≠ a ++ "_" := fun heq => hall a ha (heq ▸ hb)
    have hba : a ≠ b ++ "_" := fun heq => hall b hb (heq ▸ ha)
    simp [ha, hb, hab, hba]
  · have hab : a ≠ b := fun heq => hb (heq ▸ ha)
    simp [ha, hb, hab, eq_comm]
  · have hab : a ≠ b := fun heq => ha (heq ▸ hb)
    simp [ha, hb, hab]
  · simp [ha, hb]

/-! ### Parameters -/

/-- The variables for parameters, in order. -/
def variablesOf (ps : List Parameter) : List String := ps.mapIdx fun i p => parameterVariable p i

/-- Parameters that have names have different ones. -/
def NamedApart (ps : List Parameter) : Prop := ((ps.map (·.name)).filter (· ≠ "")).Nodup

instance (ps : List Parameter) : Decidable (NamedApart ps) := inferInstanceAs (Decidable (List.Nodup _))

/-- No parameter has a name that is made for another. -/
structure VariablesApart (ps : List Parameter) : Prop where
  /-- No name is that made from the position of a parameter without one. -/
  unnamed : ∀ i p, ps[i]? = some p → p.name = "" → ∀ q ∈ ps, q.name ≠ numbered i
  /-- No name is a reserved one with an underscore, if that reserved name is also there. -/
  reserved : ∀ p ∈ ps, p.name ∈ reservedNames → ∀ q ∈ ps, q.name ≠ p.name ++ "_"

theorem nodup_mapIdx_iff {α β : Type} (f : Nat → α → β) (xs : List α) :
    (xs.mapIdx f).Nodup ↔ ∀ i j x y, xs[i]? = some x → xs[j]? = some y → f i x = f j y → i = j := by
  have hget {i : Nat} {x : α} (hx : xs[i]? = some x) : (xs.mapIdx f)[i]? = some (f i x) := by
    rw [List.getElem?_mapIdx, hx, Option.map_some]
  constructor
  · intro h i j x y hx hy heq
    have hlt : i < (xs.mapIdx f).length := (List.getElem?_eq_some_iff.1 (hget hx)).1
    exact (List.getElem?_inj hlt h).1 (by rw [hget hx, hget hy, heq])
  · intro h
    rw [List.nodup_iff_getElem?_ne_getElem?]
    intro i j hij hj heq
    rw [List.length_mapIdx] at hj
    have hx := List.getElem?_eq_getElem (hij.trans hj)
    have hy := List.getElem?_eq_getElem hj
    rw [hget hx, hget hy, Option.some_inj] at heq
    exact absurd (h i j _ _ hx hy heq) hij.ne

theorem NamedApart.position_eq {ps : List Parameter} (h : NamedApart ps) {i j : Nat} {p q : Parameter} (hp : ps[i]? = some p)
    (hq : ps[j]? = some q) (hne : p.name ≠ "") (heq : p.name = q.name) : i = j := by
  have hapart : ∀ {i j : Nat} {p q : Parameter}, ps[i]? = some p → ps[j]? = some q → p.name ≠ "" → p.name = q.name → ¬ i < j := by
    intro i j p q hp hq hne heq hij
    rw [NamedApart, List.Nodup, List.pairwise_filter, List.pairwise_map, List.pairwise_iff_getElem] at h
    obtain ⟨hi, rfl⟩ := List.getElem?_eq_some_iff.1 hp
    obtain ⟨hj, rfl⟩ := List.getElem?_eq_some_iff.1 hq
    exact h i j hi hj hij (by simpa using hne) (by simpa using heq ▸ hne) heq
  have hij := hapart hp hq hne heq
  have hji := hapart hq hp (heq ▸ hne) heq.symm
  omega

theorem Parameter.nameAt_of_named {p : Parameter} (h : p.name ≠ "") (position : Nat) : p.nameAt position = p.name := if_neg h

theorem Parameter.nameAt_of_unnamed {p : Parameter} (h : p.name = "") (position : Nat) : p.nameAt position = numbered position :=
  if_pos h

/-- Only a reserved name of a parameter is one that is changed. -/
theorem Parameter.nameAt_mem_iff {p : Parameter} {position : Nat} : p.nameAt position ∈ reservedNames ↔ p.name ∈ reservedNames := by
  have hempty : "" ∉ reservedNames := by decide
  by_cases h : p.name = ""
  · rw [nameAt_of_unnamed h, h]
    exact iff_of_false (fun hmem => (numbered_ne hmem position).1 rfl) hempty
  · rw [nameAt_of_named h]

theorem numbered_ne_empty (position : Nat) : numbered position ≠ "" := by
  rw [ne_eq, ← String.toList_inj, toList_numbered]
  simp

/-- Two parameters have one name only if they are one. -/
theorem VariablesApart.eq_of_nameAt {ps : List Parameter} (hapart : VariablesApart ps) (h : NamedApart ps) {i j : Nat}
    {p q : Parameter} (hp : ps[i]? = some p) (hq : ps[j]? = some q) (heq : p.nameAt i = q.nameAt j) : i = j := by
  by_cases hp0 : p.name = "" <;> by_cases hq0 : q.name = ""
  · rw [p.nameAt_of_unnamed hp0, q.nameAt_of_unnamed hq0] at heq
    exact numbered_injective heq
  · rw [p.nameAt_of_unnamed hp0, q.nameAt_of_named hq0] at heq
    exact absurd heq.symm (hapart.unnamed i p hp hp0 q (List.mem_of_getElem? hq))
  · rw [p.nameAt_of_named hp0, q.nameAt_of_unnamed hq0] at heq
    exact absurd heq (hapart.unnamed j q hq hq0 p (List.mem_of_getElem? hp))
  · rw [p.nameAt_of_named hp0, q.nameAt_of_named hq0] at heq
    exact h.position_eq hp hq hp0 heq

/-- No parameter has a name that is used for a reserved one. -/
theorem VariablesApart.nameAt_ne {ps : List Parameter} (hapart : VariablesApart ps) {p q : Parameter} (hp : p ∈ ps) (hq : q ∈ ps)
    (hmem : p.name ∈ reservedNames) (i j : Nat) : q.nameAt j ≠ p.nameAt i ++ "_" := by
  have hnamed : p.name ≠ "" := fun hempty => absurd (hempty ▸ hmem) (by decide)
  rw [p.nameAt_of_named hnamed]
  by_cases hq0 : q.name = ""
  · rw [q.nameAt_of_unnamed hq0]
    exact (numbered_ne hmem j).2
  · rw [q.nameAt_of_named hq0]
    exact hapart.reserved p hp hmem q hq

/-- **Variables are distinct just if no parameter has a name that is made for another.** -/
theorem nodup_variablesOf_iff {ps : List Parameter} (h : NamedApart ps) : (variablesOf ps).Nodup ↔ VariablesApart ps := by
  rw [variablesOf, nodup_mapIdx_iff]
  simp only [parameterVariable_eq, unreserved_eq_iff, Parameter.nameAt_mem_iff]
  constructor
  · intro hinj
    refine ⟨fun i p hp hunnamed q hq heq => ?_, fun p hp hmem q hq heq => ?_⟩
    · obtain ⟨j, hq⟩ := List.mem_iff_getElem?.1 hq
      have hnamed : q.name ≠ "" := heq ▸ numbered_ne_empty i
      have hij := hinj i j p q hp hq (.inl (by rw [p.nameAt_of_unnamed hunnamed, q.nameAt_of_named hnamed, heq]))
      rw [← hij, hp] at hq
      cases hq
      exact hnamed hunnamed
    · obtain ⟨i, hp⟩ := List.mem_iff_getElem?.1 hp
      obtain ⟨j, hq⟩ := List.mem_iff_getElem?.1 hq
      have hlonger : q.name.length = p.name.length + 1 := by rw [heq, String.length_append]; rfl
      have hnamed : p.name ≠ "" := fun hempty => absurd (hempty ▸ hmem) (by decide)
      have hnamed' : q.name ≠ "" := fun hempty => by simp [hempty] at hlonger
      have hij := hinj i j p q hp hq (.inr (.inl ⟨hmem, by rw [p.nameAt_of_named hnamed, q.nameAt_of_named hnamed', heq]⟩))
      rw [← hij, hp] at hq
      cases hq
      omega
  · intro hapart i j p q hp hq heq
    have hmem := List.mem_of_getElem? hp
    have hmem' := List.mem_of_getElem? hq
    rcases heq with heq | ⟨hreserved, heq⟩ | ⟨hreserved, heq⟩
    · exact hapart.eq_of_nameAt h hp hq heq
    · exact absurd heq (hapart.nameAt_ne hmem hmem' hreserved i j)
    · exact absurd heq (hapart.nameAt_ne hmem' hmem hreserved j i)

/-! ### Declarations -/

/-- The statement declares a variable with the name. -/
def Declares (statement name : String) : Prop :=
  ∃ type value, statement = type ++ " " ++ name ++ value ∧ (startsWith value " = " = true ∨ startsWith value "(" = true)

theorem startsWith_append (p s : String) : startsWith (p ++ s) p = true := by
  rw [startsWith, String.toList_append, List.isPrefixOf_iff_prefix]
  exact List.prefix_append _ _

theorem StackRead.declarator_eq (r : StackRead) (isReference : Bool) :
    ∃ type, r.declarator isReference = type ++ " " ++ r.variableName := by
  unfold declarator
  split
  · exact ⟨r.typeName ++ "*", by rw [@String.append_assoc r.typeName]; rfl⟩
  · split
    · exact ⟨r.typeName ++ "&", by rw [@String.append_assoc r.typeName]; rfl⟩
    · exact ⟨r.typeName, rfl⟩

theorem StackRead.declares_statement (r : StackRead) : Declares r.statement r.variableName := by
  unfold statement
  split
  · refine ⟨r.typeName, "(" ++ (r.expression ++ ");"), ?_, .inr (startsWith_append _ _)⟩
    simp only [toString, String.append_assoc]
  · obtain ⟨type, htype⟩ := r.declarator_eq r.fetch.isReference
    refine ⟨type, " = " ++ (r.expression ++ ";"), ?_, .inl (startsWith_append _ _)⟩
    simp only [toString, htype, String.append_assoc]

theorem StackRead.declares_statementOr (r : StackRead) (fallback : String) : Declares (r.statementOr fallback) r.variableName := by
  obtain ⟨type, htype⟩ := r.declarator_eq false
  obtain ⟨value, hvalue⟩ : ∃ value, r.statementOr fallback = r.declarator false ++ (" = numArgs > " ++ value) := by
    unfold statementOr
    simp only [toString, String.append_assoc]
    exact ⟨_, rfl⟩
  refine ⟨type, " = numArgs > " ++ value, by rw [hvalue, htype], .inl ?_⟩
  rw [show " = numArgs > " = " = " ++ "numArgs > " from rfl, String.append_assoc]
  exact startsWith_append _ _

theorem Argument.declares_statement (a : Argument) : Declares a.statement a.read.variableName := by
  unfold statement
  split
  · exact a.read.declares_statementOr _
  · exact a.read.declares_statement

/-- The variables that a thunk declares for the parameters, in order. -/
def Thunk.variables (t : Thunk) : List String := t.arguments.map (·.read.variableName)

theorem Thunk.reads_infix_statements (t : Thunk) : t.arguments.map (·.statement) <:+: t.statements := by
  unfold statements
  refine List.IsInfix.trans ?_ (List.suffix_append _ _).isInfix
  split
  · exact (List.prefix_append _ _).isInfix
  · exact (List.prefix_append _ _).isInfix
  · exact (List.prefix_append _ _).isInfix.trans (List.suffix_cons _ _).isInfix

theorem variables_of_thunk {v : Vocabulary} {className : String} {o : Overload} {t : Thunk} (h : v.thunk className o = .ok t) :
    t.variables = variablesOf o.parameters := by
  obtain ⟨-, harguments, -⟩ := Registry.parts_of_thunk h
  obtain ⟨hlength, hargument⟩ := Vocabulary.getElem?_arguments harguments
  refine List.ext_getElem? fun i => ?_
  rw [Thunk.variables, variablesOf, List.getElem?_map, List.getElem?_mapIdx]
  cases ha : t.arguments[i]? with
  | none =>
    rw [List.getElem?_eq_none_iff, hlength] at ha
    rw [List.getElem?_eq_none ha]
    rfl
  | some a =>
    obtain ⟨p, hp, ha⟩ := hargument i a ha
    obtain ⟨read, hread, rfl⟩ := map_eq_ok.1 ha
    obtain ⟨fetch, -, rfl⟩ := map_eq_ok.1 hread
    rw [hp]
    simp

/-! ### Functions -/

/-- The names that a setter uses for itself. -/
def setterNames : List String := ["ctx", "thisObj"]

theorem variable_of_setter? {v : Vocabulary} {className : String} {m : Symbol} {s : Setter}
    (h : v.setter? className m = .ok (some s)) : s.read.variableName = m.name := by
  unfold Vocabulary.setter? at h
  split at h
  · obtain ⟨read, hread, h⟩ := map_eq_ok.1 h
    obtain ⟨fetch, -, rfl⟩ := map_eq_ok.1 hread
    cases h
    rfl
  · cases h

/-- **Local variables.** A thunk declares a variable for each parameter, one after the other, none with a reserved name, and
where named parameters have different names, the variables are distinct just if none has a name that is made for another. A
setter declares the new value by the name of its member. -/
theorem variables_apart_iff (v : Vocabulary) (className : String) :
    (∀ o t, v.thunk className o = .ok t →
      (t.arguments.map (·.statement) <:+: t.statements ∧ ∀ a ∈ t.arguments, Declares a.statement a.read.variableName) ∧
      (∀ name ∈ t.variables, name ∉ reservedNames) ∧
      (NamedApart o.parameters → (t.variables.Nodup ↔ VariablesApart o.parameters))) ∧
    ∀ m s, v.setter? className m = .ok (some s) →
      (indented 1 s.read.statement ∈ s.lines ∧ Declares s.read.statement s.read.variableName) ∧
      (s.read.variableName ∉ setterNames ↔ m.name ∉ setterNames) := by
  refine ⟨fun o t ht => ⟨⟨t.reads_infix_statements, fun a _ => a.declares_statement⟩, ?_, fun hnamed => ?_⟩, fun m s hs => ?_⟩
  · rw [variables_of_thunk ht]
    intro name hname
    obtain ⟨i, hi, rfl⟩ := List.mem_mapIdx.1 hname
    rw [parameterVariable_eq]
    exact unreserved_not_mem _
  · rw [variables_of_thunk ht]
    exact nodup_variablesOf_iff hnamed
  · refine ⟨⟨?_, s.read.declares_statement⟩, by rw [variable_of_setter? hs]⟩
    simp [Setter.lines, functionLines, indentedAll]

/-- A class with a function whose first parameter has the name made for the second, and with a variable that has the name of
the context. -/
def slider : Compound where
  kind := "class"
  name := "Slider"
  members := [{ kind := "variable", name := "ctx", type := "int" },
    { kind := "function", name := "Move", type := "void",
      parameters := [{ type := "int", name := "param1" }, { type := "int" }] }]

/-- The registry of the class. -/
def sliderRegistry : Registry := (Registry.build .default { preferred := [] } [slider] []).value

/-- The function of the class. -/
def sliderMove : Overload := slider.overloadOf slider.members[1].toSymbol false

/-- The variable of the class. -/
def sliderContext : Symbol := slider.members[0].toSymbol

/-- The thunk has two variables of one name, and the setter declares the name of its context. -/
theorem not_variables_apart_slider :
    ((sliderRegistry.sets slider false).values.map (·.overloads) = [[sliderMove]] ∧ NamedApart sliderMove.parameters ∧
      (sliderRegistry.vocabulary.thunk "Slider" sliderMove).map Thunk.variables = .ok ["param1", "param1"]) ∧
    sliderRegistry.exposesProperties slider = true ∧ sliderRegistry.isProperty sliderContext = true ∧
      (sliderRegistry.vocabulary.setter? "Slider" sliderContext).map (·.map (·.read.variableName)) = .ok (some "ctx") := by
  decide +kernel

/-- A function whose first parameter has a reserved name and whose second has none. -/
def sliderTurn : Overload where
  functionName := "Slider_Turn_int_float"
  function := { name := "Turn", type := "void", parameters := [{ type := "int", name := "ctx" }, { type := "float" }] }

theorem variables_apart_iff_slider : NamedApart sliderTurn.parameters ∧ VariablesApart sliderTurn.parameters ∧
    ∃ t s, sliderRegistry.vocabulary.thunk "Slider" sliderTurn = .ok t ∧ t.variables = ["ctx_", "param1"] ∧
      sliderRegistry.vocabulary.setter? "Slider" { name := "value", type := "int" } = .ok (some s) ∧
      s.read.variableName ∉ setterNames := by
  have hnamed : NamedApart sliderTurn.parameters := by decide
  have hthunk : (sliderRegistry.vocabulary.thunk "Slider" sliderTurn).map Thunk.variables = .ok ["ctx_", "param1"] := by
    decide +kernel
  have hsetter : (sliderRegistry.vocabulary.setter? "Slider" { name := "value", type := "int" }).map (·.map (·.name)) =
      .ok (some "Slider_Set_value") := by
    decide +kernel
  obtain ⟨t, ht, hvariables⟩ := map_eq_ok.1 hthunk
  obtain ⟨s?, hs, hname⟩ := map_eq_ok.1 hsetter
  obtain ⟨s, rfl, -⟩ := Option.map_eq_some_iff.1 hname
  obtain ⟨hthunks, hsetters⟩ := variables_apart_iff sliderRegistry.vocabulary "Slider"
  refine ⟨hnamed, ((hthunks _ t ht).2.2 hnamed).1 ?_, t, s, ht, hvariables, hs, ((hsetters _ s hs).2).2 (by decide)⟩
  rw [hvariables]
  decide

end ScriptGlue
