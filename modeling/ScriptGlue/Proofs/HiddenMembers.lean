import ScriptGlue.Proofs.Completion

/-!
# Hidden members

A member that is not public or is marked as hidden ought to leave no trace: the unit of its class should be the
one of the class without it. Functions and variables keep to this on every path (`outcome_of_no_event`).
Events do not: the path that emits their wrappers asks who may use them and not whether they are hidden. So
**`text_hidden_iff`**: a hidden member is traceless unless it is an event whose wrapper is emitted.
-/

namespace ScriptGlue

open ScriptGlue.Text ScriptGlue.Cpp

/-- The member is kept from scripts: it is not public, or its description says so. -/
def Symbol.isHidden (m : Symbol) : Bool :=
  m.visibility != .public || m.comments.any (occursIn hiddenMark) || occursIn hiddenMark m.returnComment

namespace Compound

/-- The compound with other members. -/
def withMembers (c : Compound) (ms : List Member) : Compound := { c with members := ms }

@[simp] theorem members_withMembers (c : Compound) (ms : List Member) : (c.withMembers ms).members = ms := rfl

@[simp] theorem className_withMembers (c : Compound) (ms : List Member) :
    (c.withMembers ms).className = c.className := rfl

end Compound

namespace Registry

variable {r : Registry}

/-! ### The filters -/

theorem isScriptable_of_isHidden {m : Symbol} (h : m.isHidden = true) (hpublic : m.visibility = .public) :
    r.isScriptable m = false := by
  simp only [Symbol.isHidden, hpublic, bne_self_eq_false, Bool.false_or, Bool.or_eq_true] at h
  rcases h with h | h <;> simp [isScriptable, h]

theorem mentions_of_isHidden {m : Symbol} (h : m.isHidden = true) : r.mentions m = [] := by
  by_cases hpublic : m.visibility = .public
  · simp [mentions, isScriptable_of_isHidden h hpublic]
  · simp [mentions, Symbol.isCandidateFunction, isProperty, Symbol.isCandidateVariable, hpublic]

theorem binds_of_isHidden (c : Compound) (isStatic : Bool) {m : Symbol} (h : m.isHidden = true) :
    r.binds c isStatic m = false := by
  by_cases hpublic : m.visibility = .public
  · simp [binds, functionRejection?, isScriptable_of_isHidden h hpublic]
  · simp [binds, Symbol.isCandidateFunction, hpublic]

theorem isProperty_of_isHidden {m : Symbol} (h : m.isHidden = true) : r.isProperty m = false := by
  by_cases hpublic : m.visibility = .public
  · simp [isProperty, variableRejection?, isScriptable_of_isHidden h hpublic]
  · simp [isProperty, Symbol.isCandidateVariable, hpublic]

/-- What a hidden member contributes beside functions is an event. -/
theorem contribution?_of_isHidden {c : Compound} {m : Symbol} (h : m.isHidden = true) (hevent : r.emitsEvent c m = false) :
    r.contribution? c m = .ok none := by
  simp [contribution?, hevent, isProperty_of_isHidden h]

/-! ### Paths that leave no trace -/

section

variable {c : Compound} {before after : List Member} {m : Member}

theorem mentionedClasses_of_isHidden (h : m.isHidden = true) :
    r.mentionedClasses (c.withMembers (before ++ m :: after)) = r.mentionedClasses (c.withMembers (before ++ after)) := by
  simp [mentionedClasses, mentions_of_isHidden h]

theorem dependencies_of_isHidden (h : m.isHidden = true) :
    r.dependencies (c.withMembers (before ++ m :: after)) = r.dependencies (c.withMembers (before ++ after)) := by
  rw [dependencies, mentionedClasses_of_isHidden h, dependencies]

theorem finalizerDependencies_of_isHidden (h : m.isHidden = true) :
    r.finalizerDependencies (c.withMembers (before ++ m :: after)) =
      r.finalizerDependencies (c.withMembers (before ++ after)) := by
  rw [finalizerDependencies, mentionedClasses_of_isHidden h, finalizerDependencies]

theorem sets_of_isHidden (h : m.isHidden = true) (isStatic : Bool) :
    r.sets (c.withMembers (before ++ m :: after)) isStatic = r.sets (c.withMembers (before ++ after)) isStatic := by
  have hsame : ∀ ms, r.consider (c.withMembers ms) isStatic = r.consider c isStatic := fun ms => rfl
  have hskip : ∀ sets, r.consider c isStatic sets m.toSymbol = sets := fun sets => by
    simp [consider, binds_of_isHidden c isStatic h]
  simp [sets_eq, hsame, hskip]

/-- Whatever the members contribute, the rest of the unit is the same without a hidden one. -/
theorem assemble_of_isHidden (h : m.isHidden = true) (hkind : m.kind ≠ "enum") (ks : List Contribution)
    (instanceParts staticParts : List UnitPart) :
    r.assemble (c.withMembers (before ++ m :: after)) ks instanceParts staticParts =
      r.assemble (c.withMembers (before ++ after)) ks instanceParts staticParts := by
  have hconstants : (before ++ m :: after).filter (·.kind == "enum") = (before ++ after).filter (·.kind == "enum") := by
    simp [hkind]
  simp only [assemble, sets_of_isHidden h, ownFinalizer, definedFirst, finalizerDependencies_of_isHidden h,
    idDependencies, dependencyHeaders, dependencies_of_isHidden h, exposure, Compound.members_withMembers, hconstants]
  rfl

/-! ### Contributions of several members -/

theorem contributions_append (ms ms' : List Symbol) :
    r.contributions c (ms ++ ms') =
      r.contributions c ms >>= fun ks => (r.contributions c ms').map fun ks' => ks ++ ks' := by
  unfold contributions
  rw [List.mapM_append]
  cases ms.mapM (r.contribution? c) with
  | error e => rfl
  | ok found =>
    cases ms'.mapM (r.contribution? c) with
    | error e => rfl
    | ok found' => simp [Except.map, List.reduceOption_append, pure, Except.pure]

theorem contributions_cons_of_none {m : Symbol} (h : r.contribution? c m = .ok none) (ms : List Symbol) :
    r.contributions c (m :: ms) = r.contributions c ms := by
  unfold contributions
  rw [List.mapM_cons, h]
  cases ms.mapM (r.contribution? c) <;> rfl

theorem contributions_cons_of_some {m : Symbol} {k : Contribution} (h : r.contribution? c m = .ok (some k))
    (ms : List Symbol) : r.contributions c (m :: ms) = (r.contributions c ms).map fun ks => k :: ks := by
  unfold contributions
  rw [List.mapM_cons, h]
  cases ms.mapM (r.contribution? c) <;> rfl

theorem contributionsOf_withMembers (ms : List Member) :
    r.contributionsOf (c.withMembers ms) =
      if r.exposesProperties c then r.contributions c (ms.map (·.toSymbol)) else .ok [] := rfl

/-- **Functions and variables leave no trace.** Without an event among what it emits, a hidden member can be taken
out without any difference to the unit or to a failure. -/
theorem outcome_of_no_event (h : m.isHidden = true) (hkind : m.kind ≠ "enum")
    (hevent : (r.exposesProperties c && r.emitsEvent c m.toSymbol) = false) :
    (r.unitOf (c.withMembers (before ++ m :: after))).outcome =
      (r.unitOf (c.withMembers (before ++ after))).outcome := by
  have hcontributions : r.contributionsOf (c.withMembers (before ++ m :: after)) =
      r.contributionsOf (c.withMembers (before ++ after)) := by
    rw [contributionsOf_withMembers, contributionsOf_withMembers]
    cases hexposes : r.exposesProperties c with
    | false => rfl
    | true =>
      rw [hexposes, Bool.true_and] at hevent
      simp only [if_true, List.map_append, List.map_cons, contributions_append,
        contributions_cons_of_none (contribution?_of_isHidden h hevent)]
  simp only [outcome_unitOf, hcontributions, sets_of_isHidden h, assemble_of_isHidden h hkind]
  rfl

end

/-! ### Lengths of parts -/

/-- The length of the text of some parts. -/
def length (parts : List UnitPart) : Nat := (String.join (parts.map fun part => block part.lines)).length

@[simp] theorem length_nil : length [] = 0 := rfl

@[simp] theorem length_cons (part : UnitPart) (parts : List UnitPart) :
    length (part :: parts) = (block part.lines).length + length parts := by
  rw [length, List.map_cons, String.join_cons, String.length_append, length]

@[simp] theorem length_append (parts later : List UnitPart) : length (parts ++ later) = length parts + length later := by
  simp [length]

/-- The text of a unit is as long as its parts and what stands around them. -/
theorem length_text (u : BindingsUnit) : u.text.length = { u with parts := [] }.text.length + length u.parts := by
  have hempty : (String.join []).length = 0 := rfl
  simp only [BindingsUnit.text, BindingsUnit.declarations, unitText, String.length_append, List.map_nil, hempty, length]
  omega

theorem length_block_le {lines lines' : List String} (h : lines.Sublist lines') :
    (block lines).length ≤ (block lines').length := by
  simp only [block, String.length_join, List.map_map]
  induction h with
  | slnil => exact Nat.le_refl _
  | cons line h ih => exact Nat.le_add_left_of_le ih
  | cons_cons line h ih => exact Nat.add_le_add_left ih _

theorem length_block_pos {lines : List String} (h : lines ≠ []) : 0 < (block lines).length := by
  cases lines with
  | nil => exact absurd rfl h
  | cons line lines =>
    have hend : "\n".length = 1 := rfl
    simp only [block, List.map_cons, String.join_cons, String.length_append]
    omega

theorem length_lines_le {e e' : Exposure} (h : e.statements.Sublist e'.statements) (hname : e.className = e'.className) :
    (block e.lines).length ≤ (block e'.lines).length := by
  refine length_block_le ?_
  rw [Exposure.lines, Exposure.lines, Exposure.name, Exposure.name, hname]
  exact ((List.Sublist.refl _).append (h.map _)).append (List.Sublist.refl _)

/-- A class with fewer properties is exposed by fewer statements. -/
theorem statements_sublist (c : Compound) (instances : OrderedMap OverloadSet) (own statics : Option FunctionList)
    {properties properties' : List Property} (h : properties.Sublist properties') :
    (exposure c instances own statics properties).statements.Sublist
      (exposure c instances own statics properties').statements := by
  have hall := h.append (List.Sublist.refl (accessorProperties c.className instances))
  unfold Exposure.statements
  refine (List.Sublist.append (List.Sublist.refl _) ?_).append (List.Sublist.refl _)
  simp only [exposure]
  by_cases hfew : ((properties ++ accessorProperties c.className instances).isEmpty && own.isNone) = true
  · rw [if_pos hfew]
    exact List.nil_sublist _
  · have hmany : ¬ ((properties' ++ accessorProperties c.className instances).isEmpty && own.isNone) = true := by
      simp only [Bool.and_eq_true, List.isEmpty_iff] at *
      rintro ⟨hnil, hown⟩
      rw [hnil, List.sublist_nil] at hall
      exact hfew ⟨hall, hown⟩
    rw [if_neg hfew, if_neg hmany]
    exact ((List.Sublist.refl _).append (hall.map _)).append (List.Sublist.refl _)

/-- A finalizer that is already defined spares at most its own text. -/
theorem length_partsOf_le (name : String) (defined : List String) (ks : List Contribution) :
    length (partsOf defined ks) ≤ length (partsOf (name :: defined) ks) + length [.finalizer name] := by
  induction ks generalizing defined with
  | nil => simp [partsOf]
  | cons k ks ih =>
    have hrest := ih (defined ++ k.needs?.toList)
    rw [partsOf, partsOf, Contribution.parts, Contribution.parts]
    cases hneeds : k.needs? with
    | none =>
      rw [hneeds] at hrest
      simp only [Option.elim_none, length_append] at *
      simp only [List.cons_append]
      omega
    | some other =>
      rw [hneeds] at hrest
      by_cases hdefined : other ∈ defined
      · simp only [Option.elim_some, finalizerPart, List.contains_eq_mem, hdefined, List.mem_cons_of_mem, decide_true,
          if_true, length_append, List.cons_append] at *
        omega
      · by_cases hname : other = name
        · -- here the finalizer is spared, and from here on it is defined either way
          subst hname
          have hcongr : partsOf (other :: defined ++ [other]) ks = partsOf (defined ++ [other]) ks :=
            partsOf_congr (by simp) ks
          simp only [Option.elim_some, Option.toList_some, hcongr, finalizerPart, List.contains_eq_mem, hdefined,
            List.mem_cons_self, decide_true, decide_false, Bool.false_eq_true, if_true, if_false, length_append,
            length_nil]
          omega
        · simp only [Option.elim_some, Option.toList_some, finalizerPart, List.contains_eq_mem, hdefined, List.mem_cons,
            hname, or_self, decide_false, Bool.false_eq_true, if_false, length_append, List.cons_append] at *
          omega

/-- The classes of a signal are longer than nothing. -/
theorem length_signalClasses_pos (s : Signal) : 0 < (block (UnitPart.signalClasses s).lines).length :=
  length_block_pos (List.cons_ne_nil _ _)

/-- The parts with a signal among the contributions are longer than those without it. -/
theorem length_partsOf_lt (s : Signal) (defined : List String) (ks later : List Contribution) :
    length (partsOf defined (ks ++ later)) < length (partsOf defined (ks ++ .ofSignal s :: later)) := by
  induction ks generalizing defined with
  | nil =>
    have hpos := length_signalClasses_pos s
    rw [List.nil_append, List.nil_append, partsOf, Contribution.parts]
    by_cases hdefined : s.wrapper ∈ defined
    · have hcongr : partsOf (defined ++ [s.wrapper]) later = partsOf defined later :=
        partsOf_congr (by simpa using hdefined) later
      simp only [Contribution.ofSignal, Option.elim_some, Option.toList_some, hcongr, length_append, length_cons]
      omega
    · have hcongr : partsOf (defined ++ [s.wrapper]) later = partsOf (s.wrapper :: defined) later :=
        partsOf_congr (by simp [or_comm]) later
      have hle := length_partsOf_le s.wrapper defined later
      simp only [Contribution.ofSignal, Option.elim_some, Option.toList_some, hcongr, finalizerPart,
        List.contains_eq_mem, hdefined, decide_false, Bool.false_eq_true, if_false, length_append, length_cons,
        length_nil] at *
      omega
  | cons k ks ih =>
    have hrest := ih (defined ++ k.needs?.toList)
    simp only [List.cons_append, partsOf, length_append]
    omega

/-- A unit with an event has a longer text than the one without it. -/
theorem length_text_lt (s : Signal) (c : Compound) (ks later : List Contribution)
    (instanceParts staticParts : List UnitPart) :
    (r.assemble c (ks ++ later) instanceParts staticParts).text.length <
      (r.assemble c (ks ++ .ofSignal s :: later) instanceParts staticParts).text.length := by
  rw [length_text, length_text (r.assemble c (ks ++ .ofSignal s :: later) _ _)]
  have hparts := length_partsOf_lt s (r.definedFirst c) ks later
  have hproperties : ((ks ++ later).map (·.property)).Sublist ((ks ++ .ofSignal s :: later).map (·.property)) :=
    ((List.Sublist.refl ks).append (List.sublist_cons_self _ _)).map _
  have hexposure := length_lines_le (statements_sublist c (r.sets c false)
    (functionList? (c.className ++ "_Functions") (r.sets c false).values)
    (functionList? (c.className ++ "_StaticFunctions") (r.sets c true).values) hproperties) rfl
  simp only [assemble, length_append, length_cons, length_nil, UnitPart.lines] at *
  omega

/-! ### Events -/

/-- An emitted event contributes its signal. -/
theorem contribution?_of_emitsEvent {c : Compound} {m : Symbol} (h : r.emitsEvent c m = true) :
    ∃ s, r.contribution? c m = .ok (some (.ofSignal s)) := by
  obtain ⟨-, htypes⟩ := r.of_emitsEvent h
  obtain ⟨s, hs⟩ := (r.vocabulary.hinges_signal c.className m (signalTypes m)).ok_of htypes trivial
  exact ⟨s, by rw [contribution?, if_pos h, hs]; rfl⟩

/-- **When a hidden member leaves no trace.** The text of a unit is the one of its class without the member unless
the member is an event whose wrapper is emitted; and then both texts come about or neither does. -/
theorem text_hidden_iff {c : Compound} {before after : List Member} {m : Member}
    (hkind : m.kind = "function" ∨ m.kind = "variable") (hhidden : m.isHidden = true) :
    (r.unitOf (c.withMembers (before ++ m :: after))).outcome.map BindingsUnit.text =
        (r.unitOf (c.withMembers (before ++ after))).outcome.map BindingsUnit.text ↔
      (r.exposesProperties c && r.emitsEvent c m.toSymbol) = false ∨
        ∃ e, (r.unitOf (c.withMembers (before ++ after))).outcome = .error e := by
  have henum : m.kind ≠ "enum" := by rcases hkind with h | h <;> rw [h] <;> decide
  cases hevent : r.exposesProperties c && r.emitsEvent c m.toSymbol with
  | false =>
    rw [outcome_of_no_event hhidden henum hevent]
    exact iff_of_true rfl (.inl rfl)
  | true =>
    obtain ⟨hexposes, hemits⟩ := Bool.and_eq_true_iff.1 hevent
    obtain ⟨s, hs⟩ := contribution?_of_emitsEvent hemits
    have hdispatch : ∀ ms, r.dispatchParts (c.withMembers ms) = r.dispatchParts c := fun ms => rfl
    simp only [outcome_unitOf, contributionsOf_withMembers, hexposes, if_true, List.map_append, List.map_cons,
      contributions_append, contributions_cons_of_some hs, hdispatch, sets_of_isHidden hhidden,
      assemble_of_isHidden hhidden henum]
    -- the two runs fail at the same step, if at all
    cases r.contributions c (before.map (·.toSymbol)) with
    | error e => exact iff_of_true rfl (.inr ⟨e, rfl⟩)
    | ok ks =>
      cases r.contributions c (after.map (·.toSymbol)) with
      | error e => exact iff_of_true rfl (.inr ⟨e, rfl⟩)
      | ok later =>
        cases r.dispatchParts c (r.sets (c.withMembers (before ++ after)) false).values with
        | error e => exact iff_of_true rfl (.inr ⟨e, rfl⟩)
        | ok instanceParts =>
          cases r.dispatchParts c (r.sets (c.withMembers (before ++ after)) true).values with
          | error e => exact iff_of_true rfl (.inr ⟨e, rfl⟩)
          | ok staticParts =>
            have hlength := length_text_lt (r := r) s (c.withMembers (before ++ after)) ks later instanceParts staticParts
            refine iff_of_false (fun heq => ?_) ?_
            · have htext := Except.ok.inj heq
              rw [htext] at hlength
              exact Nat.lt_irrefl _ hlength
            · rintro (h | ⟨e, he⟩)
              · cases h
              · cases he

/-- A member by which objects of its class count references. -/
def countingMarker : Member := { kind := "function", name := "URHO3D_OBJECT" }

/-- An event that its author keeps from scripts. -/
def hiddenEvent : Member := { kind := "variable", name := "Changed", type := "Signal0<void>", brief := "[noscript]" }

/-- A class with this event. -/
def watched : Compound := { kind := "class", name := "Scene", members := [countingMarker, hiddenEvent] }

/-- The registry of this class alone. -/
def watchedRegistry : Registry := (build .default { preferred := [] } [watched] []).value

theorem text_hidden_iff_watched :
    (hiddenEvent.kind = "function" ∨ hiddenEvent.kind = "variable") ∧ hiddenEvent.isHidden = true ∧
    ((watchedRegistry.unitOf (watched.withMembers ([countingMarker] ++ hiddenEvent :: []))).outcome.map BindingsUnit.text =
        (watchedRegistry.unitOf (watched.withMembers ([countingMarker] ++ []))).outcome.map BindingsUnit.text ↔
      (watchedRegistry.exposesProperties watched && watchedRegistry.emitsEvent watched hiddenEvent.toSymbol) = false ∨
        ∃ e, (watchedRegistry.unitOf (watched.withMembers ([countingMarker] ++ []))).outcome = .error e) :=
  ⟨.inr rfl, by decide +kernel, text_hidden_iff (.inr rfl) (by decide +kernel)⟩

/-- The wrapper of the event is emitted although the event is hidden. -/
theorem text_watched_ne :
    watchedRegistry.bindable.map (·.2) = [watched] ∧ hiddenEvent.isHidden = true ∧
    (watchedRegistry.unitOf watched).outcome.map BindingsUnit.text ≠
      (watchedRegistry.unitOf (watched.withMembers [countingMarker])).outcome.map BindingsUnit.text := by
  decide +kernel

end Registry

end ScriptGlue
