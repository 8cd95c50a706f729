import ScriptGlue.Proofs.Completion
import ScriptGlue.Proofs.InputOrder

/-!
# Steps on current documentation

The steps of a generator can be called in any order, again and again. A registry should be built only from documentation
that the last load read to its end, and bindings should be those of a registry built from it since. `Standing` follows the
calls and tells what is so at hand, and with it what a step should answer.

A load leaves behind what it has read even if it fails, and it leaves the registry alone. **`answers_iff`** says which
answers are as they should be all the same: registries as long as the last load has not failed, and bindings unless the
registry at hand is an older one.
-/

namespace ScriptGlue

open ScriptGlue.Files

/-! ### Calls -/

/-- A call to a generator, or a change that something else makes to the files. -/
inductive StepCall where
  | load (directory : String)
  | buildRegistry (requested : List String) (sourceRoot : Option String)
  | sources
  | change (tree : Tree)

/-- What is at hand after a call. -/
def StepCall.after (w : Workspace) : StepCall → Workspace
  | load directory => ((Step.load directory).after w).2
  | buildRegistry requested sourceRoot => ((Step.buildRegistry requested sourceRoot).after w).2
  | sources => (Step.sources.after w).2
  | change tree => { w with tree }

/-- What the calls so far amount to. -/
structure Standing where
  /-- What the last load came to. -/
  lastLoad? : Option (Except Failure Graph) := none
  /-- The registry that was built last from the documentation of the last load. -/
  current? : Option Registry := none
  /-- A registry has been built at some time. -/
  hasBuilt : Bool := false

namespace Standing

/-- The documentation that may be used: that of the last load, if it was read to its end. -/
def loaded? (s : Standing) : Option Graph := s.lastLoad?.bind Except.toOption

/-- What building a registry should come to. -/
def registry (s : Standing) (w : Workspace) (requested : List String) (sourceRoot : Option String) :
    Except Failure Registry :=
  match s.loaded? with
  | none => .error .notLoaded
  | some g => (Headers.scan w.tree sourceRoot w.config.headerPrefixes).outcome.map fun headers =>
      (Registry.build w.config headers g.compounds requested).value

/-- What asking for the bindings should come to. -/
def sources (s : Standing) : Except Failure (OrderedMap String) :=
  match s.current? with
  | none => .error .noRegistry
  | some r => r.sources.outcome

/-- What the calls amount to after one more. -/
def after (w : Workspace) (s : Standing) : StepCall → Standing
  | .load directory => { s with lastLoad? := some ((Step.load directory).after w).1, current? := none }
  | .buildRegistry requested sourceRoot =>
    { s with
      current? := (s.registry w requested sourceRoot).toOption.or s.current?
      hasBuilt := s.hasBuilt || ((Step.buildRegistry requested sourceRoot).after w).1.isOk }
  | .sources | .change _ => s

end Standing

/-- What is at hand after some calls to a fresh generator, and what the calls amount to. -/
def afterCalls (config : Config) (tree : Tree) (calls : List StepCall) : Workspace × Standing :=
  calls.foldl (fun (w, s) call => (call.after w, s.after w call)) ({ config, tree }, {})

/-! ### Failures of the steps -/

/-- Headers are not looked for before documentation is there, so their absence is never put down to it. -/
theorem Files.Headers.outcome_scan_ne (t : Tree) (root : Option String) (preferred : List String) :
    (scan t root preferred).outcome ≠ .error .notLoaded := by
  unfold scan
  split
  · intro h
    cases h
  · next root _ =>
    rw [Attempt.outcome_bind, Attempt.outcome_except]
    cases t.directory? (Path.ofString root) with
    | error e =>
      intro h
      cases h
    | ok here? =>
      intro h
      cases here? <;> cases h

/-- Bindings fail over types and spellings only. -/
theorem Registry.outcome_sources_ne (r : Registry) : r.sources.outcome ≠ .error .noRegistry := by
  have hfiles : Hinges (r.bindable.mapM r.fileOf) _ _ := Hinges.mapM fun entry _ => (r.hinges_unitOf entry.2).map _
  intro h
  rw [sources, outcome_sourcesOf] at h
  have herror : r.bindable.mapM r.fileOf = .error .noRegistry := by
    cases hmade : r.bindable.mapM r.fileOf with
    | ok files =>
      rw [hmade] at h
      cases h
    | error e =>
      rw [hmade] at h
      cases h
      rfl
  rcases hfiles.of_error _ herror with ⟨htype, -⟩ | ⟨hspelling, -⟩
  · exact htype
  · exact hspelling

/-! ### What calls leave behind -/

/-- What a load leaves behind: the documentation as far as it was read. -/
inductive Leaves : Option (Except Failure Graph) → Option Graph → Prop
  | unloaded : Leaves none none
  | loaded (g : Graph) : Leaves (some (.ok g)) (some g)
  | failed (e : Failure) (g : Graph) : Leaves (some (.error e)) (some g)

/-- What is at hand fits what the calls amount to. -/
structure Standing.Fits (s : Standing) (w : Workspace) : Prop where
  graph? : Leaves s.lastLoad? w.graph?
  built? : w.built?.isSome = s.hasBuilt
  current : ∀ r, s.current? = some r → w.built? = some r ∧ s.loaded?.isSome = true

/-- A registry that is built takes the place of the one at hand. -/
theorem Step.workspace_after_buildRegistry (requested : List String) (sourceRoot : Option String) (w : Workspace) :
    ((buildRegistry requested sourceRoot).after w).2 =
      { w with built? := ((buildRegistry requested sourceRoot).after w).1.toOption.or w.built? } := by
  rw [after_buildRegistry]
  obtain ⟨config, tree, graph?, built?⟩ := w
  dsimp only
  cases graph? with
  | none => rfl
  | some g =>
    cases (Headers.scan tree sourceRoot config.headerPrefixes).outcome with
    | ok headers => rfl
    | error e => rfl

namespace Standing.Fits

variable {s : Standing} {w : Workspace} (h : s.Fits w)

include h

/-- A registry is built as it should be just if the last load has not failed. -/
theorem registry_iff (requested : List String) (sourceRoot : Option String) :
    ((Step.buildRegistry requested sourceRoot).after w).1 = s.registry w requested sourceRoot ↔
      ∀ e, s.lastLoad? ≠ some (.error e) := by
  have hgraph := h.graph?
  have hscan := Headers.outcome_scan_ne w.tree sourceRoot w.config.headerPrefixes
  rw [Step.after_buildRegistry, registry, loaded?]
  generalize s.lastLoad? = lastLoad? at hgraph
  generalize w.graph? = graph? at hgraph
  cases hgraph with
  | unloaded => exact iff_of_true rfl nofun
  | loaded g =>
    refine iff_of_true ?_ nofun
    cases (Headers.scan w.tree sourceRoot w.config.headerPrefixes).outcome <;> rfl
  | failed e g =>
    refine iff_of_false ?_ fun hnot => hnot e rfl
    -- the registry of what had been read, or a refusal of the file system
    intro heq
    cases hheaders : (Headers.scan w.tree sourceRoot w.config.headerPrefixes).outcome with
    | ok headers =>
      rw [hheaders] at heq
      cases heq
    | error failure =>
      rw [hheaders] at heq hscan
      cases heq
      exact hscan rfl

theorem sources_iff : (Step.sources.after w).1 = s.sources ↔ (s.hasBuilt = true → s.current?.isSome = true) := by
  rw [← h.built?]
  cases hbuilt : w.built? with
  | none =>
    have hnone : s.current? = none := by
      cases hcurrent : s.current? with
      | none => rfl
      | some r =>
        have hsome := (h.current r hcurrent).1
        rw [hbuilt] at hsome
        cases hsome
    have hsources : Step.sources.after w = (.error .noRegistry, w) := by
      rw [Step.sources, Step.after_bind, Step.after_get]
      dsimp only
      rw [hbuilt]
      exact Step.after_throw _ w
    rw [hsources, Standing.sources, hnone]
    exact iff_of_true rfl fun hbuilt => absurd hbuilt Bool.false_ne_true
  | some r =>
    rw [Step.after_sources w hbuilt, Standing.sources]
    cases hcurrent : s.current? with
    | none => exact iff_of_false r.outcome_sources_ne fun hnot => Bool.false_ne_true (hnot rfl)
    | some r' =>
      have hsome := (h.current r' hcurrent).1
      rw [hbuilt, Option.some.injEq] at hsome
      exact iff_of_true (congrArg (fun r => r.sources.outcome) hsome) fun _ => rfl

theorem load (directory : String) : (s.after w (.load directory)).Fits ((StepCall.load directory).after w) := by
  have hbuilt := h.built?
  rw [StepCall.after, Standing.after, Step.after_load]
  obtain ⟨g, failure?⟩ := (Graph.addDirectory { ignoredTokens := w.config.ignoredTypeTokens } w.tree directory true).value
  cases failure? with
  | none => exact ⟨.loaded g, hbuilt, nofun⟩
  | some failure => exact ⟨.failed failure g, hbuilt, nofun⟩

theorem buildRegistry (requested : List String) (sourceRoot : Option String) :
    (s.after w (.buildRegistry requested sourceRoot)).Fits ((StepCall.buildRegistry requested sourceRoot).after w) := by
  have hanswer := h.registry_iff requested sourceRoot
  rw [StepCall.after, Standing.after, Step.workspace_after_buildRegistry]
  generalize ((Step.buildRegistry requested sourceRoot).after w).1 = result at hanswer
  refine ⟨h.graph?, ?_, fun r hr => ?_⟩
  · rw [← h.built?]
    cases result <;> cases w.built? <;> rfl
  · cases hregistry : s.registry w requested sourceRoot with
    | ok r' =>
      have hloaded : s.loaded?.isSome = true := by
        rw [registry] at hregistry
        split at hregistry
        · cases hregistry
        · next hsome => rw [hsome]; rfl
      have hsame : result = .ok r' := by
        rw [hanswer.2, hregistry]
        intro e he
        rw [loaded?, he] at hloaded
        cases hloaded
      rw [hregistry] at hr
      cases hr
      rw [hsame]
      exact ⟨rfl, hloaded⟩
    | error e =>
      rw [hregistry] at hr
      obtain ⟨hbuilt, hloaded⟩ := h.current r hr
      have hsame : result = .error e := by
        rw [hanswer.2, hregistry]
        intro e he
        rw [loaded?, he] at hloaded
        cases hloaded
      rw [hsame]
      exact ⟨hbuilt, hloaded⟩

/-- **Every call leaves behind what it amounts to.** -/
theorem after (call : StepCall) : (s.after w call).Fits (call.after w) := by
  cases call with
  | load directory => exact h.load directory
  | buildRegistry requested sourceRoot => exact h.buildRegistry requested sourceRoot
  | sources =>
    have hsame : (Step.sources.after w).2 = w := by
      rw [Step.sources, Step.after_bind, Step.after_get]
      dsimp only
      cases w.built? <;> rfl
    rw [StepCall.after, hsame]
    exact h
  | change tree => exact ⟨h.graph?, h.built?, h.current⟩

end Standing.Fits

theorem fits_afterCalls (config : Config) (tree : Tree) (calls : List StepCall) :
    (afterCalls config tree calls).2.Fits (afterCalls config tree calls).1 := by
  induction calls using List.reverseRecOn with
  | nil => exact ⟨.unloaded, rfl, nofun⟩
  | append_singleton calls call ih =>
    rw [afterCalls, List.foldl_append]
    exact ih.after call

/-- **Which answers stand on current documentation.** After any calls a registry is built from the documentation of the
last load, or refused without any, just if that load has not failed; and the bindings are those of a registry built from
it since, or refused without one, just if there is one or none has ever been built. -/
theorem answers_iff (config : Config) (tree : Tree) (calls : List StepCall) :
    let w := (afterCalls config tree calls).1
    let s := (afterCalls config tree calls).2
    (∀ requested sourceRoot,
      ((Step.buildRegistry requested sourceRoot).after w).1 = s.registry w requested sourceRoot ↔
        ∀ e, s.lastLoad? ≠ some (.error e)) ∧
    ((Step.sources.after w).1 = s.sources ↔ (s.hasBuilt = true → s.current?.isSome = true)) :=
  ⟨(fits_afterCalls config tree calls).registry_iff, (fits_afterCalls config tree calls).sources_iff⟩

/-- A directory with the documentation of one class. -/
def pumpTree : Tree :=
  Tree.ofFiles ["work"]
    [("xml/pump.xml", "<doxygen><compounddef kind='class'><compoundname>Pump</compoundname></compounddef></doxygen>")]

/-- The second load finds no directory. -/
def pumpCalls : List StepCall := [.load "xml", .buildRegistry [] none, .load "missing"]

/-- After a load that fails a registry is built from what it has left, and the bindings are those of what was loaded
before, though both should be refused. -/
theorem not_refused_pump :
    let w := (afterCalls .default pumpTree pumpCalls).1
    let s := (afterCalls .default pumpTree pumpCalls).2
    s.lastLoad?.map (·.map fun _ => ()) = some (.error (.missingDirectory "missing")) ∧
    (s.registry w [] none).map (fun _ => ()) = .error .notLoaded ∧
    ((Step.buildRegistry [] none).after w).1.map (·.names) = .ok [] ∧
    s.sources.map (fun _ => ()) = .error .noRegistry ∧
    (Step.sources.after w).1.map (·.keys) = .ok ["PumpBindings.cpp"] := by
  decide +kernel

end ScriptGlue
