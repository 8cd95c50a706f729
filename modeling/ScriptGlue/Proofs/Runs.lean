import ScriptGlue.Proofs.Documents

/-!
# Runs

A run is made of steps, each of which finds what the steps before it have left at hand. `bindingsOf` is a run without
its files: it goes from documents to bindings at once. **`after_steps`** says that the steps come to the same, and
`outcome_bindingsOf` what that is.
-/

namespace ScriptGlue

open ScriptGlue.Files

/-- A run from its documents to the bindings of the classes that get any. -/
def bindingsOf (config : Config) (headers : Headers) (requested : List String) (ds : List Document) :
    Attempt (OrderedMap String) := do
  let (g, failure?) ← ExceptT.lift (Graph.addDocuments { ignoredTokens := config.ignoredTypeTokens } ds)
  match failure? with
  | some failure => throw failure
  | none =>
    let (g, _) ← ExceptT.lift g.groupOverloads
    let r ← ExceptT.lift (Registry.build config headers g.compounds requested)
    r.sources

section

variable (config : Config) (headers : Headers) (requested : List String) (ds : List Document)

theorem outcome_bindingsOf :
    (bindingsOf config headers requested ds).outcome =
      match (Graph.addDocuments { ignoredTokens := config.ignoredTypeTokens } ds).value with
      | (g, none) => (Registry.build config headers g.compounds requested).value.sources.outcome
      | (_, some failure) => .error failure := by
  have hread : Attempt.outcome (ExceptT.lift (Graph.addDocuments { ignoredTokens := config.ignoredTypeTokens } ds)) =
      .ok (Graph.addDocuments { ignoredTokens := config.ignoredTypeTokens } ds).value := rfl
  rw [bindingsOf, Attempt.outcome_bind, hread, ok_bind]
  obtain ⟨g, failure?⟩ := (Graph.addDocuments { ignoredTokens := config.ignoredTypeTokens } ds).value
  cases failure? <;> rfl

/-- A run succeeds only if all documents can be read, and then depends on what they describe. -/
theorem outcome_bindingsOf_of_readable (h : ds.all (·.isReadable config.ignoredTypeTokens) = true) :
    (bindingsOf config headers requested ds).outcome =
      (Registry.build config headers (described config.ignoredTypeTokens ds) requested).value.sources.outcome := by
  have hspec := Graph.addDocuments_spec { ignoredTokens := config.ignoredTypeTokens } ds
  rw [outcome_bindingsOf]
  generalize (Graph.addDocuments { ignoredTokens := config.ignoredTypeTokens } ds).value = result at hspec
  obtain ⟨g, failure?⟩ := result
  rw [h, if_pos rfl, Graph.Adds] at hspec
  cases failure? with
  | none =>
    obtain ⟨cs, hcs, hcompounds, -⟩ := hspec
    cases hcs
    exact congrArg (fun cs => (Registry.build config headers cs requested).value.sources.outcome) hcompounds
  | some failure => cases hspec

theorem outcome_bindingsOf_of_unreadable (h : ds.all (·.isReadable config.ignoredTypeTokens) = false) :
    ∃ failure, (bindingsOf config headers requested ds).outcome = .error failure := by
  have hspec := Graph.addDocuments_spec { ignoredTokens := config.ignoredTypeTokens } ds
  rw [outcome_bindingsOf]
  generalize (Graph.addDocuments { ignoredTokens := config.ignoredTypeTokens } ds).value = result at hspec
  obtain ⟨g, failure?⟩ := result
  rw [h, if_neg Bool.false_ne_true, Graph.Adds] at hspec
  cases failure? with
  | none =>
    obtain ⟨cs, hcs, -⟩ := hspec
    cases hcs
  | some failure => exact ⟨failure, rfl⟩

end

/-! ### Steps -/

namespace Step

variable {α β : Type}

/-- What a step comes to in a workspace, with the workspace after it. -/
def after (x : Step α) (w : Workspace) : Except Failure α × Workspace := (x.run.run w).value

theorem after_pure (a : α) (w : Workspace) : (pure a : Step α).after w = (.ok a, w) := rfl

theorem after_throw (e : Failure) (w : Workspace) : (throw e : Step α).after w = (.error e, w) := rfl

theorem after_bind (x : Step α) (f : α → Step β) (w : Workspace) :
    (x >>= f).after w =
      match x.after w with
      | (.ok a, w') => (f a).after w'
      | (.error e, w') => (.error e, w') := by
  have hrun : (x >>= f).after w = ((ExceptT.bindCont f (x.after w).1).run (x.after w).2).value := rfl
  rw [hrun]
  obtain ⟨result, w'⟩ := x.after w
  cases result <;> rfl

theorem after_get (w : Workspace) : (get : Step Workspace).after w = (.ok w, w) := rfl

theorem after_set (w w' : Workspace) : (set w' : Step PUnit).after w = (.ok (), w') := rfl

theorem after_ofAttempt (x : Attempt α) (w : Workspace) : (ofAttempt x).after w = (x.outcome, w) := rfl

theorem after_load (directory : String) (w : Workspace) :
    (load directory).after w =
      match (Graph.addDirectory { ignoredTokens := w.config.ignoredTypeTokens } w.tree directory true).value with
      | (g, none) => (.ok g, { w with graph? := some g })
      | (g, some failure) => (.error failure, { w with graph? := some g }) := by
  have hread : Attempt.outcome (ExceptT.lift
      (Graph.addDirectory { ignoredTokens := w.config.ignoredTypeTokens } w.tree directory true)) =
        .ok (Graph.addDirectory { ignoredTokens := w.config.ignoredTypeTokens } w.tree directory true).value := rfl
  rw [load, after_bind, after_get]
  dsimp only
  rw [after_bind, after_ofAttempt, hread]
  obtain ⟨g, failure?⟩ := (Graph.addDirectory { ignoredTokens := w.config.ignoredTypeTokens } w.tree directory true).value
  dsimp only
  rw [after_bind, after_set]
  cases failure? with
  | none => exact after_pure g _
  | some failure => exact after_throw failure _

theorem after_buildRegistry (requested : List String) (sourceRoot : Option String) (w : Workspace) :
    (buildRegistry requested sourceRoot).after w =
      match w.graph?, (Headers.scan w.tree sourceRoot w.config.headerPrefixes).outcome with
      | none, _ => (.error .notLoaded, w)
      | some g, .ok headers =>
        (.ok (Registry.build w.config headers g.compounds requested).value,
          { w with built? := some (Registry.build w.config headers g.compounds requested).value })
      | some _, .error e => (.error e, w) := by
  rw [buildRegistry, after_bind, after_get]
  dsimp only
  cases w.graph? with
  | none => rfl
  | some g =>
    dsimp only
    rw [after_bind, after_ofAttempt, Attempt.outcome_bind]
    cases (Headers.scan w.tree sourceRoot w.config.headerPrefixes).outcome <;> rfl

theorem after_sources (w : Workspace) {r : Registry} (h : w.built? = some r) : sources.after w = (r.sources.outcome, w) := by
  rw [sources, after_bind, after_get]
  dsimp only
  rw [h]
  exact after_ofAttempt r.sources w

end Step

theorem Graph.value_addDirectory (g : Graph) {t : Tree} {directory : String} (recursive : Bool) {here : List String}
    (hhere : t.directory? (Path.ofString directory) = .ok (some here)) :
    (g.addDirectory t directory recursive).value =
      match (g.addFiles t here (Path.ofString directory) (t.matching here recursive ".xml")).value with
      | (g', none) => (g'.groupOverloads.value.1, none)
      | (g', some failure) => (g', some failure) := by
  unfold addDirectory
  dsimp only
  rw [hhere]
  dsimp only
  rw [Logged.value_bind, Logged.value_bind]
  obtain ⟨g', failure?⟩ := (g.addFiles t here (Path.ofString directory) (t.matching here recursive ".xml")).value
  cases failure? <;> rfl

/-- **The steps of a run come to its bindings**: the documents are the files in the directory, in the order of their
paths. -/
theorem after_steps {w : Workspace} {directory : String} {here : List String} {contents : List String → String}
    {requested : List String} {sourceRoot : Option String} {headers : Headers}
    (hhere : w.tree.directory? (Path.ofString directory) = .ok (some here))
    (hfiles : ∀ inner ∈ w.tree.matching here true ".xml", w.tree.at? (here ++ inner) = some (.file (contents inner)))
    (hheaders : (Headers.scan w.tree sourceRoot w.config.headerPrefixes).outcome = .ok headers) :
    (Step.after (do
      let _ ← Step.load directory
      let _ ← Step.buildRegistry requested sourceRoot
      Step.sources) w).1 =
    (bindingsOf w.config headers requested ((w.tree.matching here true ".xml").map fun inner =>
      .file ((Path.ofString directory).append inner).toString (contents inner))).outcome := by
  rw [outcome_bindingsOf, ← Graph.addFiles_eq_addDocuments _ hfiles, Step.after_bind, Step.after_load,
    Graph.value_addDirectory _ true hhere]
  obtain ⟨g, failure?⟩ := (Graph.addFiles w.tree here (Path.ofString directory)
    { ignoredTokens := w.config.ignoredTypeTokens } (w.tree.matching here true ".xml")).value
  cases failure? with
  | some failure => rfl
  | none =>
    dsimp only
    rw [Step.after_bind, Step.after_buildRegistry]
    dsimp only
    rw [hheaders]
    dsimp only
    rw [Step.after_sources _ rfl]
    rfl

end ScriptGlue
