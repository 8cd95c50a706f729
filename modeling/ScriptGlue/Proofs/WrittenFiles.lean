import ScriptGlue.Proofs.FileTrees
import ScriptGlue.Proofs.InputOrder

/-!
# Files that a run writes

All bindings of a run are made before the first is written. So a run that fails before it writes changes no file, though
it may leave directories behind, and one whose documentation cannot be read changes nothing at all. A run that succeeds
leaves one file for each class that gets bindings, and all other files as they were. **`generate_keeps_files`** says so
for every tree.
-/

namespace ScriptGlue

open ScriptGlue.Files

namespace Step

variable {α β : Type}

/-! ### Steps one after the other -/

/-- A sequence succeeds when its first step and what follows it do. -/
theorem after_bind_eq_ok {x : Step α} {f : α → Step β} {w w' : Workspace} {b : β} (h : (x >>= f).after w = (.ok b, w')) :
    ∃ a u, x.after w = (.ok a, u) ∧ (f a).after u = (.ok b, w') := by
  rw [after_bind] at h
  generalize x.after w = first at h
  obtain ⟨result, u⟩ := first
  cases result with
  | ok a => exact ⟨a, u, rfl, h⟩
  | error e => cases h

theorem after_ofFiles (x : Except FileError α) (w : Workspace) : (ofFiles x).after w = (x.mapError .file, w) := by
  cases x <;> rfl

/-- A directory is made, or as much of the way to it as can be. -/
def makeDirectory (directory : Path) : Step Unit := do
  let w ← get
  let (tree, refusal?) := w.tree.makeDirectory directory
  set { w with tree }
  ofFiles (refusal?.elim (.ok ()) .error)

theorem after_makeDirectory (directory : Path) (w : Workspace) :
    (makeDirectory directory).after w =
      (((w.tree.makeDirectory directory).2.elim (.ok ()) .error : Except FileError Unit).mapError .file,
        { w with tree := (w.tree.makeDirectory directory).1 }) := by
  rw [makeDirectory, after_bind, after_get]
  dsimp only
  rw [after_bind, after_set]
  dsimp only
  rw [after_ofFiles]

/-- A run up to its bindings, before any of them is written. -/
def prepare (documentation output : String) (sourceRoot : Option String) (requested : List String) :
    Step (OrderedMap String) := do
  let _ ← load documentation
  let _ ← buildRegistry requested sourceRoot
  makeDirectory (Path.ofString output)
  sources

/-- The rest of a run. -/
def deliver (output : String) (made : OrderedMap String) : Step (OrderedMap String) := do
  let directory := Path.ofString output
  writeAll directory made.toList
  say .info ("Generated " ++ toString made.size ++ " bindings files in " ++ directory.toString)
  pure made

/-- A run makes all of its bindings before it writes any. -/
theorem after_generate (documentation output : String) (sourceRoot : Option String) (requested : List String) (w : Workspace) :
    (generate documentation output sourceRoot requested).after w =
      (prepare documentation output sourceRoot requested >>= deliver output).after w := by
  rw [generate, after_bind, after_bind (prepare documentation output sourceRoot requested), prepare,
    after_bind (load documentation)]
  obtain ⟨loaded, w⟩ := (load documentation).after w
  cases loaded with
  | error e => rfl
  | ok g =>
    dsimp only
    rw [after_bind, after_bind (buildRegistry requested sourceRoot)]
    obtain ⟨built, w⟩ := (buildRegistry requested sourceRoot).after w
    cases built with
    | error e => rfl
    | ok r =>
      dsimp only
      rw [after_bind, after_get, after_bind (makeDirectory (Path.ofString output)), after_makeDirectory]
      dsimp only
      rw [after_bind, after_set]
      dsimp only
      rw [after_bind, after_ofFiles]
      cases (w.tree.makeDirectory (Path.ofString output)).2 with
      | some refusal => rfl
      | none => exact after_bind sources (deliver output) _

/-! ### What each step does to the files -/

/-- The step makes directories at most. -/
def OnlyExtends (x : Step α) : Prop := ∀ w : Workspace, w.tree.Extends (x.after w).2.tree

theorem OnlyExtends.bind {x : Step α} {f : α → Step β} (hx : x.OnlyExtends) (hf : ∀ a, (f a).OnlyExtends) :
    (x >>= f).OnlyExtends := by
  intro w
  have hfirst := hx w
  rw [after_bind]
  generalize x.after w = first at hfirst
  obtain ⟨result, u⟩ := first
  cases result with
  | ok a => exact hfirst.trans (hf a u)
  | error e => exact hfirst

/-- Reading documentation changes nothing in the tree, even if it fails. -/
theorem tree_after_load (documentation : String) (w : Workspace) : ((load documentation).after w).2.tree = w.tree := by
  rw [after_load]
  split <;> rfl

theorem tree_after_buildRegistry (requested : List String) (sourceRoot : Option String) (w : Workspace) :
    ((buildRegistry requested sourceRoot).after w).2.tree = w.tree := by
  rw [after_buildRegistry]
  split <;> rfl

theorem tree_after_sources (w : Workspace) : (sources.after w).2 = w := by
  rw [sources, after_bind, after_get]
  dsimp only
  cases w.built? <;> rfl

theorem onlyExtends_prepare (documentation output : String) (sourceRoot : Option String) (requested : List String) :
    (prepare documentation output sourceRoot requested).OnlyExtends := by
  have hsame : ∀ {t t' : Tree}, t' = t → t.Extends t' := by
    rintro _ _ rfl
    exact .refl _
  refine OnlyExtends.bind (fun w => hsame (tree_after_load documentation w)) fun _ => ?_
  refine OnlyExtends.bind (fun w => hsame (tree_after_buildRegistry requested sourceRoot w)) fun _ => ?_
  refine OnlyExtends.bind (fun w => ?_) fun _ w => hsame (congrArg Workspace.tree (tree_after_sources w))
  rw [after_makeDirectory]
  dsimp only
  exact Tree.extends_makeDirectory w.tree (Path.ofString output)

theorem built?_after_writeAll (directory : Path) (files : List (String × String)) (w : Workspace) :
    ((writeAll directory files).after w).2.built? = w.built? := by
  induction files generalizing w with
  | nil => rfl
  | cons file files ih =>
    rw [writeAll, after_bind, after_get]
    dsimp only
    rw [after_bind, after_ofFiles]
    cases w.tree.write (directory.join (Path.ofString file.1)) file.2 with
    | error e => rfl
    | ok tree => exact ih { w with tree }

/-- **Files are written one by one, each in its own place**, if their names are plain and different. -/
theorem writes_writeAll {directory : Path} {here : List String} {files : List (String × String)} {w w' : Workspace}
    (h : (writeAll directory files).after w = (.ok (), w'))
    (hhere : w.tree.walk? (w.tree.startOf directory) directory.parts = .ok (here, .directory))
    (hnames : (files.map (·.1)).Nodup) (hplain : ∀ file ∈ files, Path.ofString file.1 = { root := "", parts := [file.1] }) :
    w.tree.Writes w'.tree here files := by
  induction files generalizing w with
  | nil =>
    rw [writeAll, after_pure] at h
    cases h
    exact .nil _ _
  | cons file files ih =>
    obtain ⟨name, text⟩ := file
    obtain ⟨hname, hlater⟩ := List.forall_mem_cons.1 hplain
    rw [List.map_cons, List.nodup_cons] at hnames
    have htarget : directory.join (Path.ofString name) = directory.append [name] := by rw [hname]; rfl
    rw [writeAll, htarget] at h
    obtain ⟨_, _, hget, h⟩ := after_bind_eq_ok h
    cases hget
    obtain ⟨tree, _, hwrite, h⟩ := after_bind_eq_ok h
    obtain ⟨_, _, hset, h⟩ := after_bind_eq_ok h
    cases hset
    obtain ⟨_, _, hsay, h⟩ := after_bind_eq_ok h
    cases hsay
    rw [after_ofFiles] at hwrite
    cases hresult : w.tree.write (directory.append [name]) text with
    | error e =>
      rw [hresult] at hwrite
      cases hwrite
    | ok tree' =>
      rw [hresult] at hwrite
      cases hwrite
      obtain ⟨here', hwalk, hnone, rfl⟩ := Tree.set_of_write hresult
      rw [hhere] at hwalk
      cases hwalk
      have hwalk : Tree.walk? (w.tree.set (here ++ [name]) (.file text))
          (Tree.startOf (w.tree.set (here ++ [name]) (.file text)) directory) directory.parts = .ok (here, .directory) := by
        rw [Tree.startOf, Tree.current_set]
        exact Tree.walk?_of_directories (fun _ => Tree.directory_set (by simp) hnone _) hhere
      exact .cons hnone (fun other hother heq => hnames.1 (heq ▸ List.mem_map_of_mem hother)) (ih h hwalk hnames.2 hlater)

/-! ### Runs -/

theorem exists_eq_error {ε : Type} {p : Except ε α × β} (h : p.1.isOk = false) : ∃ e b, p = (.error e, b) := by
  obtain ⟨result, b⟩ := p
  cases result with
  | error e => exact ⟨e, b, rfl⟩
  | ok a => cases h

theorem exists_eq_ok {ε : Type} {p : Except ε α × β} (h : p.1.isOk = true) : ∃ a b, p = (.ok a, b) := by
  obtain ⟨result, b⟩ := p
  cases result with
  | ok a => exact ⟨a, b, rfl⟩
  | error e => cases h

/-- What a run has at hand before it writes: a registry with its bindings, and the directory for them. -/
theorem prepare_eq_ok {documentation output : String} {sourceRoot : Option String} {requested : List String}
    {w w' : Workspace} {made : OrderedMap String} (hclosed : w.tree.IsClosed)
    (h : (prepare documentation output sourceRoot requested).after w = (.ok made, w')) :
    ∃ r here, w'.built? = some r ∧ (r.bindable.map (·.1.name)).Nodup ∧ r.sources.outcome = .ok made ∧
      w'.tree.walk? (w'.tree.startOf (Path.ofString output)) (Path.ofString output).parts = .ok (here, .directory) ∧
      w'.tree.directory? (Path.ofString output) = .ok (some here) := by
  obtain ⟨g, u, hload, h⟩ := after_bind_eq_ok h
  have htree : u.tree = w.tree := by
    have := tree_after_load documentation w
    rwa [hload] at this
  obtain ⟨r, v, hbuild, h⟩ := after_bind_eq_ok h
  obtain ⟨hbuilt, hnames, hsame⟩ : v.built? = some r ∧ (r.bindable.map (·.1.name)).Nodup ∧ v.tree = u.tree := by
    rw [after_buildRegistry] at hbuild
    split at hbuild
    · cases hbuild
    · cases hbuild
      exact ⟨rfl, Registry.nodup_bindable .., rfl⟩
    · cases hbuild
  obtain ⟨_, x, hmake, h⟩ := after_bind_eq_ok h
  rw [after_makeDirectory] at hmake
  cases hrefusal : (v.tree.makeDirectory (Path.ofString output)).2 with
  | some refusal =>
    rw [hrefusal] at hmake
    cases hmake
  | none =>
    rw [hrefusal] at hmake
    cases hmake
    rw [after_sources { v with tree := (v.tree.makeDirectory (Path.ofString output)).1 } hbuilt] at h
    rw [← htree, ← hsame] at hclosed
    obtain ⟨here, hwalk, hdirectory⟩ := Tree.directory?_makeDirectory hclosed (Path.isPlain_ofString output) hrefusal
    obtain ⟨hmade, hw⟩ := Prod.mk.inj h
    rw [← hw]
    dsimp only
    exact ⟨r, here, hbuilt, hnames, hmade, hwalk, hdirectory⟩

/-- What a run that has its bindings leaves when it has written them. -/
theorem deliver_eq_ok {output : String} {made made' : OrderedMap String} {w w' : Workspace}
    (h : (deliver output made).after w = (.ok made', w')) :
    made' = made ∧ (writeAll (Path.ofString output) made.toList).after w = (.ok (), w') := by
  obtain ⟨_, u, hwrite, h⟩ := after_bind_eq_ok h
  obtain ⟨_, _, hsay, h⟩ := after_bind_eq_ok h
  cases hsay
  cases h
  exact ⟨rfl, hwrite⟩

end Step

namespace Registry

/-- The bindings of classes of different names are their files, in order. -/
theorem mapM_fileOf_of_sources {r : Registry} {made : OrderedMap String} (hclasses : (r.bindable.map (·.1.name)).Nodup)
    (h : r.sources.outcome = .ok made) : r.bindable.mapM r.fileOf = .ok made.toList := by
  rw [sources, outcome_sourcesOf] at h
  cases hfiles : r.bindable.mapM r.fileOf with
  | error e =>
    rw [hfiles] at h
    cases h
  | ok files =>
    rw [hfiles] at h
    cases h
    rw [OrderedMap.toList_foldl_insert (nodup_fileNames hclasses hfiles)]

/-- A name without a slash makes one of a file in its directory. -/
theorem ofString_fileName {name : String} (h : '/' ∉ name.toList) :
    Path.ofString (fileName name) = { root := "", parts := [fileName name] } := by
  have hsuffix : '/' ∉ "Bindings.cpp".toList ∧ 1 < "Bindings.cpp".length := by decide
  have hlen : (fileName name).length = name.length + "Bindings.cpp".length := String.length_append _ _
  refine Path.ofString_of_not_mem ?_ ?_ ?_
  · rw [fileName, String.toList_append, List.mem_append, not_or]
    exact ⟨h, hsuffix.1⟩
  · intro hc
    rw [hc] at hlen
    have : "".length = 0 := rfl
    omega
  · intro hc
    rw [hc] at hlen
    have : ".".length = 1 := rfl
    omega

end Registry

/-- The bindings of the classes of a registry stand in a directory of the tree `t'`, and its other files are those of
the tree `t`. -/
structure IsDelivered (t t' : Tree) (here : List String) (r : Registry) (made : OrderedMap String) : Prop where
  /-- There is a file for each class that gets bindings, and no other. -/
  names : made.keys = r.bindable.map fun entry => Registry.fileName entry.1.name
  /-- There are as many files as classes. -/
  once : made.keys.Nodup
  text : ∀ file ∈ made.toList, t'.text? (here ++ [file.1]) = some file.2
  other : ∀ place, (∀ file ∈ made.toList, place ≠ here ++ [file.1]) → t'.text? place = t.text? place

/-- **A run writes nothing before it has made all bindings.** If the documentation cannot be read, the tree stays as it
was; if anything else fails before the first file is written, all files do. A run that succeeds leaves the bindings in
their directory and changes no other file, as long as the tree is one of directories and the names of the classes have
no slash. -/
theorem generate_keeps_files (documentation output : String) (sourceRoot : Option String) (requested : List String)
    (w : Workspace) :
    (∀ e w', (Step.load documentation).after w = (.error e, w') →
      (Step.generate documentation output sourceRoot requested).after w = (.error e, w') ∧ w'.tree = w.tree) ∧
    (∀ e w', (Step.prepare documentation output sourceRoot requested).after w = (.error e, w') →
      (Step.generate documentation output sourceRoot requested).after w = (.error e, w') ∧
        ∀ place, w'.tree.text? place = w.tree.text? place) ∧
    (w.tree.IsClosed → ∀ made w', (Step.generate documentation output sourceRoot requested).after w = (.ok made, w') →
      ∃ r, w'.built? = some r ∧ ((∀ entry ∈ r.bindable, '/' ∉ entry.1.name.toList) →
        ∃ here, w'.tree.directory? (Path.ofString output) = .ok (some here) ∧
          IsDelivered w.tree w'.tree here r made)) := by
  refine ⟨fun e w' h => ?_, fun e w' h => ?_, fun hclosed made w' h => ?_⟩
  · have htree := Step.tree_after_load documentation w
    rw [h] at htree
    rw [Step.generate, Step.after_bind, h]
    exact ⟨rfl, htree⟩
  · have hextends := Step.onlyExtends_prepare documentation output sourceRoot requested w
    rw [h] at hextends
    rw [Step.after_generate, Step.after_bind, h]
    exact ⟨rfl, hextends.text?_eq⟩
  · have hextends := Step.onlyExtends_prepare documentation output sourceRoot requested w
    rw [Step.after_generate] at h
    obtain ⟨made', u, hprepare, h⟩ := Step.after_bind_eq_ok h
    rw [hprepare] at hextends
    obtain ⟨rfl, hwrite⟩ := Step.deliver_eq_ok h
    obtain ⟨r, here, hbuilt, hclasses, hmade, hwalk, hdirectory⟩ := Step.prepare_eq_ok hclosed hprepare
    have hfiles := Registry.mapM_fileOf_of_sources hclasses hmade
    have hnames := Registry.fileNames_eq hfiles
    have hdifferent := Registry.nodup_fileNames hclasses hfiles
    have hkept := Step.built?_after_writeAll (Path.ofString output) made.toList u
    rw [hwrite] at hkept
    refine ⟨r, hkept.trans hbuilt, fun hslash => ?_⟩
    have hplain : ∀ file ∈ made.toList, Path.ofString file.1 = { root := "", parts := [file.1] } := by
      intro file hfile
      have hname := List.mem_map_of_mem (f := (·.1)) hfile
      rw [hnames] at hname
      obtain ⟨entry, hentry, heq⟩ := List.mem_map.1 hname
      rw [← heq]
      exact Registry.ofString_fileName (hslash entry hentry)
    have hwrites := Step.writes_writeAll hwrite hwalk hdifferent hplain
    refine ⟨here, Tree.directory?_of_directories hwrites.current hwrites.directory hdirectory, ?_⟩
    refine ⟨hnames, hdifferent, hwrites.text, fun place hplace => ?_⟩
    rw [← hextends.text?_eq, Tree.text?, hwrites.other place hplace, Tree.text?]

/-- A directory with the documentation of one class. -/
def gearWorkspace : Workspace where
  config := Config.default
  tree := Tree.ofFiles ["work"] [("xml/gear.xml", "<compounddef kind='class'><compoundname>Gear</compoundname></compounddef>")]

theorem generate_keeps_files_gear :
    (∃ e w', (Step.generate "nowhere" "out" none []).after gearWorkspace = (.error e, w') ∧ w'.tree = gearWorkspace.tree) ∧
    (∃ e w', (Step.generate "xml" "xml/gear.xml/out" none []).after gearWorkspace = (.error e, w') ∧
      ∀ place, w'.tree.text? place = gearWorkspace.tree.text? place) ∧
    ∃ made w' here text, (Step.generate "xml" "out/deep" none []).after gearWorkspace = (.ok made, w') ∧
      w'.tree.directory? (Path.ofString "out/deep") = .ok (some here) ∧
      w'.tree.text? (here ++ ["GearBindings.cpp"]) = some text ∧
      w'.tree.text? ["work", "xml", "gear.xml"] = gearWorkspace.tree.text? ["work", "xml", "gear.xml"] := by
  have hclosed : gearWorkspace.tree.IsClosed := by decide +kernel
  have hload : ((Step.load "nowhere").after gearWorkspace).1.isOk = false := by decide +kernel
  have hprepare : ((Step.prepare "xml" "xml/gear.xml/out" none []).after gearWorkspace).1.isOk = false := by decide +kernel
  have hrun : ((Step.generate "xml" "out/deep" none []).after gearWorkspace).1.isOk = true ∧
      ((Step.generate "xml" "out/deep" none []).after gearWorkspace).2.built?.map (fun r => r.bindable.map (·.1.name)) =
        some ["Gear"] := by decide +kernel
  refine ⟨?_, ?_, ?_⟩
  · obtain ⟨e, w', h⟩ := Step.exists_eq_error hload
    exact ⟨e, w', (generate_keeps_files "nowhere" "out" none [] gearWorkspace).1 e w' h⟩
  · obtain ⟨e, w', h⟩ := Step.exists_eq_error hprepare
    exact ⟨e, w', (generate_keeps_files "xml" "xml/gear.xml/out" none [] gearWorkspace).2.1 e w' h⟩
  · obtain ⟨made, w', h⟩ := Step.exists_eq_ok hrun.1
    obtain ⟨r, hbuilt, hfiles⟩ := (generate_keeps_files "xml" "out/deep" none [] gearWorkspace).2.2 hclosed made w' h
    have hclasses := hrun.2
    rw [h, hbuilt, Option.map_some, Option.some.injEq] at hclasses
    have hslash : ∀ entry ∈ r.bindable, '/' ∉ entry.1.name.toList := by
      intro entry hentry
      have hname := List.mem_map_of_mem (f := (·.1.name)) hentry
      rw [hclasses, List.mem_singleton] at hname
      rw [hname]
      decide
    obtain ⟨here, hdirectory, hdelivered⟩ := hfiles hslash
    obtain ⟨file, hmade, hname⟩ : ∃ file, made.toList = [file] ∧ file.1 = "GearBindings.cpp" := by
      have hnames : made.keys = (r.bindable.map (·.1.name)).map Registry.fileName := by
        rw [hdelivered.names, List.map_map]
        rfl
      rw [hclasses] at hnames
      exact List.map_eq_singleton_iff.1 hnames
    refine ⟨made, w', here, file.2, h, hdirectory, ?_, hdelivered.other _ ?_⟩
    · rw [← hname]
      exact hdelivered.text file (by simp [hmade])
    · rw [hmade, List.forall_mem_singleton, hname]
      intro heq
      have hlast := congrArg List.getLast? heq
      simp at hlast

end ScriptGlue
