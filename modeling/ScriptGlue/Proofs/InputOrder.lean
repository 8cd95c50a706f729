import Mathlib.Data.Set.List
import ScriptGlue.Proofs.AgreeingRegistries
import ScriptGlue.Proofs.References
import ScriptGlue.Proofs.RegisteredClasses
import ScriptGlue.Proofs.Runs

/-!
# The order of the inputs

A run reads documents, registers the classes that are asked for and those that are described, and writes the bindings
of each. What it writes for a class depends on what is registered and not on when (`Agrees`). **`bindings_unordered`**
says what follows for the inputs: the classes may be asked for in any order and more than once, and the documents may
come in any order if no two of their classes have one name.
-/

namespace ScriptGlue

open ScriptGlue.Text ScriptGlue.Cpp ScriptGlue.Files

/-! ### Files -/

/-- What is made of a list in any order. -/
theorem exists_perm_of_mapM_ok {α β : Type} {f : α → Except Failure β} {l l' : List α} (h : l.Perm l') {ys : List β}
    (hys : l.mapM f = .ok ys) : ∃ ys', l'.mapM f = .ok ys' ∧ ys.Perm ys' := by
  have hmade : (ys.map Except.ok).Perm (l'.map f) := mapM_eq_ok_iff.1 hys ▸ h.map f
  have hall : l'.map f ∈ Set.range (List.map Except.ok) := by
    rw [Set.range_list_map]
    intro x hx
    obtain ⟨y, -, rfl⟩ := List.mem_map.1 (hmade.mem_iff.2 hx)
    exact ⟨y, rfl⟩
  obtain ⟨ys', hys'⟩ := hall
  rw [← hys'] at hmade
  exact ⟨ys', mapM_eq_ok_iff.2 hys'.symm, (List.map_perm_map_iff fun _ _ heq => Except.ok.inj heq).1 hmade⟩

/-- Two runs come to the same: each file has one text after both, or both fail. -/
def SameFiles : Except Failure (OrderedMap String) → Except Failure (OrderedMap String) → Prop
  | .ok m, .ok m' => m.get? = m'.get? ∧ m.toList.Perm m'.toList
  | .error _, .error _ => True
  | _, _ => False

/-- The files that are made of a list do not depend on its order if they have different names. -/
theorem sameFiles_of_perm {α : Type} {f : α → Except Failure (String × String)} {l l' : List α} (h : l.Perm l')
    (hkeys : ∀ files, l.mapM f = .ok files → (files.map (·.1)).Nodup) :
    SameFiles ((l.mapM f).map fun files => files.foldl (fun m file => m.insert file.1 file.2) ∅)
      ((l'.mapM f).map fun files => files.foldl (fun m file => m.insert file.1 file.2) ∅) := by
  cases hfiles : l.mapM f with
  | ok files =>
    obtain ⟨files', hfiles', hperm⟩ := exists_perm_of_mapM_ok h hfiles
    have hnames := hkeys files hfiles
    have hnames' := (hperm.map Prod.fst).nodup_iff.1 hnames
    have hentries : ((files.foldl (fun m file => m.insert file.1 file.2) ∅ : OrderedMap String)).toList.Perm
        (files'.foldl (fun m file => m.insert file.1 file.2) ∅ : OrderedMap String).toList := by
      rwa [OrderedMap.toList_foldl_insert hnames, OrderedMap.toList_foldl_insert hnames']
    have hmade : (files.foldl (fun m file => m.insert file.1 file.2) ∅ : OrderedMap String).keys.Nodup := by
      rwa [OrderedMap.keys, OrderedMap.toList_foldl_insert hnames]
    rw [hfiles']
    exact ⟨OrderedMap.get?_of_perm hentries hmade, hentries⟩
  | error failure =>
    cases hfiles' : l'.mapM f with
    | ok files' =>
      -- what succeeds in one order does so in the other
      obtain ⟨files, hok, -⟩ := exists_perm_of_mapM_ok h.symm hfiles'
      rw [hfiles] at hok
      cases hok
    | error failure' => exact trivial

/-! ### Classes that are asked for -/

/-- Arguments with the same elements ask for the same classes. -/
theorem requestedClasses_congr {requested requested' : List String} (h : ∀ a, a ∈ requested ↔ a ∈ requested') :
    (requestedClasses requested).1.Perm (requestedClasses requested').1 ∧
      ∀ name, name ∈ (requestedClasses requested).2 ↔ name ∈ (requestedClasses requested').2 := by
  constructor
  · rw [List.perm_ext_iff_of_nodup (nodup_requestedClasses requested) (nodup_requestedClasses requested')]
    intro name
    simp only [mem_requestedClasses_iff, h]
  · intro name
    simp only [mem_dependencies_iff, h]

/-! ### Building a registry -/

namespace Registry

variable {config : Config} {headers : Headers}

/-- **In which order and how often classes are asked for does not matter.** -/
theorem build_congr {requested requested' : List String} (h : ∀ a, a ∈ requested ↔ a ∈ requested') (cs : List Compound) :
    (build config headers cs requested).value.Agrees (build config headers cs requested').value ∧
      (build config headers cs requested).value.bindable = (build config headers cs requested').value.bindable := by
  obtain ⟨hnames, hdependencies⟩ := requestedClasses_congr h
  have hcontains : ∀ name, (requestedClasses requested).2.contains name = (requestedClasses requested').2.contains name := by
    simp [List.contains_eq_mem, hdependencies]
  have hdescribed : describedEntry config headers (requestedClasses requested).2 =
      describedEntry config headers (requestedClasses requested').2 := by
    funext c
    simp only [describedEntry, hcontains]
  have hrequested : requestedEntry config headers (requestedClasses requested).2 =
      requestedEntry config headers (requestedClasses requested').2 := by
    funext name
    simp only [requestedEntry, hcontains]
  have hregistrable : registrable config requested cs = registrable config requested' cs := by
    refine List.filter_congr fun c _ => ?_
    simp only [isRegistrable, isWanted, List.contains_eq_mem, hnames.mem_iff, hnames.isEmpty_eq]
  have hkeys : ((requestedClasses requested).1.map id).Nodup := by
    rw [List.map_id]
    exact nodup_requestedClasses requested
  rw [value_build, value_build, hregistrable, hdescribed, hrequested]
  have hentries := OrderedMap.get?_foldl_insert_perm id
    (requestedEntry config headers (requestedClasses requested').2) hnames hkeys ∅
  exact ⟨⟨rfl, OrderedMap.get?_foldl_insert_congr _ _ _ hentries⟩, rfl⟩

/-- Classes of different names are registered in order. -/
theorem bindable_build {requested : List String} {cs : List Compound}
    (h : ((registrable config requested cs).map (·.className)).Nodup) :
    (build config headers cs requested).value.bindable =
      ((registrable config requested cs).map fun c =>
        (describedEntry config headers (requestedClasses requested).2 c, c)).filter (!·.1.isDependencyOnly) := by
  rw [bindable_build_eq, lastNamed_of_nodup h]

/-- **The order of the compounds does not matter if they have different names.** -/
theorem build_perm {requested : List String} {cs cs' : List Compound} (hperm : cs.Perm cs')
    (h : ((registrable config requested cs).map (·.className)).Nodup) :
    (build config headers cs requested).value.Agrees (build config headers cs' requested).value ∧
      (build config headers cs requested).value.bindable.Perm (build config headers cs' requested).value.bindable := by
  have hregistrable : (registrable config requested cs).Perm (registrable config requested cs') := hperm.filter _
  constructor
  · rw [value_build, value_build]
    exact ⟨rfl, OrderedMap.get?_foldl_insert_perm _ _ hregistrable h _⟩
  · rw [bindable_build h, bindable_build ((hregistrable.map _).nodup_iff.1 h)]
    exact (hregistrable.map _).filter _

/-! ### Writing the bindings -/

/-- The file for a class. -/
def fileOf (r : Registry) (entry : ClassEntry × Compound) : Except Failure (String × String) :=
  (r.unitOf entry.2).outcome.map fun u => (fileName entry.1.name, u.text)

theorem outcome_sourcesOf (r : Registry) (classes : List (ClassEntry × Compound)) :
    (r.sourcesOf classes).outcome =
      (classes.mapM r.fileOf).map fun files => files.foldl (fun m file => m.insert file.1 file.2) ∅ := by
  have hfrom : ∀ made : OrderedMap String,
      Attempt.outcome (classes.foldlM (fun sources entry => do
        Attempt.say .info ("Generating bindings for " ++ entry.1.name)
        let u ← r.unitOf entry.2
        pure (sources.insert (fileName entry.1.name) u.text)) made) =
      (classes.mapM r.fileOf).map fun files => files.foldl (fun m file => m.insert file.1 file.2) made := by
    induction classes with
    | nil => exact fun made => rfl
    | cons first classes ih =>
      intro made
      rw [List.foldlM_cons, List.mapM_cons, fileOf]
      simp only [Attempt.outcome_bind, Attempt.outcome_say, Attempt.outcome_pure, ok_bind]
      cases (r.unitOf first.2).outcome with
      | error e => rfl
      | ok u =>
        simp only [ok_bind, Except.map, ih]
        cases classes.mapM r.fileOf <;> rfl
  exact hfrom ∅

/-- Registries that agree write the same files. -/
theorem Agrees.fileOf {r r' : Registry} (h : r.Agrees r') : r.fileOf = r'.fileOf := by
  funext entry
  rw [Registry.fileOf, Registry.fileOf, h.outcome_unitOf]

theorem fileName_injective : Function.Injective fileName := fun _ _ heq => (String.append_left_inj _).1 heq

/-- Each file is named after its class. -/
theorem fileNames_eq {r : Registry} {classes : List (ClassEntry × Compound)} {files : List (String × String)}
    (hfiles : classes.mapM r.fileOf = .ok files) : files.map (·.1) = classes.map fun entry => fileName entry.1.name := by
  refine map_of_mapM_ok hfiles fun entry _ file hfile => ?_
  obtain ⟨u, -, rfl⟩ := map_eq_ok.1 hfile
  rfl

/-- The files of classes of different names have different names. -/
theorem nodup_fileNames {r : Registry} {classes : List (ClassEntry × Compound)} {files : List (String × String)}
    (hclasses : (classes.map (·.1.name)).Nodup) (hfiles : classes.mapM r.fileOf = .ok files) : (files.map (·.1)).Nodup := by
  have hnames := hclasses.map fileName_injective
  rw [List.map_map] at hnames
  rw [fileNames_eq hfiles]
  exact hnames

/-- **In which order and how often classes are asked for shows in no file.** -/
theorem outcome_sources_build_congr {requested requested' : List String} (h : ∀ a, a ∈ requested ↔ a ∈ requested')
    (cs : List Compound) :
    (build config headers cs requested).value.sources.outcome = (build config headers cs requested').value.sources.outcome := by
  obtain ⟨hagrees, hbindable⟩ := @build_congr config headers requested requested' h cs
  rw [sources, sources, outcome_sourcesOf, outcome_sourcesOf, hbindable, hagrees.fileOf]

/-- **The order of the compounds shows in no file if they have different names.** -/
theorem sameFiles_sources_build {requested : List String} {cs cs' : List Compound} (hperm : cs.Perm cs')
    (h : ((registrable config requested cs).map (·.className)).Nodup) :
    SameFiles (build config headers cs requested).value.sources.outcome
      (build config headers cs' requested).value.sources.outcome := by
  obtain ⟨hagrees, hbindable⟩ := @build_perm config headers requested cs cs' hperm h
  rw [sources, sources, outcome_sourcesOf, outcome_sourcesOf, ← hagrees.fileOf]
  exact sameFiles_of_perm hbindable fun files => nodup_fileNames (nodup_bindable config headers requested cs)

end Registry

/-! ### Runs -/

/-- **A run does not depend on the order of its inputs.** The classes may be asked for in any order and more than once,
and if the compounds that are registered have different names, the documents may come in any order: each file has the
same text, and one run succeeds if the other does. -/
theorem bindings_unordered (config : Config) (headers : Headers) (requested : List String) (ds : List Document) :
    (∀ requested' : List String, (∀ a, a ∈ requested ↔ a ∈ requested') →
      (bindingsOf config headers requested ds).outcome = (bindingsOf config headers requested' ds).outcome) ∧
    (((Registry.registrable config requested (described config.ignoredTypeTokens ds)).map (·.className)).Nodup →
      ∀ ds' : List Document, ds.Perm ds' →
        SameFiles (bindingsOf config headers requested ds).outcome (bindingsOf config headers requested ds').outcome) := by
  constructor
  · intro requested' h
    rw [outcome_bindingsOf, outcome_bindingsOf]
    obtain ⟨g, failure?⟩ := (Graph.addDocuments { ignoredTokens := config.ignoredTypeTokens } ds).value
    cases failure? with
    | none => exact Registry.outcome_sources_build_congr h g.compounds
    | some failure => rfl
  · intro h ds' hperm
    have hread : ds'.all (·.isReadable config.ignoredTypeTokens) = ds.all (·.isReadable config.ignoredTypeTokens) :=
      hperm.symm.all_eq
    cases hreadable : ds.all (·.isReadable config.ignoredTypeTokens) with
    | true =>
      rw [hreadable] at hread
      rw [outcome_bindingsOf_of_readable config headers requested ds hreadable,
        outcome_bindingsOf_of_readable config headers requested ds' hread]
      exact Registry.sameFiles_sources_build (hperm.flatMap_right _) h
    | false =>
      rw [hreadable] at hread
      obtain ⟨failure, hfailure⟩ := outcome_bindingsOf_of_unreadable config headers requested ds hreadable
      obtain ⟨failure', hfailure'⟩ := outcome_bindingsOf_of_unreadable config headers requested ds' hread
      rw [hfailure, hfailure']
      exact trivial

/-- A class, and one with a function that takes objects of the other. -/
def axleAndGear : List Document :=
  [.text "<compounddef kind='class'><compoundname>Axle</compoundname></compounddef>",
    .text ("<compounddef kind='class'><compoundname>Gear</compoundname><sectiondef><memberdef kind='function' prot='public'>" ++
      "<name>mount</name><param><type>Axle</type></param></memberdef></sectiondef></compounddef>")]

theorem bindings_unordered_gear :
    (bindingsOf Config.default { preferred := [] } ["Axle", "Gear"] axleAndGear).outcome.isOk = true ∧
      (bindingsOf Config.default { preferred := [] } ["Axle", "Gear"] axleAndGear).outcome =
        (bindingsOf Config.default { preferred := [] } ["Gear", "Axle", "Gear"] axleAndGear).outcome ∧
      SameFiles (bindingsOf Config.default { preferred := [] } ["Axle", "Gear"] axleAndGear).outcome
        (bindingsOf Config.default { preferred := [] } ["Axle", "Gear"] axleAndGear.reverse).outcome := by
  have hnames : ∀ a, a ∈ ["Axle", "Gear"] ↔ a ∈ ["Gear", "Axle", "Gear"] := by
    intro a
    simp only [List.mem_cons, List.not_mem_nil, or_false]
    tauto
  obtain ⟨hrequested, hdocuments⟩ := bindings_unordered Config.default { preferred := [] } ["Axle", "Gear"] axleAndGear
  have hrun : (bindingsOf Config.default { preferred := [] } ["Axle", "Gear"] axleAndGear).outcome.isOk = true ∧
      ((Registry.registrable Config.default ["Axle", "Gear"]
        (described Config.default.ignoredTypeTokens axleAndGear)).map (·.className)).Nodup := by decide +kernel
  exact ⟨hrun.1, hrequested _ hnames, hdocuments hrun.2 _ (List.reverse_perm _).symm⟩

end ScriptGlue
