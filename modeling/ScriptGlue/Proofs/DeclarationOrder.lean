import Mathlib.Data.List.Nodup
import ScriptGlue.Proofs.DeclaredSupports

/-!
# Supports are declared before they are used

A unit is read from the top, so what its parts refer to has to stand before them, and once. The text of a unit
is cut into pieces (`text_eq_pieces`): the constants and finalizers of other classes come first, then those of
the class itself. **`declared_before_use`** says that they come before all that refers to them, and that none is
declared again but by the wrapper of a signal that has the name of a class.
-/

namespace ScriptGlue

open ScriptGlue.Text ScriptGlue.Cpp

/-! ### The pieces of a unit -/

/-- A piece of the text of a unit after its head. -/
inductive Piece where
  /-- An empty line. -/
  | gap
  /-- The line of the constant of a class. -/
  | constant (className : String)
  /-- A part of the unit. -/
  | part (p : UnitPart)
  deriving DecidableEq, Repr

namespace Piece

/-- The lines of a piece. -/
def lines : Piece → List String
  | gap => [""]
  | constant className => [classIdLine className]
  | part p => p.lines

/-- What a piece that is no signal code refers to. -/
def uses : Piece → List Support
  | part p => p.uses
  | _ => []

/-- What a piece declares. -/
def declares : Piece → List Support
  | gap => []
  | constant className => [.constant className]
  | part p => p.declares

/-- A constant is declared by its line. -/
theorem mem_lines_of_declares {p : Piece} {name : String} (h : .constant name ∈ p.declares) : classIdLine name ∈ p.lines := by
  cases p with
  | gap => cases h
  | constant className =>
    cases List.mem_singleton.1 h
    exact List.mem_singleton_self _
  | part part =>
    cases part with
    | signalClasses s =>
      cases List.mem_singleton.1 h
      exact List.mem_append_left _ (List.mem_append_left _ List.mem_cons_self)
    | finalizer className => cases List.mem_singleton.1 h
    | _ => cases h

/-- A finalizer is declared by its function. -/
theorem lines_of_declares {p : Piece} {name : String} (h : .finalizer name ∈ p.declares) : p.lines = finalizerLines name := by
  cases p with
  | gap => cases h
  | constant className => cases List.mem_singleton.1 h
  | part part =>
    cases part with
    | signalClasses s => cases List.mem_singleton.1 h
    | finalizer className =>
      cases List.mem_singleton.1 h
      rfl
    | _ => cases h

end Piece

namespace BindingsUnit

/-- The text of a unit before its pieces. -/
def head (u : BindingsUnit) : String :=
  block (bannerLines ++ [""] ++ (runtimeHeaders ++ u.ownHeader?.toList).map includeLine ++
    ["", "#ifdef _MSC_VER", "#pragma warning(disable: 4800)", "#endif", ""] ++
    u.dependencyHeaders.map includeLine ++ [""] ++ (if 1 < u.usingLines.length then [""] else []) ++ u.usingLines ++
    ["", "namespace JSBindings", "\x7b", ""])

/-- The constants of the classes the unit depends on. -/
def constantPieces (u : BindingsUnit) : List Piece := u.idClasses.map .constant ++ [.gap]

/-- The finalizers of the classes the unit depends on, and the constant of its own class. -/
def finalizerPieces (u : BindingsUnit) : List Piece :=
  u.finalizerClasses.map (fun className => Piece.part (.finalizer className)) ++ [Piece.gap, .constant u.className, .gap]

/-- The pieces in order. -/
def pieces (u : BindingsUnit) : List Piece := u.constantPieces ++ u.finalizerPieces ++ u.parts.map .part

/-- The piece is no code of a signal: none of its classes and functions, and not the finalizer of its wrapper. -/
def isPlain (u : BindingsUnit) : Piece → Bool
  | .part (.signalClasses _) | .part (.signalFunctions _) => false
  | .part (.finalizer className) => className == u.className || u.finalizerClasses.contains className
  | _ => true

/-- The wrappers of the signals of the unit. -/
def wrappers (u : BindingsUnit) : List String :=
  u.parts.filterMap fun
    | .signalClasses s => some s.wrapper
    | _ => none

/-- Beside the parts of the unit only finalizers are among the pieces. -/
theorem mem_parts_of_mem_pieces {u : BindingsUnit} {part : UnitPart} (h : .part part ∈ u.pieces) :
    (∃ name, part = .finalizer name) ∨ part ∈ u.parts := by
  simp only [pieces, constantPieces, finalizerPieces, List.mem_append, List.mem_map, List.mem_cons, reduceCtorEq,
    and_false, exists_false, List.not_mem_nil, or_false, false_or, Piece.part.injEq, exists_eq_right] at h
  exact h.imp_left fun ⟨name, _, hname⟩ => ⟨name, hname.symm⟩

theorem block_append (lines later : List String) : block (lines ++ later) = block lines ++ block later := by
  simp [block]

theorem flatMap_lines_pieces (u : BindingsUnit) : u.pieces.flatMap Piece.lines =
    u.idClasses.map classIdLine ++ [""] ++ u.finalizerClasses.flatMap finalizerLines ++ [""] ++
      [classIdLine u.className] ++ [""] ++ u.parts.flatMap UnitPart.lines := by
  have hfinalizer : ∀ name, (UnitPart.finalizer name).lines = finalizerLines name := fun name => rfl
  simp [pieces, constantPieces, finalizerPieces, List.flatMap_map, Piece.lines, hfinalizer, ← List.map_eq_flatMap]

/-- The text of a unit is that of its pieces after the head. -/
theorem text_eq_pieces (u : BindingsUnit) : u.text = u.head ++ block (u.pieces.flatMap Piece.lines) ++ "\x7d\n" := by
  have hparts : String.join (u.parts.map fun part => block part.lines) = block (u.parts.flatMap UnitPart.lines) := by
    induction u.parts with
    | nil => rfl
    | cons part parts ih => rw [List.map_cons, String.join_cons, ih, List.flatMap_cons, block_append]
  have hgap : block [""] = "\n" := by decide
  simp only [text, declarations, declarationTexts, unitText, head, flatMap_lines_pieces, block_append, hparts, hgap,
    String.append_assoc]

end BindingsUnit

namespace Registry

variable {r : Registry} {c : Compound}

/-! ### Declarations, each once -/

theorem mem_definedBy {name : String} {parts : List UnitPart} : name ∈ definedBy parts ↔ .finalizer name ∈ parts := by
  rw [definedBy, List.mem_filterMap]
  constructor
  · rintro ⟨part, hpart, hname⟩
    cases part with
    | finalizer className => rwa [← Option.some.inj hname]
    | _ => cases hname
  · exact fun h => ⟨_, h, rfl⟩

theorem definedBy_eq_nil {parts : List UnitPart} (h : ∀ name, .finalizer name ∉ parts) : definedBy parts = [] :=
  List.eq_nil_iff_forall_not_mem.2 fun name hname => h name (mem_definedBy.1 hname)

theorem definedBy_dispatchParts {sets : List OverloadSet} {parts : List UnitPart} (h : r.dispatchParts c sets = .ok parts) :
    definedBy parts = [] := by
  obtain ⟨thunks, -, h⟩ := bind_eq_ok.1 h
  obtain ⟨selectors, -, h⟩ := bind_eq_ok.1 h
  cases h
  exact definedBy_eq_nil (by simp)

/-- The finalizers among the parts are those of the class and of the contributions. -/
theorem definedBy_assemble {ks : List Contribution} {instanceParts staticParts : List UnitPart}
    (hinstances : r.dispatchParts c (r.sets c false).values = .ok instanceParts)
    (hstatics : r.dispatchParts c (r.sets c true).values = .ok staticParts) :
    definedBy (r.assemble c ks instanceParts staticParts).parts =
      definedBy (r.ownFinalizer c) ++ definedBy (partsOf (r.definedFirst c) ks) := by
  have hlist : ∀ l? : Option FunctionList, definedBy (l?.toList.map .functionList) = [] :=
    fun l? => definedBy_eq_nil (by simp)
  have hexposure : ∀ e, definedBy [.exposure e] = [] := fun e => rfl
  simp only [assemble, definedBy_append, definedBy_dispatchParts hinstances, definedBy_dispatchParts hstatics, hlist,
    hexposure, List.append_nil]

/-- The finalizer of a class is never there already. -/
theorem ownFinalizer_eq (c : Compound) :
    r.ownFinalizer c = if !r.isRefcounted c.className && c.kind != "namespace" then [.finalizer c.className] else [] := by
  simp [ownFinalizer, finalizerPart, not_mem_finalizerDependencies_self]

theorem nodup_definedFirst (c : Compound) : (r.definedFirst c).Nodup := by
  rw [definedFirst, List.nodup_append]
  refine ⟨nodup_finalizerDependencies, ?_, ?_⟩
  · rw [ownFinalizer_eq]
    split
    · simp [definedBy]
    · exact List.nodup_nil
  · rintro name hname _ hown rfl
    have hclass := eq_finalizer_of_mem_ownFinalizer (mem_definedBy.1 hown)
    cases hclass
    exact not_mem_finalizerDependencies_self hname

/-- What a unit declares, by kind. -/
theorem count_declares (u : BindingsUnit) (x : Support) :
    (u.pieces.flatMap Piece.declares).count x =
      ((u.idClasses ++ [u.className]).map Support.constant).count x +
        ((u.finalizerClasses ++ definedBy u.parts).map Support.finalizer).count x +
        (u.wrappers.map Support.constant).count x := by
  have hparts : (u.parts.flatMap UnitPart.declares).count x =
      ((definedBy u.parts).map Support.finalizer).count x + (u.wrappers.map Support.constant).count x := by
    unfold BindingsUnit.wrappers
    induction u.parts with
    | nil => rfl
    | cons part parts ih =>
      have hsplit : definedBy (part :: parts) = definedBy [part] ++ definedBy parts := definedBy_append [part] parts
      rw [List.flatMap_cons, List.count_append, ih, hsplit]
      cases part <;> simp [UnitPart.declares, definedBy, List.count_cons] <;> omega
  have hpart : ∀ name, (UnitPart.finalizer name).declares = [.finalizer name] := fun name => rfl
  simp only [BindingsUnit.pieces, BindingsUnit.constantPieces, BindingsUnit.finalizerPieces, List.flatMap_append,
    List.flatMap_map, Piece.declares, hpart, ← List.map_eq_flatMap, List.count_append, List.map_append, hparts,
    List.flatMap_cons, List.flatMap_nil, List.append_nil, List.nil_append, List.map_cons, List.map_nil]
  omega

/-- What a class declares, its unit declares once, but for the wrappers that have the name of a class. -/
theorem count_of_declares (hkind : c.kind ≠ "namespace") {ks : List Contribution}
    {instanceParts staticParts : List UnitPart} (hinstances : r.dispatchParts c (r.sets c false).values = .ok instanceParts)
    (hstatics : r.dispatchParts c (r.sets c true).values = .ok staticParts) {x : Support} (hx : r.Declares c x) :
    ((r.assemble c ks instanceParts staticParts).pieces.flatMap Piece.declares).count x =
      1 + ((r.assemble c ks instanceParts staticParts).wrappers.map Support.constant).count x := by
  have hids : (r.assemble c ks instanceParts staticParts).idClasses ++ [(r.assemble c ks instanceParts staticParts).className] =
      r.idDependencies c ++ [c.className] := rfl
  have hclasses : (r.assemble c ks instanceParts staticParts).finalizerClasses = r.finalizerDependencies c := rfl
  rw [count_declares, definedBy_assemble hinstances hstatics, ← List.append_assoc, hids, hclasses]
  have hconstants : (r.idDependencies c ++ [c.className]).Nodup := by
    rw [List.nodup_append]
    refine ⟨nodup_idDependencies, by simp, ?_⟩
    rintro name hname _ hown rfl
    rw [List.mem_singleton.1 hown] at hname
    exact not_mem_idDependencies_self hname
  have hfinalizers := nodup_definedBy_partsOf (nodup_definedFirst (r := r) c) ks
  rw [definedFirst] at hfinalizers
  cases x with
  | constant name =>
    have hmem : name ∈ r.idDependencies c ++ [c.className] := by simpa [Declares] using hx
    have hother : Support.constant name ∉ (r.finalizerDependencies c ++ definedBy (r.ownFinalizer c) ++
        definedBy (partsOf (r.definedFirst c) ks)).map Support.finalizer := by simp
    have hone : ((r.idDependencies c ++ [c.className]).map Support.constant).count (.constant name) = 1 :=
      List.count_eq_one_of_mem (hconstants.map fun _ _ => Support.constant.inj) (List.mem_map_of_mem hmem)
    rw [hone, List.count_eq_zero.2 hother]
  | finalizer name =>
    have hmem : name ∈ r.finalizerDependencies c ++ definedBy (r.ownFinalizer c) ++
        definedBy (partsOf (r.definedFirst c) ks) := by
      rcases hx with hx | ⟨rfl, hvalue⟩
      · simp [hx]
      · simp [ownFinalizer_eq, hvalue, hkind, definedBy]
    have hother : Support.finalizer name ∉ (r.idDependencies c ++ [c.className]).map Support.constant := by simp
    have hone : ((r.finalizerDependencies c ++ definedBy (r.ownFinalizer c) ++
        definedBy (partsOf (r.definedFirst c) ks)).map Support.finalizer).count (.finalizer name) = 1 :=
      List.count_eq_one_of_mem (hfinalizers.map fun _ _ => Support.finalizer.inj) (List.mem_map_of_mem hmem)
    rw [List.count_eq_zero.2 hother, hone]

/-! ### The order of declarations -/

/-- What is found at the start of a list is found before an element that is not there. -/
theorem exists_mem_before {α : Type} {l start before after : List α} {a : α} {P : α → Prop} (hstart : start <+: l)
    (hl : l = before ++ a :: after) (ha : a ∉ start) (h : ∃ b ∈ start, P b) : ∃ b ∈ before, P b := by
  have hbefore : start <+: before := by
    rcases List.prefix_or_prefix_of_prefix hstart ⟨a :: after, hl.symm⟩ with hbefore | ⟨between, rfl⟩
    · exact hbefore
    · cases between with
      | nil => simp
      | cons b between =>
        obtain ⟨rest, hrest⟩ := hstart
        rw [hl, List.append_assoc, List.append_cancel_left_eq] at hrest
        obtain ⟨rfl, -⟩ := List.cons.inj hrest
        exact absurd (by simp) ha
  obtain ⟨b, hb, hP⟩ := h
  exact ⟨b, hbefore.subset hb, hP⟩

/-- The pieces that declare what a class declares; the others follow. -/
def opening (r : Registry) (c : Compound) (u : BindingsUnit) : List Piece :=
  u.constantPieces ++ u.finalizerPieces ++ (r.ownFinalizer c).map .part

/-- Of the parts only finalizers stand at the opening. -/
theorem not_mem_opening {u : BindingsUnit} {part : UnitPart} (h : ∀ name, part ≠ .finalizer name) :
    .part part ∉ r.opening c u := by
  intro hmem
  simp only [opening, BindingsUnit.constantPieces, BindingsUnit.finalizerPieces, List.mem_append, List.mem_map,
    List.mem_cons, reduceCtorEq, and_false, exists_false, List.not_mem_nil, or_false, false_or, Piece.part.injEq,
    exists_eq_right] at hmem
  rcases hmem with ⟨name, -, hpart⟩ | hown
  · exact h name hpart.symm
  · exact h _ (eq_finalizer_of_mem_ownFinalizer hown)

section

variable {ks : List Contribution} {instanceParts staticParts : List UnitPart} {u : BindingsUnit}
  (hu : u = r.assemble c ks instanceParts staticParts)

include hu

theorem opening_prefix_pieces : r.opening c u <+: u.pieces := by
  subst hu
  have hown : r.ownFinalizer c <+: (r.assemble c ks instanceParts staticParts).parts := by
    simp only [assemble, List.append_assoc]
    exact List.prefix_append _ _
  exact (List.prefix_append_right_inj _).2 (hown.map _)

/-- What a class declares is declared at the opening of its unit. -/
theorem exists_mem_opening (hkind : c.kind ≠ "namespace") {x : Support} (hx : r.Declares c x) :
    ∃ p ∈ r.opening c u, u.isPlain p = true ∧ x ∈ p.declares := by
  subst hu
  unfold opening
  cases x with
  | constant name =>
    refine ⟨.constant name, ?_, rfl, List.mem_singleton_self _⟩
    rcases hx with hx | rfl
    · simp [BindingsUnit.constantPieces, assemble, hx]
    · simp [BindingsUnit.finalizerPieces, assemble]
  | finalizer name =>
    refine ⟨.part (.finalizer name), ?_, ?_, List.mem_singleton_self _⟩
    · rcases hx with hx | ⟨rfl, hvalue⟩
      · simp [BindingsUnit.finalizerPieces, assemble, hx]
      · simp [ownFinalizer_eq, hvalue, hkind]
    · rcases hx with hx | ⟨rfl, -⟩
      · simp [BindingsUnit.isPlain, assemble, hx]
      · simp [BindingsUnit.isPlain, assemble]

/-- A piece refers to what the class declares. -/
theorem declares_of_piece (hbare : r.vocabulary.Bare) (hnamed : ∀ name ∈ r.names, name ≠ "")
    (hconst : ∀ m ∈ c.members, ∀ p ∈ m.parameters, p.SingleConst) (hks : r.contributionsOf c = .ok ks)
    (hinstances : r.dispatchParts c (r.sets c false).values = .ok instanceParts)
    (hstatics : r.dispatchParts c (r.sets c true).values = .ok staticParts) {q : Piece} (hq : q ∈ u.pieces)
    (hplain : u.isPlain q = true) {x : Support} (hx : x ∈ q.uses) : r.Declares c x := by
  cases q with
  | gap => cases hx
  | constant name => cases hx
  | part part =>
    by_cases hfinalizer : ∃ name, part = .finalizer name
    · obtain ⟨name, rfl⟩ := hfinalizer
      rw [List.mem_singleton.1 hx]
      subst hu
      simp only [BindingsUnit.isPlain, Bool.or_eq_true, beq_iff_eq, List.contains_iff_mem] at hplain
      exact hplain.symm.imp_left mem_idDependencies_of_finalizer
    · have hpart := (BindingsUnit.mem_parts_of_mem_pieces hq).resolve_left hfinalizer
      subst hu
      exact declares_of_part hbare hnamed hconst hks hinstances hstatics hpart (fun name h => hfinalizer ⟨name, h⟩) hx

/-- What a class declares is declared before the pieces that refer to it. A finalizer is at the opening itself, so
it is a part of the opening that counts for it. -/
theorem declares_before (hkind : c.kind ≠ "namespace") {before after : List Piece} {q : Piece}
    (hpieces : u.pieces = before ++ q :: after) (hplain : u.isPlain q = true) {x : Support} (hx : x ∈ q.uses)
    (hdeclares : r.Declares c x) : ∃ p ∈ before, u.isPlain p = true ∧ x ∈ p.declares := by
  cases q with
  | gap => cases hx
  | constant name => cases hx
  | part part =>
    by_cases hfinalizer : ∃ name, part = .finalizer name
    · obtain ⟨name, rfl⟩ := hfinalizer
      rw [List.mem_singleton.1 hx]
      simp only [BindingsUnit.isPlain, Bool.or_eq_true, beq_iff_eq, List.contains_iff_mem] at hplain
      have hdeclared : ∀ start, start <+: u.pieces → .part (.finalizer name) ∉ start → .constant name ∈ start →
          ∃ p ∈ before, u.isPlain p = true ∧ .constant name ∈ p.declares := fun start hstart hq hmem =>
        exists_mem_before hstart hpieces hq ⟨.constant name, hmem, rfl, List.mem_singleton_self _⟩
      by_cases hother : name ∈ u.finalizerClasses
      · refine hdeclared u.constantPieces ?_ (by simp [BindingsUnit.constantPieces]) ?_
        · rw [BindingsUnit.pieces, List.append_assoc]
          exact List.prefix_append _ _
        · subst hu
          simp [BindingsUnit.constantPieces, assemble, mem_idDependencies_of_finalizer hother]
      · obtain rfl := hplain.resolve_right hother
        refine hdeclared (u.constantPieces ++ u.finalizerPieces) (List.prefix_append _ _) ?_ ?_
        · simp [BindingsUnit.constantPieces, BindingsUnit.finalizerPieces, hother]
        · simp [BindingsUnit.finalizerPieces]
    · have hopening := exists_mem_opening hu hkind hdeclares
      exact exists_mem_before (opening_prefix_pieces hu) hpieces
        (not_mem_opening fun name h => hfinalizer ⟨name, h⟩) hopening

end

/-- **Supports are declared before they are used, and once.** In the unit of a class or struct whose parameters have
one leading `const` at most, what a piece refers to that is no code of a signal is declared by a piece before it
that is none either. All pieces together declare it once, and once more for each wrapper that has its name. -/
theorem declared_before_use (hbare : r.vocabulary.Bare) (hnamed : ∀ name ∈ r.names, name ≠ "")
    (hkind : c.kind ≠ "namespace") (hconst : ∀ m ∈ c.members, ∀ p ∈ m.parameters, p.SingleConst) {u : BindingsUnit}
    (hu : (r.unitOf c).outcome = .ok u) {before after : List Piece} {q : Piece} (hpieces : u.pieces = before ++ q :: after)
    (hplain : u.isPlain q = true) {x : Support} (hx : x ∈ q.uses) :
    (∃ p ∈ before, u.isPlain p = true ∧ x ∈ p.declares) ∧
      (u.pieces.flatMap Piece.declares).count x = 1 + (u.wrappers.map Support.constant).count x := by
  rw [outcome_unitOf] at hu
  obtain ⟨ks, hks, hu⟩ := bind_eq_ok.1 hu
  obtain ⟨instanceParts, hinstances, hu⟩ := bind_eq_ok.1 hu
  obtain ⟨staticParts, hstatics, hu⟩ := bind_eq_ok.1 hu
  have hunit := (Except.ok.inj hu).symm
  have hq : q ∈ u.pieces := by simp [hpieces]
  have hdeclares := declares_of_piece hunit hbare hnamed hconst hks hinstances hstatics hq hplain hx
  refine ⟨declares_before hunit hkind hpieces hplain hx hdeclares, ?_⟩
  subst hunit
  exact count_of_declares hkind hinstances hstatics hdeclares

/-- A struct that has the name of the wrapper of a signal. -/
def namesake : Compound := { kind := "struct", name := "SignalWrapper_Hub_Up" }

/-- A class that counts references, with this signal and with a function that gives such a struct. -/
def clashing : Compound where
  kind := "class"
  name := "Hub"
  members := [{ kind := "function", name := "URHO3D_OBJECT" },
    { kind := "variable", name := "Up", type := "Signal0<void>" },
    { kind := "function", name := "Get", type := "SignalWrapper_Hub_Up" }]

/-- The registry of the two classes. -/
def clashRegistry : Registry := (build .default { preferred := [] } [namesake, clashing] []).value

/-- The signal of the class. -/
def clashSignal : Signal where
  className := "Hub"
  member := "Up"
  type := "Signal0<void>"
  this := ⟨"Hub", .weak⟩
  parameters := []

/-- The thunk of its function. -/
def clashThunk : Thunk where
  name := "Hub_Get"
  className := "Hub"
  countsArguments := false
  callee := .method ⟨"Hub", .weak⟩ "Get"
  arguments := []
  result? := some ("SignalWrapper_Hub_Up", .copy "SignalWrapper_Hub_Up")

/-- What scripts see of the class. -/
def clashExposure : Exposure where
  className := "Hub"
  constructor? := none
  staticList? := none
  constants := []
  prototype? := some
    { functionList? := some "Hub_Functions"
      properties := [{ name := "Up", getter := "Hub_Get_Up", setter := none }] }

/-- The unit of the class. -/
def clashUnit : BindingsUnit where
  className := "Hub"
  ownHeader? := none
  dependencyHeaders := []
  usingLines := ["using namespace std;"]
  idClasses := ["SignalWrapper_Hub_Up"]
  finalizerClasses := ["SignalWrapper_Hub_Up"]
  parts := [.signalClasses clashSignal, .signalFunctions clashSignal, .thunk clashThunk,
    .functionList { name := "Hub_Functions", entries := [⟨"Get", "Hub_Get", .exactly 0⟩] }, .exposure clashExposure]

theorem bare_clashRegistry : clashRegistry.vocabulary.Bare := Vocabulary.bare_of_default rfl (by decide +kernel)

theorem outcome_clashing : (clashRegistry.unitOf clashing).outcome = .ok clashUnit := by decide +kernel

theorem declared_before_use_clash :
    clashUnit.pieces = clashUnit.pieces.take 8 ++ .part (.thunk clashThunk) :: clashUnit.pieces.drop 9 ∧
    (∃ p ∈ clashUnit.pieces.take 8, clashUnit.isPlain p = true ∧ .finalizer "SignalWrapper_Hub_Up" ∈ p.declares) ∧
    (clashUnit.pieces.flatMap Piece.declares).count (.finalizer "SignalWrapper_Hub_Up") =
      1 + (clashUnit.wrappers.map Support.constant).count (.finalizer "SignalWrapper_Hub_Up") := by
  have hnamed : ∀ name ∈ clashRegistry.names, name ≠ "" := by decide +kernel
  have hkind : clashing.kind ≠ "namespace" := by decide
  have hconst : ∀ m ∈ clashing.members, ∀ p ∈ m.parameters, p.SingleConst := by decide
  have hpieces : clashUnit.pieces = clashUnit.pieces.take 8 ++ .part (.thunk clashThunk) :: clashUnit.pieces.drop 9 := rfl
  exact ⟨hpieces, declared_before_use bare_clashRegistry hnamed hkind hconst outcome_clashing hpieces rfl (by decide)⟩

/-- The constant of the struct is declared before the thunk that refers to it, and again by the wrapper. -/
theorem count_declares_clash :
    clashRegistry.bindable.map (·.2) = [namesake, clashing] ∧ clashRegistry.vocabulary.Bare ∧
    (∀ m ∈ clashing.members, m.parameters = []) ∧ (clashRegistry.unitOf clashing).outcome = .ok clashUnit ∧
    .part (.thunk clashThunk) ∈ clashUnit.pieces ∧ .constant "SignalWrapper_Hub_Up" ∈ clashThunk.uses ∧
    (clashUnit.pieces.flatMap Piece.declares).count (.constant "SignalWrapper_Hub_Up") = 2 := by
  have hbindable : clashRegistry.bindable.map (·.2) = [namesake, clashing] := by decide +kernel
  exact ⟨hbindable, bare_clashRegistry, by decide, outcome_clashing, by decide, by decide, by decide⟩

end Registry

end ScriptGlue
