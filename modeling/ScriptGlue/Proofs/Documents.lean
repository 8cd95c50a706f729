import Mathlib.Data.List.TakeWhile
import ScriptGlue.Files.Generation
import ScriptGlue.Proofs.Outcome

/-!
# What documents describe

A document adds its compounds to the graph, and what they are does not depend on the documents before it: directives
change the groups of overloads on their way, and read nothing of them. So **`addDocuments_spec`**: reading succeeds if
every document can be read by itself, and then the graph has the compounds of all documents in order.
-/

namespace ScriptGlue

open ScriptGlue.Xml

/-! ### Directives -/

namespace Directive

/-- What a directive does to a symbol does not depend on the groups. -/
theorem fst_apply (sibling? : String → Option String) (s : Symbol) (g g' : OverloadGroups) (d : Directive) :
    (apply sibling? (s, g) d).1 = (apply sibling? (s, g') d).1 := by
  cases d with
  | similarOverload name =>
    rw [apply, apply]
    cases sibling? name <;> rfl
  | _ => rfl

theorem fst_foldl_apply (sibling? : String → Option String) (ds : List Directive) (s : Symbol) (g g' : OverloadGroups) :
    (ds.foldl (apply sibling?) (s, g)).1 = (ds.foldl (apply sibling?) (s, g')).1 := by
  induction ds generalizing s g g' with
  | nil => rfl
  | cons d ds ih =>
    rw [List.foldl_cons, List.foldl_cons]
    have hfirst := fst_apply sibling? s g g' d
    generalize apply sibling? (s, g) d = state, apply sibling? (s, g') d = state' at hfirst
    obtain ⟨s₁, g₁⟩ := state
    obtain ⟨s₂, g₂⟩ := state'
    cases hfirst
    exact ih s₁ g₁ g₂

/-- What is left of a text, and of a symbol after its directives, does not depend on the groups. -/
theorem exists_applyText (sibling? : String → Option String) (text : String) (s : Symbol) (g g' : OverloadGroups) :
    ∃ rest s' h h', applyText sibling? text (s, g) = (rest, s', h) ∧ applyText sibling? text (s, g') = (rest, s', h') := by
  refine ⟨_, _, _, (applyText sibling? text (s, g')).2.2, rfl, ?_⟩
  exact Prod.ext rfl (Prod.ext (fst_foldl_apply sibling? _ s g' g) rfl)

theorem fst_applyAll (sibling? : String → Option String) (s : Symbol) (g g' : OverloadGroups) :
    (applyAll sibling? (s, g)).1 = (applyAll sibling? (s, g')).1 := by
  obtain ⟨brief, s₁, g₁, g₁', h₁, h₁'⟩ := exists_applyText sibling? s.brief s g g'
  obtain ⟨detailed, s₂, g₂, g₂', h₂, h₂'⟩ := exists_applyText sibling? s₁.detailed { s₁ with brief } g₁ g₁'
  obtain ⟨inbody, s₃, g₃, g₃', h₃, h₃'⟩ := exists_applyText sibling? s₂.inbody { s₂ with detailed } g₂ g₂'
  simp only [applyAll, h₁, h₁', h₂, h₂', h₃, h₃']

theorem fst_applyMembers (siblings : List Member) (i : Nat) (ms : List Member) (g g' : OverloadGroups) :
    (applyMembers siblings i ms g).1 = (applyMembers siblings i ms g').1 := by
  induction ms generalizing i g g' with
  | nil => rfl
  | cons m ms ih =>
    have hfirst := fst_applyAll (siblingOf? siblings i) m.toSymbol g g'
    simp only [applyMembers, hfirst]
    rw [ih]

/-- **What directives make of a compound does not depend on the groups.** -/
theorem fst_applyCompound (c : Compound) (g g' : OverloadGroups) : (applyCompound c g).1 = (applyCompound c g').1 := by
  have hsymbol := fst_applyAll (fun _ => none) c.toSymbol g g'
  simp only [applyCompound, hsymbol]
  rw [fst_applyMembers]

end Directive

/-! ### Elements -/

/-- The numbers of all enumerators in a compound can be spelled. -/
def isSpellable (e : Element) : Bool := (memberElements e).all (!isUnspellable ·)

/-- The compound that an element describes, with its members and after all directives. -/
def compoundOf (tokens : List String) (e : Element) : Compound :=
  let c := readCompound e
  (Directive.applyCompound { c with members := readMembers tokens c.id 0 (memberElements e) } {}).1

/-- The element describes a compound, not a page. -/
def isCompound (e : Element) : Bool := e.valueOf "kind" != "page"

/-- The compounds that elements describe, if all can be read. -/
def compoundsOf? (tokens : List String) (es : List Element) : Option (List Compound) :=
  if (es.filter isCompound).all isSpellable then some ((es.filter isCompound).map (compoundOf tokens)) else none

namespace Graph

/-- What came of adding something to a graph: the compounds that were found, or a failure if there were none to
find. -/
def Adds (g : Graph) (result : Graph × Option Failure) (found? : Option (List Compound)) : Prop :=
  match result.2 with
  | none => ∃ cs, found? = some cs ∧ result.1.compounds = g.compounds ++ cs ∧ result.1.ignoredTokens = g.ignoredTokens
  | some _ => found? = none

/-- Only the compounds and the tokens of the graph matter. -/
theorem Adds.congr {g g' : Graph} {result : Graph × Option Failure} {found? : Option (List Compound)}
    (h : g'.Adds result found?) (hg : g'.compounds = g.compounds ∧ g'.ignoredTokens = g.ignoredTokens) :
    g.Adds result found? := by
  unfold Adds at *
  rwa [← hg.1, ← hg.2]

/-- One thing is added after the other, unless the first fails. -/
theorem Adds.then {g : Graph} {x : Logged (Graph × Option Failure)} {found? later? : Option (List Compound)}
    (h : g.Adds x.value found?) {next : Graph → Logged (Graph × Option Failure)}
    (hnext : ∀ g' : Graph, g'.ignoredTokens = g.ignoredTokens → g'.Adds (next g').value later?) :
    g.Adds (do
      match ← x with
      | (g', none) => next g'
      | (g', some failure) => pure (g', some failure)).value
      (found?.bind fun cs => later?.map (cs ++ ·)) := by
  obtain ⟨⟨g', failure?⟩, log⟩ := x
  cases failure? with
  | some failure =>
    have hnone : found? = none := h
    subst hnone
    exact rfl
  | none =>
    obtain ⟨cs, rfl, hcompounds, htokens⟩ := h
    have hadds := hnext g' htokens
    change g.Adds (next g').value (later?.map (cs ++ ·))
    unfold Adds at *
    cases hfailure : (next g').value.2 with
    | some failure =>
      rw [hfailure] at hadds
      rw [show later? = none from hadds]
      rfl
    | none =>
      rw [hfailure] at hadds
      obtain ⟨cs', rfl, hcompounds', htokens'⟩ := hadds
      exact ⟨cs ++ cs', rfl, by rw [hcompounds', hcompounds, List.append_assoc], htokens'.trans htokens⟩

theorem register_spec (g : Graph) (e : Entity) :
    (g.register e).value.compounds = g.compounds ∧ (g.register e).value.ignoredTokens = g.ignoredTokens := by
  unfold register
  cases h : g.symbols.contains e.symbol.id <;> simp only [h, Bool.false_eq_true, if_true, if_false] <;> exact ⟨rfl, rfl⟩

theorem registerAll_spec (g : Graph) (es : List Entity) :
    (g.registerAll es).value.compounds = g.compounds ∧ (g.registerAll es).value.ignoredTokens = g.ignoredTokens := by
  induction es generalizing g with
  | nil => exact ⟨rfl, rfl⟩
  | cons e es ih =>
    obtain ⟨hcompounds, htokens⟩ := g.register_spec e
    obtain ⟨hcompounds', htokens'⟩ := ih (g.register e).value
    exact ⟨hcompounds'.trans hcompounds, htokens'.trans htokens⟩

theorem insertCompound_spec (g : Graph) (c : Compound) :
    (g.insertCompound c).value.compounds = g.compounds ++ [c] ∧
      (g.insertCompound c).value.ignoredTokens = g.ignoredTokens := by
  obtain ⟨hcompounds, htokens⟩ := g.registerAll_spec c.entities
  exact ⟨congrArg (· ++ [c]) hcompounds, htokens⟩

/-- Where a compound cannot be read, there is a first member with a fault. -/
theorem exists_faulty {e : Element} (h : isSpellable e = false) :
    ∃ sound faulty rest, memberElements e = sound ++ faulty :: rest ∧ sound.all (!isUnspellable ·) = true ∧
      isUnspellable faulty = true ∧ (sound ++ faulty :: rest).takeWhile (!isUnspellable ·) = sound := by
  obtain ⟨other, hother, hfault⟩ := List.all_eq_false.1 h
  have hsome : ((memberElements e).find? isUnspellable).isSome = true :=
    List.find?_isSome.2 ⟨other, hother, by simpa using hfault⟩
  obtain ⟨faulty, hfind⟩ := Option.isSome_iff_exists.1 hsome
  obtain ⟨hfaulty, sound, rest, hsplit, hsound⟩ := List.find?_eq_some_iff_append.1 hfind
  refine ⟨sound, faulty, rest, hsplit, List.all_eq_true.2 hsound, hfaulty, ?_⟩
  rw [List.takeWhile_append_of_pos hsound, List.takeWhile_cons_of_neg (by simp [hfaulty]), List.append_nil]

/-- An element that can be read adds its compound. -/
theorem addCompound_of_isSpellable (g : Graph) {e : Element} (h : isSpellable e = true) :
    ∃ groups, (g.addCompound e).value =
      (({ g with groups }.insertCompound (compoundOf g.ignoredTokens e)).value, none) := by
  have hsound : (memberElements e).takeWhile (!isUnspellable ·) = memberElements e :=
    List.takeWhile_eq_self_iff.2 (List.all_eq_true.1 h)
  have hcompound := Directive.fst_applyCompound { readCompound e with
    members := readMembers g.ignoredTokens (readCompound e).id 0 (memberElements e) } g.groups {}
  unfold addCompound
  simp only [hsound, List.drop_length, hcompound]
  exact ⟨_, rfl⟩

/-- Adding an element adds its compound, unless the numbers of an enumeration cannot be spelled. -/
theorem addCompound_spec (g : Graph) (e : Element) :
    g.Adds (g.addCompound e).value (if isSpellable e then some [compoundOf g.ignoredTokens e] else none) := by
  cases hspell : isSpellable e with
  | true =>
    obtain ⟨groups, hadded⟩ := g.addCompound_of_isSpellable hspell
    obtain ⟨hcompounds, htokens⟩ := insertCompound_spec { g with groups } (compoundOf g.ignoredTokens e)
    rw [hadded]
    exact ⟨_, rfl, hcompounds, htokens⟩
  | false =>
    obtain ⟨sound, faulty, rest, hsplit, -, -, htake⟩ := exists_faulty hspell
    unfold addCompound
    simp only [hsplit, htake, List.drop_left]
    exact rfl

/-- A page adds no compound. -/
theorem addPage_spec (g : Graph) (e : Element) :
    (g.addPage e).value.compounds = g.compounds ∧ (g.addPage e).value.ignoredTokens = g.ignoredTokens := by
  unfold addPage
  dsimp only
  split <;> exact ⟨rfl, rfl⟩

theorem addElements_spec (g : Graph) (es : List Element) :
    g.Adds (g.addElements es).value (compoundsOf? g.ignoredTokens es) := by
  induction es generalizing g with
  | nil => exact ⟨[], rfl, (List.append_nil _).symm, rfl⟩
  | cons e es ih =>
    rw [addElements]
    cases hpage : e.valueOf "kind" == "page" with
    | true =>
      have hcompounds : compoundsOf? g.ignoredTokens (e :: es) = compoundsOf? g.ignoredTokens es := by
        simp [compoundsOf?, isCompound, bne, hpage]
      have hspec := g.addPage_spec e
      rw [hcompounds, ← hspec.2, if_pos rfl]
      exact (ih (g.addPage e).value).congr hspec
    | false =>
      have hcompounds : compoundsOf? g.ignoredTokens (e :: es) =
          (if isSpellable e then some [compoundOf g.ignoredTokens e] else none).bind fun cs =>
            (compoundsOf? g.ignoredTokens es).map (cs ++ ·) := by
        have hkept : (e :: es).filter isCompound = e :: es.filter isCompound := by
          simp [isCompound, bne, hpage]
        rw [compoundsOf?, compoundsOf?, hkept, List.all_cons]
        cases isSpellable e <;> cases (es.filter isCompound).all isSpellable <;> rfl
      rw [hcompounds, if_neg Bool.false_ne_true]
      refine (g.addCompound_spec e).then fun g' htokens => ?_
      rw [← htokens]
      exact ih g'

end Graph

/-! ### Documents -/

/-- A documentation text. -/
inductive Document where
  /-- One that is given as it is. -/
  | text (contents : String)
  /-- One that stands in the file of the given path. -/
  | file (path contents : String)

namespace Document

/-- The elements of a document that describe compounds, if it can be read. -/
def elements? : Document → Option (List Element)
  | text contents => (readDocument? contents).map Graph.compoundElements
  | file _ contents => (readFile contents).toOption.map Graph.compoundElements

/-- The compounds that a document describes, if it can be read. -/
def compounds? (tokens : List String) (d : Document) : Option (List Compound) := d.elements?.bind (compoundsOf? tokens)

/-- The document can be read, and all that it describes. -/
def isReadable (tokens : List String) (d : Document) : Bool := (d.compounds? tokens).isSome

end Document

/-- The compounds that documents describe, in order. -/
def described (tokens : List String) (ds : List Document) : List Compound :=
  ds.flatMap fun d => (d.compounds? tokens).getD []

namespace Graph

/-- The graph with a document added. -/
def addDocument (g : Graph) : Document → Logged (Graph × Option Failure)
  | .text contents => g.addText contents
  | .file path contents => g.addFile path contents

/-- The graph with documents added in order, up to the first failure. -/
def addDocuments (g : Graph) : List Document → Logged (Graph × Option Failure)
  | [] => pure (g, none)
  | d :: rest => do
    match ← g.addDocument d with
    | (g, none) => g.addDocuments rest
    | (g, some failure) => pure (g, some failure)

theorem addDocument_spec (g : Graph) (d : Document) : g.Adds (g.addDocument d).value (d.compounds? g.ignoredTokens) := by
  cases d with
  | text contents =>
    rw [addDocument, addText, Document.compounds?, Document.elements?]
    cases readDocument? contents with
    | none => exact rfl
    | some root => exact g.addElements_spec (compoundElements root)
  | file path contents =>
    rw [addDocument, addFile, Document.compounds?, Document.elements?]
    cases readFile contents with
    | ok root => exact g.addElements_spec (compoundElements root)
    | error fault => cases fault <;> exact rfl

/-- **Documents add the compounds that they describe**, unless one of them cannot be read. -/
theorem addDocuments_spec (g : Graph) (ds : List Document) :
    g.Adds (g.addDocuments ds).value
      (if ds.all (·.isReadable g.ignoredTokens) then some (described g.ignoredTokens ds) else none) := by
  induction ds generalizing g with
  | nil => exact ⟨[], rfl, (List.append_nil _).symm, rfl⟩
  | cons d ds ih =>
    have hfound : (if (d :: ds).all (·.isReadable g.ignoredTokens) then some (described g.ignoredTokens (d :: ds)) else none) =
        (d.compounds? g.ignoredTokens).bind fun cs =>
          (if ds.all (·.isReadable g.ignoredTokens) then some (described g.ignoredTokens ds) else none).map (cs ++ ·) := by
      rw [List.all_cons, Document.isReadable, described, List.flatMap_cons]
      cases d.compounds? g.ignoredTokens with
      | none => rfl
      | some cs => cases ds.all (·.isReadable g.ignoredTokens) <;> rfl
    rw [hfound, addDocuments]
    refine (g.addDocument_spec d).then fun g' htokens => ?_
    rw [← htokens]
    exact ih g'

/-- The files of a directory are documents. -/
theorem addFiles_eq_addDocuments {t : Files.Tree} {here : List String} {shown : Files.Path} {contents : List String → String}
    (g : Graph) {files : List (List String)} (h : ∀ inner ∈ files, t.at? (here ++ inner) = some (.file (contents inner))) :
    g.addFiles t here shown files =
      g.addDocuments (files.map fun inner => .file (shown.append inner).toString (contents inner)) := by
  induction files generalizing g with
  | nil => rfl
  | cons inner files ih =>
    rw [addFiles, h inner List.mem_cons_self, List.map_cons, addDocuments]
    refine congrArg (g.addFile (shown.append inner).toString (contents inner) >>= ·) ?_
    funext ⟨g', failure?⟩
    cases failure? with
    | none => exact ih g' fun inner' hinner => h inner' (List.mem_cons_of_mem inner hinner)
    | some failure => rfl

end Graph

end ScriptGlue
