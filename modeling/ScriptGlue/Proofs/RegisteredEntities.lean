import ScriptGlue.Proofs.Identifiers

/-!
# Registered entities

What documents register in the graph, in order: of each compound first itself, then its members, each after its enumerators
(`registered`); where one cannot be read, what stands before the fault. **`registered_apart`** says that the graph holds all
of it, under as many identifiers, if the identifiers that are made are apart from the others, and if everything can be read
only then.
-/

namespace ScriptGlue

open ScriptGlue.Text ScriptGlue.Xml ScriptGlue.Cpp

/-- The identifiers of entities, in order. -/
def idsOf (entities : List Entity) : List String := entities.map (·.symbol.id)

/-- The identifiers that come from some sources. -/
def sourceIds (sources : List Source) : List String := sources.map (·.origin.id)

/-! ### Members -/

/-- The entities of members, `position` members being before them, up to the first enumerator whose number cannot be
spelled. -/
def memberEntities (tokens : List String) (owner : String) : Nat → List Element → List Entity
  | _, [] => []
  | position, e :: rest =>
    match readMember? tokens owner position e with
    | none => memberEntities tokens owner position rest
    | some m =>
      if isUnspellable e then (m.entities owner).dropLast
      else m.entities owner ++ memberEntities tokens owner (position + 1) rest

variable {tokens : List String}

theorem id_readEnumerator (owner : Source) (position : Nat) (e : Element) (value : String) :
    (readEnumerator owner.origin.id position e value).id = (sourceOf owner position e).origin.id := by
  rw [readEnumerator, Symbol.id_describe, sourceOf]
  dsimp only
  split <;> rfl

theorem map_fst_zip_eq_take {α β : Type} (l : List α) (l' : List β) : (l.zip l').map Prod.fst = l.take l'.length := by
  induction l generalizing l' with
  | nil => simp
  | cons a l ih =>
    cases l' with
    | nil => rfl
    | cons b l' => simp [ih]

theorem ids_readEnumerators (member : Source) (e : Element) :
    (readEnumerators member.origin.id e).map (·.id) = sourceIds ((spelledItems e).mapIdx (sourceOf member)) := by
  refine List.ext_getElem? fun i => ?_
  rw [readEnumerators, sourceIds, spelledItems, ← map_fst_zip_eq_take]
  simp only [List.getElem?_map, List.getElem?_mapIdx, Option.map_map]
  refine Option.map_congr fun item _ => ?_
  exact id_readEnumerator member i item.1 item.2

theorem idsOf_entities (m : Member) (owner : String) : idsOf (m.entities owner) = m.enumerators.map (·.id) ++ [m.id] := by
  simp [idsOf, Member.entities, Entity.symbol]

/-- A member that is not left out gets its identifier as its source says, and its enumerators with it. -/
theorem exists_readMember? (tokens : List String) {e : Element} (hname : startsWith (lineOf (e.find? "name")) "@" = false)
    (owner : Source) (position : Nat) :
    ∃ s : Symbol, s.id = (sourceOf owner position e).origin.id ∧ readMember? tokens owner.origin.id position e =
      some { s with enumerators := if e.valueOf "kind" == "enum" then readEnumerators s.id e else [] } := by
  refine ⟨?s, ?id, ?read⟩
  case read =>
    rw [readMember?]
    dsimp only
    rw [if_neg (by rw [hname]; exact Bool.false_ne_true)]
  case id =>
    have hid : (if (e.valueOf "id").isEmpty then owner.origin.id ++ "_" ++ toString position else e.valueOf "id") =
        (sourceOf owner position e).origin.id := by
      rw [sourceOf]
      dsimp only
      split <;> rfl
    rw [Symbol.id_locate, Symbol.id_describe]
    split <;> exact hid

/-- A member is left out if its name begins with an at sign, and otherwise gets its identifiers from its sources. -/
theorem readMember?_cases (tokens : List String) (owner : Source) (position : Nat) (e : Element) :
    (startsWith (lineOf (e.find? "name")) "@" = true ∧ readMember? tokens owner.origin.id position e = none) ∨
    startsWith (lineOf (e.find? "name")) "@" = false ∧ ∃ m, readMember? tokens owner.origin.id position e = some m ∧
      idsOf (m.entities owner.origin.id) =
        sourceIds (enumeratorSources (sourceOf owner position e) e) ++ [(sourceOf owner position e).origin.id] := by
  cases hname : startsWith (lineOf (e.find? "name")) "@" with
  | true =>
    refine .inl ⟨rfl, ?_⟩
    rw [readMember?]
    dsimp only
    rw [if_pos hname]
  | false =>
    obtain ⟨s, hid, hread⟩ := exists_readMember? tokens hname owner position
    refine .inr ⟨rfl, _, hread, ?_⟩
    rw [idsOf_entities, enumeratorSources]
    dsimp only
    rw [hid]
    split
    · rw [ids_readEnumerators]
    · rfl

/-- The identifiers of members come from their sources, or are the first of those. -/
theorem ids_memberEntities (tokens : List String) (owner : Source) (position : Nat) (es : List Element) :
    idsOf (memberEntities tokens owner.origin.id position es) <+: sourceIds (memberSources owner position es) ∧
      (es.all (!isUnspellable ·) = true →
        idsOf (memberEntities tokens owner.origin.id position es) = sourceIds (memberSources owner position es)) := by
  induction es generalizing position with
  | nil => exact ⟨List.prefix_rfl, fun _ => rfl⟩
  | cons e rest ih =>
    rw [memberEntities, memberSources, List.all_cons]
    rcases readMember?_cases tokens owner position e with ⟨hname, hread⟩ | ⟨hname, m, hread, hids⟩
    · rw [hread, if_pos hname]
      exact ⟨(ih position).1, fun h => (ih position).2 (Bool.and_eq_true_iff.1 h).2⟩
    · rw [hread, if_neg (by rw [hname]; exact Bool.false_ne_true)]
      dsimp only
      cases hfault : isUnspellable e with
      | true =>
        refine ⟨?_, fun h => absurd (Bool.and_eq_true_iff.1 h).1 (by simp)⟩
        have hdropped : idsOf (m.entities owner.origin.id).dropLast =
            sourceIds (enumeratorSources (sourceOf owner position e) e) := by
          rw [idsOf, List.map_dropLast, ← idsOf, hids, List.dropLast_concat]
        rw [if_pos rfl, hdropped]
        simp [sourceIds]
      | false =>
        obtain ⟨hfirst, hall⟩ := ih (position + 1)
        have hsplit : ∀ later,
            sourceIds (enumeratorSources (sourceOf owner position e) e ++ sourceOf owner position e :: later) =
              idsOf (m.entities owner.origin.id) ++ sourceIds later := by
          intro later
          rw [hids]
          simp [sourceIds]
        rw [if_neg Bool.false_ne_true, if_neg Bool.false_ne_true, hsplit, idsOf, List.map_append]
        refine ⟨(List.prefix_append_right_inj _).2 hfirst, fun h => congrArg (_ ++ ·) (hall (Bool.and_eq_true_iff.1 h).2)⟩

theorem memberEntities_of_sound {owner : String} {position : Nat} {es : List Element}
    (h : es.all (!isUnspellable ·) = true) :
    memberEntities tokens owner position es = (readMembers tokens owner position es).flatMap (·.entities owner) := by
  induction es generalizing position with
  | nil => rfl
  | cons e rest ih =>
    rw [List.all_cons, Bool.and_eq_true, Bool.not_eq_true'] at h
    rw [memberEntities, readMembers]
    cases readMember? tokens owner position e with
    | none => exact ih h.2
    | some m =>
      dsimp only
      rw [h.1, if_neg Bool.false_ne_true, ih h.2, List.flatMap_cons]

/-- Of the first member with a fault only the enumerators before the fault are there. -/
theorem memberEntities_of_faulty (tokens : List String) (owner : String) (position : Nat) {sound : List Element}
    (rest : List Element) {faulty : Element} (h : sound.all (!isUnspellable ·) = true)
    (hfaulty : isUnspellable faulty = true) :
    memberEntities tokens owner position (sound ++ faulty :: rest) =
      (readMembers tokens owner position sound).flatMap (·.entities owner) ++
        ((readMember? tokens owner (position + (readMembers tokens owner position sound).length) faulty).elim []
          (·.entities owner)).dropLast := by
  induction sound generalizing position with
  | nil =>
    have hnamed : startsWith (lineOf (faulty.find? "name")) "@" = false := by
      rw [isUnspellable, Bool.and_eq_true, Bool.and_eq_true, Bool.not_eq_true'] at hfaulty
      exact hfaulty.1.2
    obtain ⟨s, -, hread⟩ := exists_readMember? tokens hnamed ⟨.given owner, []⟩ position
    change readMember? tokens owner position faulty = _ at hread
    change memberEntities tokens owner position (faulty :: rest) =
      ((readMember? tokens owner position faulty).elim [] (·.entities owner)).dropLast
    rw [memberEntities, hread]
    exact if_pos hfaulty
  | cons e sound ih =>
    rw [List.all_cons, Bool.and_eq_true, Bool.not_eq_true'] at h
    rw [List.cons_append, memberEntities, readMembers]
    cases readMember? tokens owner position e with
    | none => exact ih position h.2
    | some m =>
      dsimp only
      rw [h.1, if_neg Bool.false_ne_true, ih (position + 1) h.2, List.flatMap_cons, List.length_cons, List.append_assoc,
        Nat.add_right_comm, Nat.add_assoc]

/-! ### Directives -/

namespace Directive

/-- No directive changes an identifier. -/
theorem id_foldl_apply (sibling? : String → Option String) (ds : List Directive) (state : Symbol × OverloadGroups) :
    (ds.foldl (apply sibling?) state).1.id = state.1.id := by
  induction ds generalizing state with
  | nil => rfl
  | cons d ds ih =>
    rw [List.foldl_cons, ih]
    cases d with
    | similarOverload name =>
      rw [apply]
      split <;> rfl
    | _ => rfl

theorem id_applyAll (sibling? : String → Option String) (state : Symbol × OverloadGroups) :
    (applyAll sibling? state).1.id = state.1.id := by
  have htext : ∀ (text : String) (state : Symbol × OverloadGroups), (applyText sibling? text state).2.1.id = state.1.id :=
    fun text state => id_foldl_apply sibling? _ state
  rw [applyAll]
  dsimp only
  rw [htext, htext, htext]

theorem ids_applyMembers (siblings : List Member) (i : Nat) (ms : List Member) (g : OverloadGroups) :
    (applyMembers siblings i ms g).1.map (fun m => m.enumerators.map (·.id) ++ [m.id]) =
      ms.map fun m => m.enumerators.map (·.id) ++ [m.id] := by
  induction ms generalizing i g with
  | nil => rfl
  | cons m ms ih =>
    rw [applyMembers]
    dsimp only
    rw [List.map_cons, List.map_cons, ih, id_applyAll]

end Directive

theorem idsOf_compound (c : Compound) :
    idsOf c.entities = c.id :: (c.members.map fun m => m.enumerators.map (·.id) ++ [m.id]).flatten := by
  rw [Compound.entities, idsOf, List.map_cons, List.map_flatMap, List.flatMap_def]
  exact congrArg (c.id :: ·) (congrArg List.flatten (List.map_congr_left fun m _ => idsOf_entities m c.id))

/-- A compound has the same identifiers after its directives. -/
theorem idsOf_applyCompound (c : Compound) (g : OverloadGroups) :
    idsOf (Directive.applyCompound c g).1.entities = idsOf c.entities := by
  rw [idsOf_compound, idsOf_compound, Directive.applyCompound]
  dsimp only
  rw [Directive.ids_applyMembers, Directive.id_applyAll]

/-! ### Compounds -/

/-- The entities of compounds, up to the first that cannot be read. -/
def entitiesOf (tokens : List String) : List Element → List Entity
  | [] => []
  | e :: rest =>
    if isSpellable e then (compoundOf tokens e).entities ++ entitiesOf tokens rest
    else
      let c := readCompound e
      .compound { c with members := readMembers tokens c.id 0 ((memberElements e).takeWhile (!isUnspellable ·)) } ::
        memberEntities tokens c.id 0 (memberElements e)

theorem id_readCompound (position : Nat) (e : Element) : (readCompound e).id = (compoundSource position e).origin.id := by
  have hid : (if (e.valueOf "id").isEmpty then e.valueOf "kind" ++ "_" ++ lineOf (e.find? "compoundname")
      else e.valueOf "id") = (compoundSource position e).origin.id := by
    rw [compoundSource]
    dsimp only
    split <;> rfl
  rw [readCompound]
  dsimp only
  rw [Symbol.id_locate, Symbol.id_describe]
  exact hid

/-- The identifiers of compounds and what is in them come from their sources, or are the first of those. -/
theorem ids_entitiesOf (tokens : List String) (position : Nat) (es : List Element) :
    idsOf (entitiesOf tokens es) <+: sourceIds (compoundSources position es) ∧
      (es.all isSpellable = true → idsOf (entitiesOf tokens es) = sourceIds (compoundSources position es)) := by
  induction es generalizing position with
  | nil => exact ⟨List.prefix_rfl, fun _ => rfl⟩
  | cons e rest ih =>
    have hmembers := ids_memberEntities tokens (compoundSource position e) 0 (memberElements e)
    rw [← id_readCompound position e] at hmembers
    rw [entitiesOf, compoundSources, List.all_cons]
    cases hspell : isSpellable e with
    | true =>
      have hcompound : idsOf (compoundOf tokens e).entities =
          sourceIds (compoundSource position e :: memberSources (compoundSource position e) 0 (memberElements e)) := by
        rw [compoundOf, idsOf_applyCompound]
        have hall : (memberElements e).all (!isUnspellable ·) = true := hspell
        have hentities := hmembers.2 hall
        rw [memberEntities_of_sound hall] at hentities
        rw [sourceIds, List.map_cons, ← id_readCompound position e, ← sourceIds, ← hentities]
        rfl
      obtain ⟨hfirst, hlater⟩ := ih (position + 1)
      rw [if_pos rfl, if_pos rfl, idsOf, List.map_append, ← idsOf, hcompound, sourceIds, sourceIds, List.map_append]
      exact ⟨(List.prefix_append_right_inj _).2 hfirst, fun h => congrArg (_ ++ ·) (hlater (Bool.and_eq_true_iff.1 h).2)⟩
    | false =>
      refine ⟨?_, fun h => absurd (Bool.and_eq_true_iff.1 h).1 Bool.false_ne_true⟩
      rw [if_neg Bool.false_ne_true, if_neg Bool.false_ne_true, List.append_nil, sourceIds, List.map_cons,
        ← id_readCompound position e]
      exact List.cons_prefix_cons.2 ⟨rfl, hmembers.1⟩

theorem entitiesOf_append (tokens : List String) (es later : List Element) :
    entitiesOf tokens (es ++ later) =
      entitiesOf tokens es ++ if es.all isSpellable then entitiesOf tokens later else [] := by
  induction es with
  | nil => rfl
  | cons e es ih =>
    rw [List.cons_append, entitiesOf, entitiesOf, ih, List.all_cons]
    cases isSpellable e with
    | true => simp
    | false => simp

theorem entitiesOf_of_spellable {es : List Element} (h : es.all isSpellable = true) :
    entitiesOf tokens es = (es.map (compoundOf tokens)).flatMap (·.entities) := by
  induction es with
  | nil => rfl
  | cons e es ih =>
    rw [List.all_cons, Bool.and_eq_true] at h
    rw [entitiesOf, if_pos h.1, ih h.2, List.map_cons, List.flatMap_cons]

/-! ### Graphs -/

namespace Graph

/-- The symbols with some entities under their identifiers, in order. -/
def held (symbols : OrderedMap Entity) (es : List Entity) : OrderedMap Entity :=
  es.foldl (fun symbols e => symbols.insert e.symbol.id e) symbols

theorem held_append (symbols : OrderedMap Entity) (es later : List Entity) :
    held symbols (es ++ later) = held (held symbols es) later := List.foldl_append

theorem symbols_registerAll (g : Graph) (es : List Entity) : (g.registerAll es).value.symbols = held g.symbols es := by
  induction es generalizing g with
  | nil => rfl
  | cons e es ih =>
    have hfirst : (g.register e).value.symbols = g.symbols.insert e.symbol.id e := by
      unfold register
      dsimp only
      split <;> rfl
    rw [registerAll, Logged.value_bind, ih, hfirst]
    rfl

theorem symbols_insertCompound (g : Graph) (c : Compound) : (g.insertCompound c).value.symbols = held g.symbols c.entities :=
  g.symbols_registerAll c.entities

/-- An element adds the entities of its compound, or those before the fault. -/
theorem symbols_addCompound (g : Graph) (e : Element) :
    (g.addCompound e).value.1.symbols = held g.symbols (entitiesOf g.ignoredTokens [e]) := by
  rw [entitiesOf]
  cases hspell : isSpellable e with
  | true =>
    obtain ⟨groups, hadded⟩ := g.addCompound_of_isSpellable hspell
    rw [if_pos rfl, entitiesOf, List.append_nil, hadded]
    exact symbols_insertCompound { g with groups } (compoundOf g.ignoredTokens e)
  | false =>
    obtain ⟨sound, faulty, rest, hsplit, hsound, hfaulty, htake⟩ := exists_faulty hspell
    have hentities := memberEntities_of_faulty g.ignoredTokens (readCompound e).id 0 rest hsound hfaulty
    rw [Nat.zero_add] at hentities
    rw [if_neg Bool.false_ne_true]
    dsimp only
    rw [hsplit, htake, hentities, ← List.cons_append, held_append]
    unfold addCompound
    simp only [hsplit, htake, List.drop_left]
    -- the compound comes with its sound members, and keeps the tokens of the graph
    generalize hc : { readCompound e with members := readMembers g.ignoredTokens (readCompound e).id 0 sound } = c
    have hinserted := g.symbols_insertCompound c
    have htokens := (g.insertCompound_spec c).2
    rw [Logged.value_bind, Logged.value_bind, htokens]
    change ((g.insertCompound c).value.registerAll _).value.symbols = _
    rw [symbols_registerAll, hinserted, ← hc]
    rfl

/-- Something is added without a failure just if it can be read, and the tokens of the graph stay. -/
theorem Adds.failure_cases {g : Graph} {result : Graph × Option Failure} {found? : Option (List Compound)}
    (h : g.Adds result found?) :
    (∃ g', result = (g', none) ∧ found?.isSome = true ∧ g'.ignoredTokens = g.ignoredTokens) ∨
      ∃ g' failure, result = (g', some failure) ∧ found?.isSome = false := by
  obtain ⟨g', failure?⟩ := result
  cases failure? with
  | none =>
    obtain ⟨cs, rfl, -, htokens⟩ := h
    exact .inl ⟨g', rfl, rfl, htokens⟩
  | some failure =>
    have hnone : found? = none := h
    exact .inr ⟨g', failure, rfl, by rw [hnone]; rfl⟩

theorem isSome_compoundsOf? (tokens : List String) (es : List Element) :
    (compoundsOf? tokens es).isSome = (es.filter isCompound).all isSpellable := by
  rw [compoundsOf?]
  cases (es.filter isCompound).all isSpellable <;> rfl

/-- Elements add the entities of their compounds, or those before the first fault. -/
theorem symbols_addElements (g : Graph) (es : List Element) :
    (g.addElements es).value.1.symbols = held g.symbols (entitiesOf g.ignoredTokens (es.filter isCompound)) := by
  induction es generalizing g with
  | nil => rfl
  | cons e es ih =>
    rw [addElements]
    cases hpage : e.valueOf "kind" == "page" with
    | true =>
      have hsymbols : (g.addPage e).value.symbols = g.symbols := by
        unfold addPage
        dsimp only
        split <;> rfl
      rw [if_pos rfl, Logged.value_bind, ih, hsymbols, (g.addPage_spec e).2,
        List.filter_cons_of_neg (by simp [isCompound, bne, hpage])]
    | false =>
      have hsymbols := g.symbols_addCompound e
      have hspells : (if isSpellable e then some [compoundOf g.ignoredTokens e] else none).isSome = [e].all isSpellable := by
        rw [List.all_cons, List.all_nil, Bool.and_true]
        cases isSpellable e <;> rfl
      rw [if_neg Bool.false_ne_true, Logged.value_bind, List.filter_cons_of_pos (by simp [isCompound, bne, hpage]),
        ← List.singleton_append, entitiesOf_append, held_append, ← hsymbols]
      rcases (g.addCompound_spec e).failure_cases with ⟨g', hresult, hfound, htokens⟩ | ⟨g', failure, hresult, hfound⟩
      · rw [hspells] at hfound
        rw [hresult, if_pos hfound, ← htokens]
        exact ih g'
      · rw [hspells] at hfound
        rw [hresult, hfound]
        rfl

end Graph

/-! ### Documents -/

/-- The elements that describe compounds in documents, up to the first document that is not well-formed. -/
def elementsOf : List Document → List Element
  | [] => []
  | d :: rest => d.elements?.elim [] fun es => es.filter isCompound ++ elementsOf rest

/-- The entities that documents register, in order, up to the first fault. -/
def registered (tokens : List String) (ds : List Document) : List Entity := entitiesOf tokens (elementsOf ds)

/-- Where the identifiers in documents come from, up to the first fault. -/
def originsIn (ds : List Document) : List IdOrigin := (compoundSources 0 (elementsOf ds)).map (·.origin)

namespace Graph

/-- A document adds its entities, or those before the first fault. -/
theorem symbols_addDocument (g : Graph) (d : Document) :
    (g.addDocument d).value.1.symbols =
      held g.symbols (entitiesOf g.ignoredTokens (d.elements?.elim [] (·.filter isCompound))) := by
  cases d with
  | text contents =>
    rw [addDocument, addText, Document.elements?]
    cases readDocument? contents with
    | none => rfl
    | some root => exact g.symbols_addElements (compoundElements root)
  | file path contents =>
    rw [addDocument, addFile, Document.elements?]
    cases readFile contents with
    | ok root => exact g.symbols_addElements (compoundElements root)
    | error fault => cases fault <;> rfl

/-- **Documents register their entities in order.** -/
theorem symbols_addDocuments (g : Graph) (ds : List Document) :
    (g.addDocuments ds).value.1.symbols = held g.symbols (registered g.ignoredTokens ds) := by
  unfold registered
  induction ds generalizing g with
  | nil => rfl
  | cons d ds ih =>
    have hsymbols := g.symbols_addDocument d
    rw [addDocuments, Logged.value_bind, elementsOf]
    rcases (g.addDocument_spec d).failure_cases with ⟨g', hresult, hfound, htokens⟩ | ⟨g', failure, hresult, hfound⟩
    · rw [hresult] at hsymbols ⊢
      rw [Document.compounds?] at hfound
      cases helements : d.elements? with
      | none =>
        rw [helements] at hfound
        cases hfound
      | some es =>
        rw [helements] at hfound hsymbols
        rw [Option.bind_some, isSome_compoundsOf?] at hfound
        dsimp only [Option.elim_some] at hsymbols ⊢
        rw [entitiesOf_append, if_pos hfound, held_append, ← hsymbols, ← htokens]
        exact ih g'
    · rw [hresult] at hsymbols ⊢
      rw [Document.compounds?] at hfound
      cases helements : d.elements? with
      | none =>
        rw [helements] at hsymbols
        exact hsymbols
      | some es =>
        rw [helements] at hfound hsymbols
        rw [Option.bind_some, isSome_compoundsOf?] at hfound
        dsimp only [Option.elim_some] at hsymbols ⊢
        rw [entitiesOf_append, hfound, if_neg Bool.false_ne_true, List.append_nil]
        exact hsymbols

end Graph

/-- Where every document can be read, what is registered are the compounds with all that is in them. -/
theorem registered_of_readable {ds : List Document} (h : ds.all (·.isReadable tokens) = true) :
    (elementsOf ds).all isSpellable = true ∧ registered tokens ds = (described tokens ds).flatMap (·.entities) := by
  have hall : (elementsOf ds).all isSpellable = true ∧ (elementsOf ds).map (compoundOf tokens) = described tokens ds := by
    induction ds with
    | nil => exact ⟨rfl, rfl⟩
    | cons d ds ih =>
      rw [List.all_cons, Bool.and_eq_true, Document.isReadable] at h
      obtain ⟨hspell, hcompounds⟩ := ih h.2
      obtain ⟨cs, hcs⟩ := Option.isSome_iff_exists.1 h.1
      obtain ⟨es, helements, hfound⟩ := Option.bind_eq_some_iff.1 hcs
      rw [compoundsOf?] at hfound
      split at hfound
      · next hsound =>
        rw [described, List.flatMap_cons, ← described, hcs, Option.getD_some, ← hcompounds, elementsOf, helements,
          Option.elim_some, List.all_append, hsound, hspell, List.map_append, Option.some.inj hfound]
        exact ⟨rfl, rfl⟩
      · cases hfound
  exact ⟨hall.1, by rw [registered, entitiesOf_of_spellable hall.1, hall.2]⟩

/-- A graph holds some entities and nothing else, each under an identifier of its own. -/
structure Graph.HoldsAll (g : Graph) (entities : List Entity) : Prop where
  /-- No identifier comes twice. -/
  apart : (idsOf entities).Nodup
  /-- The symbols are the entities in order. -/
  symbols : g.symbols.toList = entities.map fun e => (e.symbol.id, e)

/-- **The graph holds all that is read.** The identifiers of what documents register, up to the first fault, come from
where the documents say. Let no identifier be given twice, and no two compounds without one have the same kind and name. If
what is made of kinds, names and positions is apart from the rest, then all that is registered is in the graph, each under an
identifier of its own. If every document can be read, what is registered is all compounds of the graph with their members
and enumerators, and it is all there only then. -/
theorem registered_apart {tokens : List String} {ds : List Document} (hgiven : ((originsIn ds).filterMap (·.given?)).Nodup)
    (hnamed : ((originsIn ds).filterMap (·.named?)).Nodup) :
    idsOf (registered tokens ds) <+: (originsIn ds).map (·.id) ∧
    (IdsApart (originsIn ds) →
      (Graph.addDocuments { ignoredTokens := tokens } ds).value.1.HoldsAll (registered tokens ds)) ∧
    ((Graph.addDocuments { ignoredTokens := tokens } ds).value.2 = none →
      (Graph.addDocuments { ignoredTokens := tokens } ds).value.1.compounds.flatMap (·.entities) = registered tokens ds ∧
      idsOf (registered tokens ds) = (originsIn ds).map (·.id) ∧
      ((Graph.addDocuments { ignoredTokens := tokens } ds).value.1.HoldsAll (registered tokens ds) →
        IdsApart (originsIn ds))) := by
  rw [originsIn, List.filterMap_map] at hgiven hnamed
  obtain ⟨hfirst, hall⟩ := ids_entitiesOf tokens 0 (elementsOf ds)
  have horigins : (originsIn ds).map (·.id) = sourceIds (compoundSources 0 (elementsOf ds)) := by
    rw [originsIn, List.map_map]
    rfl
  refine ⟨horigins ▸ hfirst, fun hapart => ?_, fun hread => ?_⟩
  · have hsources := nodup_ids hgiven hnamed hapart (isRooted_compoundSources 0 _) (nodup_places_compoundSources 0 _)
    have hnodup : (idsOf (registered tokens ds)).Nodup := hsources.sublist hfirst.sublist
    refine ⟨hnodup, ?_⟩
    have hkeys : (((registered tokens ds).map fun e => (e.symbol.id, e)).map (·.1)).Nodup := by
      rw [List.map_map]
      exact hnodup
    rw [Graph.symbols_addDocuments, Graph.held, ← OrderedMap.toList_foldl_insert hkeys, List.foldl_map]
  · have hadds := Graph.addDocuments_spec { ignoredTokens := tokens } ds
    rcases hadds.failure_cases with ⟨g', hresult, hfound, -⟩ | ⟨g', failure, hresult, -⟩
    · have hreadable : ds.all (·.isReadable tokens) = true := by
        by_contra hreadable
        rw [if_neg hreadable] at hfound
        cases hfound
      obtain ⟨hspell, hregistered⟩ := registered_of_readable hreadable
      have hids : idsOf (registered tokens ds) = (originsIn ds).map (·.id) := (hall hspell).trans horigins.symm
      rw [if_pos hreadable] at hadds
      unfold Graph.Adds at hadds
      rw [hread] at hadds
      obtain ⟨cs, hcs, hcompounds, -⟩ := hadds
      cases hcs
      refine ⟨?_, hids, fun hholds => idsApart_of_nodup (hids ▸ hholds.apart)⟩
      rw [hcompounds, hregistered]
      rfl
    · rw [hresult] at hread
      cases hread

/-- A class with an enumeration and a function that have no identifiers, and a file that has none. -/
def gaugeText : List Document :=
  [.text ("<compounddef id='c' kind='class'><sectiondef><memberdef kind='enum'><enumvalue/><enumvalue id='v'/>" ++
      "</memberdef><memberdef/></sectiondef></compounddef>"),
    .text "<compounddef kind='file'/>"]

theorem registered_apart_gauge :
    originsIn gaugeText = [.given "c", .placed "c_0" 0, .given "v", .placed "c" 0, .placed "c" 1, .named "file" ""] ∧
      ((originsIn gaugeText).filterMap (·.given?)).Nodup ∧ ((originsIn gaugeText).filterMap (·.named?)).Nodup ∧
      IdsApart (originsIn gaugeText) ∧ (Graph.addDocuments {} gaugeText).value.1.HoldsAll (registered [] gaugeText) := by
  have horigins : originsIn gaugeText =
      [.given "c", .placed "c_0" 0, .given "v", .placed "c" 0, .placed "c" 1, .named "file" ""] := by decide +kernel
  have hgiven : ((originsIn gaugeText).filterMap (·.given?)).Nodup := by
    rw [horigins]
    decide
  have hnamed : ((originsIn gaugeText).filterMap (·.named?)).Nodup := by
    rw [horigins]
    decide
  have hapart : IdsApart (originsIn gaugeText) := by
    rw [horigins]
    exact idsApart_of_nodup (by decide)
  exact ⟨horigins, hgiven, hnamed, hapart, (registered_apart hgiven hnamed).2.1 hapart⟩

/-- A class whose second member is given the identifier that is made for the first. -/
def dialClash : List Document :=
  [.text "<compounddef id='c' kind='class'><sectiondef><memberdef/><memberdef id='c_0'/></sectiondef></compounddef>"]

/-- One of the two is lost. -/
theorem not_apart_dial :
    originsIn dialClash = [.given "c", .placed "c" 0, .given "c_0"] ∧
      ((originsIn dialClash).filterMap (·.given?)).Nodup ∧ ((originsIn dialClash).filterMap (·.named?)).Nodup ∧
      (Graph.addDocuments {} dialClash).value.2.isNone = true ∧
      ((Graph.addDocuments {} dialClash).value.1.compounds.flatMap fun c => idsOf c.entities) = ["c", "c_0", "c_0"] ∧
      (Graph.addDocuments {} dialClash).value.1.symbols.keys = ["c", "c_0"] := by
  decide +kernel

end ScriptGlue
