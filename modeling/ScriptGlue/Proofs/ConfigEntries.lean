import Mathlib.Data.List.Forall2
import ScriptGlue.Config.Reader
import ScriptGlue.Proofs.Spacing

/-!
# Entries of a configuration

A configuration document is a row of entries of twelve kinds, in any order. It is read in twelve passes, one for each
kind. **`ofText_entries`** says that this comes to the same as taking the entries one by one as they stand (`Config.extend`),
that only the order among entries of one kind matters, and that a document is refused just if some element breaks the
rules for its kind (`Element.IsFaulty`).
-/

namespace ScriptGlue

open ScriptGlue.Text ScriptGlue.Xml

/-! ### Entries -/

/-- The tables that are lists of names. -/
inductive NameTable where
  | numberTypes
  | refcountedBases
  | refcountedFragments
  | refcountedMarkers
  | deniedNamespaces
  | headerPrefixes
  | skipPropertyClasses
  deriving DecidableEq

namespace NameTable

/-- The element that adds a name. -/
def tag : NameTable → String
  | numberTypes => "number_type"
  | refcountedBases => "refcounted"
  | refcountedFragments => "refcounted_fragment"
  | refcountedMarkers => "refcounted_marker"
  | deniedNamespaces => "bad_namespace"
  | headerPrefixes => "header_prefix"
  | skipPropertyClasses => "skip_properties"

/-- The attribute that holds the name. -/
def attributeName : NameTable → String
  | headerPrefixes => "path"
  | skipPropertyClasses => "class"
  | _ => "name"

/-- The configuration with one more name at the end of the table. -/
def add (config : Config) (name : String) : NameTable → Config
  | numberTypes => { config with numberTypes := config.numberTypes ++ [name] }
  | refcountedBases => { config with refcountedBases := config.refcountedBases ++ [name] }
  | refcountedFragments => { config with refcountedFragments := config.refcountedFragments ++ [name] }
  | refcountedMarkers => { config with refcountedMarkers := config.refcountedMarkers ++ [name] }
  | deniedNamespaces => { config with deniedNamespaces := config.deniedNamespaces ++ [name] }
  | headerPrefixes => { config with headerPrefixes := config.headerPrefixes ++ [name] }
  | skipPropertyClasses => { config with skipPropertyClasses := config.skipPropertyClasses ++ [name] }

end NameTable

/-- The tables that are maps. -/
inductive PairTable where
  | templateSubstitutions
  | headerAliases
  | fallbackIncludes
  deriving DecidableEq

namespace PairTable

/-- The element that gives a name its value. -/
def tag : PairTable → String
  | templateSubstitutions => "template_substitution"
  | headerAliases => "header_alias"
  | fallbackIncludes => "fallback_include"

/-- The attribute that holds the name. -/
def key : PairTable → String
  | templateSubstitutions => "from"
  | _ => "class"

/-- The attribute that holds the value. -/
def value : PairTable → String
  | templateSubstitutions => "to"
  | _ => "header"

/-- The configuration with a value for a name in the table. -/
def put (config : Config) (name value : String) : PairTable → Config
  | templateSubstitutions => { config with templateSubstitutions := config.templateSubstitutions.insert name value }
  | headerAliases => { config with headerAliases := config.headerAliases.insert name value }
  | fallbackIncludes => { config with fallbackIncludes := config.fallbackIncludes.insert name value }

end PairTable

/-- The kinds of entries. -/
inductive EntryKind where
  | name (table : NameTable)
  | pair (table : PairTable)
  | deniedType
  | exclusion
  deriving DecidableEq

namespace EntryKind

/-- The element of an entry of the kind. -/
def tag : EntryKind → String
  | name table => table.tag
  | pair table => table.tag
  | deniedType => "bad_type"
  | exclusion => "exclude"

/-- The kinds in the order in which they are read. -/
def all : List EntryKind :=
  [.name .numberTypes, .name .refcountedBases, .name .refcountedFragments, .name .refcountedMarkers,
    .name .deniedNamespaces, .deniedType, .pair .templateSubstitutions, .pair .headerAliases, .pair .fallbackIncludes,
    .name .headerPrefixes, .exclusion, .name .skipPropertyClasses]

theorem mem_all (k : EntryKind) : k ∈ all := by
  cases k with
  | name table => cases table <;> decide
  | pair table => cases table <;> decide
  | _ => decide

theorem tag_injective : Function.Injective tag := by
  have hall : ∀ k ∈ all, ∀ k' ∈ all, k.tag = k'.tag → k = k' := by decide
  exact fun k k' => hall k k.mem_all k' k'.mem_all

theorem exists_iff {p : EntryKind → Prop} :
    (∃ k, p k) ↔ p (.name .numberTypes) ∨ p (.name .refcountedBases) ∨ p (.name .refcountedFragments) ∨
      p (.name .refcountedMarkers) ∨ p (.name .deniedNamespaces) ∨ p .deniedType ∨ p (.pair .templateSubstitutions) ∨
      p (.pair .headerAliases) ∨ p (.pair .fallbackIncludes) ∨ p (.name .headerPrefixes) ∨ p .exclusion ∨
      p (.name .skipPropertyClasses) := by
  have hall : (∃ k, p k) ↔ ∃ k ∈ all, p k := ⟨fun ⟨k, h⟩ => ⟨k, k.mem_all, h⟩, fun ⟨k, _, h⟩ => ⟨k, h⟩⟩
  simp only [hall, all, List.exists_mem_cons_iff, List.not_mem_nil, false_and, exists_false, or_false]

end EntryKind

/-- An entry of a configuration document. -/
inductive ConfigEntry where
  | name (table : NameTable) (value : String)
  | pair (table : PairTable) (key value : String)
  | deniedType (rule : DeniedType)
  | exclusion (rule : Exclusion)

/-- The configuration with one more entry. -/
def Config.extend (config : Config) : ConfigEntry → Config
  | .name table value => table.add config value
  | .pair table key value => table.put config key value
  | .deniedType rule => { config with deniedTypes := config.deniedTypes ++ [rule] }
  | .exclusion rule => { config with exclusions := config.exclusions ++ [rule] }

/-- The value is there and has no blanks at its ends. -/
def IsStripped (value : String) : Prop := value ≠ "" ∧ trim value = value

/-- The text is a list of the values with commas, and with blanks as one likes. -/
def IsListOf (values : List String) (text : String) : Prop :=
  ∃ pieces : List (List Char), (∀ piece ∈ pieces, ',' ∉ piece) ∧ pieces.map (String.ofList ∘ trimChars) = values ∧
    text.toList = [','].intercalate pieces

namespace ConfigEntry

/-- The kind of the entry. -/
def kind : ConfigEntry → EntryKind
  | name table _ => .name table
  | pair table _ _ => .pair table
  | deniedType _ => .deniedType
  | exclusion _ => .exclusion

/-- What an entry says can be written down as it is. -/
def IsPlain : ConfigEntry → Prop
  | name _ value => IsStripped value
  | pair _ key value => IsStripped key ∧ IsStripped value
  | deniedType rule => rule.pattern ≠ "" ∧ (rule.mode = "contains" ∨ rule.mode = "endswith")
  | exclusion rule => IsStripped rule.member ∧ occursIn "::" rule.member = true ∧
      ∀ parameters ∈ rule.parameters, ∀ p ∈ parameters, IsStripped p

/-- The element has what the entry says in its attributes. The mode of a denied type may be left to its default, and may
stand in capitals and between blanks. -/
def IsWrittenAs (x : ConfigEntry) (e : Element) : Prop :=
  e.tag = x.kind.tag ∧
    match x with
    | name table value => e.valueOf? table.attributeName = some value
    | pair table key value => e.valueOf? table.key = some key ∧ e.valueOf? table.value = some value
    | deniedType rule =>
      e.valueOf? "pattern" = some rule.pattern ∧ lower (trim ((e.valueOf? "match").getD "contains")) = rule.mode
    | exclusion rule => e.valueOf? "member" = some rule.member ∧ Option.Rel IsListOf rule.parameters (e.valueOf? "params")

/-! ### Entries of one kind -/

/-- The name that the entry adds to a table. -/
def nameIn? (table : NameTable) : ConfigEntry → Option String
  | name table' value => if table' = table then some value else none
  | _ => none

/-- The name and value that the entry adds to a table. -/
def pairIn? (table : PairTable) : ConfigEntry → Option (String × String)
  | pair table' key value => if table' = table then some (key, value) else none
  | _ => none

/-- The denied type that the entry adds. -/
def deniedType? : ConfigEntry → Option DeniedType
  | deniedType rule => some rule
  | _ => none

/-- The exclusion that the entry adds. -/
def exclusion? : ConfigEntry → Option Exclusion
  | exclusion rule => some rule
  | _ => none

/-- Something is read from the entries of one kind. -/
def Picks {α : Type} (k : EntryKind) (pick : ConfigEntry → Option α) : Prop := ∀ x, (pick x).isSome = true ↔ x.kind = k

theorem picks_nameIn? (table : NameTable) : Picks (.name table) (nameIn? table) := by
  intro x
  cases x <;> simp [nameIn?, kind]

theorem picks_pairIn? (table : PairTable) : Picks (.pair table) (pairIn? table) := by
  intro x
  cases x <;> simp [pairIn?, kind]

theorem picks_deniedType? : Picks .deniedType deniedType? := by
  intro x
  cases x <;> simp [deniedType?, kind]

theorem picks_exclusion? : Picks .exclusion exclusion? := by
  intro x
  cases x <;> simp [exclusion?, kind]

theorem Picks.eq_none {α : Type} {k : EntryKind} {pick : ConfigEntry → Option α} (h : Picks k pick) {x : ConfigEntry}
    (hx : x.kind ≠ k) : pick x = none :=
  Option.not_isSome_iff_eq_none.1 (mt (h x).1 hx)

theorem Picks.filterMap_eq {α : Type} {k : EntryKind} {pick : ConfigEntry → Option α} (h : Picks k pick)
    (entries : List ConfigEntry) : entries.filterMap pick = (entries.filter (·.kind = k)).filterMap pick := by
  rw [List.filterMap_filter]
  refine List.filterMap_congr fun x _ => ?_
  by_cases hk : x.kind = k
  · simp [hk]
  · simp [hk, h.eq_none hk]

end ConfigEntry

/-- The configuration with some entries, table by table. -/
def Config.extendByTable (config : Config) (entries : List ConfigEntry) : Config :=
  { config with
    numberTypes := config.numberTypes ++ entries.filterMap (·.nameIn? .numberTypes)
    refcountedBases := config.refcountedBases ++ entries.filterMap (·.nameIn? .refcountedBases)
    refcountedFragments := config.refcountedFragments ++ entries.filterMap (·.nameIn? .refcountedFragments)
    refcountedMarkers := config.refcountedMarkers ++ entries.filterMap (·.nameIn? .refcountedMarkers)
    deniedNamespaces := config.deniedNamespaces ++ entries.filterMap (·.nameIn? .deniedNamespaces)
    deniedTypes := config.deniedTypes ++ entries.filterMap (·.deniedType?)
    templateSubstitutions := addAll config.templateSubstitutions (entries.filterMap (·.pairIn? .templateSubstitutions))
    headerAliases := addAll config.headerAliases (entries.filterMap (·.pairIn? .headerAliases))
    fallbackIncludes := addAll config.fallbackIncludes (entries.filterMap (·.pairIn? .fallbackIncludes))
    headerPrefixes := config.headerPrefixes ++ entries.filterMap (·.nameIn? .headerPrefixes)
    exclusions := config.exclusions ++ entries.filterMap (·.exclusion?)
    skipPropertyClasses := config.skipPropertyClasses ++ entries.filterMap (·.nameIn? .skipPropertyClasses) }

/-- Entries that are taken one by one each go to their table. -/
theorem Config.foldl_extend (config : Config) (entries : List ConfigEntry) :
    entries.foldl extend config = config.extendByTable entries := by
  induction entries generalizing config with
  | nil => simp only [extendByTable, addAll, List.foldl_nil, List.filterMap_nil, List.append_nil]
  | cons x entries ih =>
    rw [List.foldl_cons, ih]
    cases x with
    | name table value =>
      cases table <;> simp only [extendByTable, extend, NameTable.add, List.append_assoc] <;> rfl
    | pair table key value => cases table <;> rfl
    | deniedType rule => simp only [extendByTable, extend, List.append_assoc] ; rfl
    | exclusion rule => simp only [extendByTable, extend, List.append_assoc] ; rfl

/-- Entries of different kinds can stand in any order. -/
theorem Config.foldl_extend_congr (config : Config) {entries entries' : List ConfigEntry}
    (h : ∀ k, entries.filter (·.kind = k) = entries'.filter (·.kind = k)) :
    entries.foldl extend config = entries'.foldl extend config := by
  have hname (table : NameTable) : entries.filterMap (·.nameIn? table) = entries'.filterMap (·.nameIn? table) := by
    rw [(ConfigEntry.picks_nameIn? table).filterMap_eq, h, ← (ConfigEntry.picks_nameIn? table).filterMap_eq]
  have hpair (table : PairTable) : entries.filterMap (·.pairIn? table) = entries'.filterMap (·.pairIn? table) := by
    rw [(ConfigEntry.picks_pairIn? table).filterMap_eq, h, ← (ConfigEntry.picks_pairIn? table).filterMap_eq]
  have hdenied : entries.filterMap (·.deniedType?) = entries'.filterMap (·.deniedType?) := by
    rw [ConfigEntry.picks_deniedType?.filterMap_eq, h, ← ConfigEntry.picks_deniedType?.filterMap_eq]
  have hexcluded : entries.filterMap (·.exclusion?) = entries'.filterMap (·.exclusion?) := by
    rw [ConfigEntry.picks_exclusion?.filterMap_eq, h, ← ConfigEntry.picks_exclusion?.filterMap_eq]
  rw [foldl_extend, foldl_extend]
  simp only [extendByTable, hname, hpair, hdenied, hexcluded]

/-! ### Reading entries back -/

namespace Config

/-- The names that a document adds to a table. -/
def namesFor (root : Element) (table : NameTable) : Except ConfigError (List String) :=
  requiredOfAll root table.tag table.attributeName

/-- The names and values that a document adds to a table. -/
def pairsFor (root : Element) (table : PairTable) : Except ConfigError (List (String × String)) :=
  pairsOfAll root table.tag table.key table.value

/-- A document is read kind by kind. -/
theorem ofElement_eq {root : Element} (h : root.tag = "bindings") :
    ofElement root = (do
      let numberTypes ← namesFor root .numberTypes
      let bases ← namesFor root .refcountedBases
      let fragments ← namesFor root .refcountedFragments
      let markers ← namesFor root .refcountedMarkers
      let namespaces ← namesFor root .deniedNamespaces
      let deniedTypes ← (root.named EntryKind.deniedType.tag).mapM readDeniedType
      let substitutions ← pairsFor root .templateSubstitutions
      let aliases ← pairsFor root .headerAliases
      let fallbacks ← pairsFor root .fallbackIncludes
      let prefixes ← namesFor root .headerPrefixes
      let exclusions ← (root.named EntryKind.exclusion.tag).mapM readExclusion
      let skipped ← namesFor root .skipPropertyClasses
      let base := Config.default
      pure { base with
        numberTypes := base.numberTypes ++ numberTypes
        refcountedBases := base.refcountedBases ++ bases
        refcountedFragments := base.refcountedFragments ++ fragments
        refcountedMarkers := base.refcountedMarkers ++ markers
        deniedNamespaces := base.deniedNamespaces ++ namespaces
        deniedTypes := base.deniedTypes ++ deniedTypes
        templateSubstitutions := addAll base.templateSubstitutions substitutions
        headerAliases := addAll base.headerAliases aliases
        fallbackIncludes := addAll base.fallbackIncludes fallbacks
        headerPrefixes := base.headerPrefixes ++ prefixes
        exclusions := base.exclusions ++ exclusions
        skipPropertyClasses := base.skipPropertyClasses ++ skipped }) := by
  rw [ofElement, if_neg (by simp [h])]
  rfl

theorem required_of_isStripped {e : Element} {name value : String} (hvalue : e.valueOf? name = some value)
    (h : IsStripped value) : required e name = .ok value := by
  have hvalue' : e.valueOf name = value := by rw [Element.valueOf, hvalue, Option.getD_some]
  rw [required, hvalue', h.2]
  exact if_neg (by simpa using h.1)

theorem readParameters_of_isListOf {values : List String} {text : String} (h : IsListOf values text)
    (hvalues : ∀ p ∈ values, IsStripped p) : readParameters text = values := by
  obtain ⟨pieces, hcomma, rfl, htext⟩ := h
  rw [readParameters, htext]
  cases pieces with
  | nil => rfl
  | cons first later =>
    rw [splitAtChar_intercalate (List.cons_ne_nil _ _) hcomma, List.filter_eq_self.2]
    intro p hp
    simpa using (hvalues p hp).1

end Config

namespace ConfigEntry

/-- What is said of a kind is read from its elements, in order. -/
theorem Picks.mapM_eq {α : Type} {k : EntryKind} {pick : ConfigEntry → Option α} (hpick : Picks k pick)
    {read : Element → Except ConfigError α}
    (hread : ∀ x e a, x.IsPlain → x.IsWrittenAs e → pick x = some a → read e = .ok a)
    {entries : List ConfigEntry} {elements : List Element} (hplain : ∀ x ∈ entries, x.IsPlain)
    (h : List.Forall₂ IsWrittenAs entries elements) :
    (elements.filter (·.tag == k.tag)).mapM read = .ok (entries.filterMap pick) := by
  induction h with
  | nil => rfl
  | @cons x e entries elements hx _ ih =>
    have ih := ih fun y hy => hplain y (List.mem_cons_of_mem x hy)
    by_cases hk : x.kind = k
    · obtain ⟨a, ha⟩ := Option.isSome_iff_exists.1 ((hpick x).2 hk)
      have htag : (e.tag == k.tag) = true := by rw [hx.1, hk, beq_self_eq_true]
      rw [List.filter_cons, if_pos htag, List.mapM_cons, hread x e a (hplain x List.mem_cons_self) hx ha, ih,
        List.filterMap_cons_some ha]
      rfl
    · have htag : ¬ (e.tag == k.tag) = true := by
        rw [hx.1, beq_iff_eq]
        exact mt (fun heq => EntryKind.tag_injective heq) hk
      rw [List.filter_cons, if_neg htag, List.filterMap_cons_none (hpick.eq_none hk), ih]

variable {root : Element} {entries : List ConfigEntry} (hplain : ∀ x ∈ entries, x.IsPlain)
  (h : List.Forall₂ IsWrittenAs entries root.content.elements)

include hplain h

theorem namesFor_eq (table : NameTable) : Config.namesFor root table = .ok (entries.filterMap (nameIn? table)) := by
  refine (picks_nameIn? table).mapM_eq (fun x e a hx hw ha => ?_) hplain h
  cases x with
  | name table' value =>
    obtain ⟨rfl, rfl⟩ : table' = table ∧ value = a := by simpa [nameIn?] using ha
    exact Config.required_of_isStripped hw.2 hx
  | _ => cases ha

theorem pairsFor_eq (table : PairTable) : Config.pairsFor root table = .ok (entries.filterMap (pairIn? table)) := by
  refine (picks_pairIn? table).mapM_eq (fun x e a hx hw ha => ?_) hplain h
  cases x with
  | pair table' key value =>
    obtain ⟨rfl, rfl⟩ : table' = table ∧ (key, value) = a := by simpa [pairIn?] using ha
    rw [Config.required_of_isStripped hw.2.2 hx.2, Config.required_of_isStripped hw.2.1 hx.1]
    rfl
  | _ => cases ha

theorem deniedTypes_eq :
    (root.named EntryKind.deniedType.tag).mapM Config.readDeniedType = .ok (entries.filterMap deniedType?) := by
  refine picks_deniedType?.mapM_eq (fun x e a hx hw ha => ?_) hplain h
  cases x with
  | deniedType rule =>
    cases ha
    obtain ⟨pattern, mode⟩ := a
    obtain ⟨-, hpattern, hmode⟩ := hw
    have hpattern' : e.valueOf "pattern" = pattern := by rw [Element.valueOf, hpattern, Option.getD_some]
    rw [Config.readDeniedType, hpattern', hmode, if_neg (by simpa using hx.1)]
    obtain rfl | rfl : mode = "contains" ∨ mode = "endswith" := hx.2 <;> rfl
  | _ => cases ha

theorem exclusions_eq :
    (root.named EntryKind.exclusion.tag).mapM Config.readExclusion = .ok (entries.filterMap exclusion?) := by
  refine picks_exclusion?.mapM_eq (fun x e a hx hw ha => ?_) hplain h
  cases x with
  | exclusion rule =>
    cases ha
    obtain ⟨member, parameters⟩ := a
    obtain ⟨hmember, hqualified, hparameters⟩ := hx
    obtain ⟨-, hvalue, hlist⟩ := hw
    have hread : (e.valueOf? "params").map Config.readParameters = parameters := by
      generalize e.valueOf? "params" = params at hlist
      cases hlist with
      | none => rfl
      | some hlist => exact congrArg some (Config.readParameters_of_isListOf hlist (hparameters _ rfl))
    rw [Config.readExclusion, Config.required_of_isStripped hvalue hmember, hread]
    exact if_neg (by simpa using hqualified)
  | _ => cases ha

/-- **What is written as entries is read as they stand.** -/
theorem ofElement_entries (hroot : root.tag = "bindings") :
    Config.ofElement root = .ok (entries.foldl Config.extend .default) := by
  rw [Config.foldl_extend, Config.ofElement_eq hroot, deniedTypes_eq hplain h, exclusions_eq hplain h]
  simp only [namesFor_eq hplain h, pairsFor_eq hplain h]
  rfl

end ConfigEntry

/-! ### Faults -/

/-- The element has no such attribute, or a blank one. -/
def Xml.Element.Lacks (e : Element) (name : String) : Prop := ∀ c ∈ (e.valueOf name).toList, isBlank c = true

/-- What breaks the rules for an element of a kind, and what is said about it. -/
inductive EntryFault (e : Element) : EntryKind → ConfigError → Prop
  | name {table : NameTable} : e.Lacks table.attributeName →
      EntryFault e (.name table) (.missingAttribute e.tag table.attributeName)
  | key {table : PairTable} : e.Lacks table.key → EntryFault e (.pair table) (.missingAttribute e.tag table.key)
  | value {table : PairTable} : e.Lacks table.value → EntryFault e (.pair table) (.missingAttribute e.tag table.value)
  | pattern : e.valueOf "pattern" = "" → EntryFault e .deniedType (.missingAttribute e.tag "pattern")
  | mode {mode : String} : e.valueOf? "match" = some mode → lower (trim mode) ∉ ["contains", "endswith"] →
      EntryFault e .deniedType (.unknownMode (lower (trim mode)))
  | member : e.Lacks "member" → EntryFault e .exclusion (.missingAttribute e.tag "member")
  | unqualified : occursIn "::" (trim (e.valueOf "member")) = false →
      EntryFault e .exclusion (.unqualifiedMember (trim (e.valueOf "member")))

/-- The element is that of an entry and breaks the rules for its kind. -/
def Xml.Element.IsFaulty (e : Element) (error : ConfigError) : Prop := ∃ k : EntryKind, e.tag = k.tag ∧ EntryFault e k error

/-- A computation fails just if there is a fault, and then over a fault. -/
structure Reports {α : Type} (x : Except ConfigError α) (faults : ConfigError → Prop) : Prop where
  of_error : ∀ error, x = .error error → faults error
  exists_error : ∀ error, faults error → ∃ error', x = .error error'

namespace Reports

variable {α β : Type} {x : Except ConfigError α} {faults faults' : ConfigError → Prop}

theorem pure (a : α) : Reports (Pure.pure a) fun _ => False where
  of_error _ h := nomatch h
  exists_error _ h := h.elim

theorem congr (h : Reports x faults) (hiff : ∀ error, faults error ↔ faults' error) : Reports x faults' := by
  rwa [← funext fun error => propext (hiff error)]

/-- A sequence is over the faults of its steps. -/
theorem bind {f : α → Except ConfigError β} (h : Reports x faults) (hf : ∀ a, x = .ok a → Reports (f a) faults') :
    Reports (x >>= f) fun error => faults error ∨ faults' error where
  of_error error herror := by
    cases x with
    | error e =>
      cases herror
      exact .inl (h.of_error _ rfl)
    | ok a => exact .inr ((hf a rfl).of_error error herror)
  exists_error error hfault := by
    cases x with
    | error e => exact ⟨e, rfl⟩
    | ok a =>
      rcases hfault with hfault | hfault
      · obtain ⟨e, he⟩ := h.exists_error error hfault
        cases he
      · exact (hf a rfl).exists_error error hfault

/-- A check adds the fault that it is for. -/
theorem check (p : Prop) [Decidable p] (fault : ConfigError) (h : Reports x faults) :
    Reports (if p then .error fault else x) fun error => p ∧ error = fault ∨ faults error where
  of_error error herror := by
    by_cases hp : p
    · rw [if_pos hp] at herror
      exact .inl ⟨hp, (Except.error.inj herror).symm⟩
    · rw [if_neg hp] at herror
      exact .inr (h.of_error error herror)
  exists_error error hfault := by
    by_cases hp : p
    · exact ⟨fault, if_pos hp⟩
    · rw [if_neg hp]
      exact h.exists_error error (hfault.resolve_left fun hleft => hp hleft.1)

/-- A row of computations is over the faults of each. -/
theorem mapM {f : α → Except ConfigError β} {faults : α → ConfigError → Prop} (h : ∀ a, Reports (f a) (faults a))
    (l : List α) : Reports (l.mapM f) fun error => ∃ a ∈ l, faults a error := by
  induction l with
  | nil =>
    rw [List.mapM_nil]
    exact (pure []).congr (by simp)
  | cons a l ih =>
    rw [List.mapM_cons]
    exact ((h a).bind fun b _ => ih.bind fun bs _ => pure (b :: bs)).congr (by simp)

end Reports

namespace Config

theorem isEmpty_trim_iff {s : String} : (trim s).isEmpty = true ↔ ∀ c ∈ s.toList, isBlank c = true := by
  have hempty : (trim s).isEmpty = true ↔ trimChars s.toList = [] := by simp [trim]
  rw [hempty]
  constructor
  · intro h
    obtain ⟨u, hu, hs⟩ := exists_blanks_start s.toList
    obtain ⟨v, hv, hend⟩ := exists_blanks_end (trimStartChars s.toList)
    rw [← trimChars, h, List.nil_append] at hend
    rw [hs, hend]
    exact List.forall_mem_append.2 ⟨hu, hv⟩
  · exact trimChars_append_blanks []

theorem reports_required (e : Element) (name : String) :
    Reports (required e name) fun error => e.Lacks name ∧ error = .missingAttribute e.tag name := by
  rw [required]
  by_cases hlacks : e.Lacks name
  · rw [if_pos (isEmpty_trim_iff.2 hlacks)]
    exact ⟨fun error h => ⟨hlacks, by cases h; rfl⟩, fun error _ => ⟨_, rfl⟩⟩
  · rw [if_neg (mt isEmpty_trim_iff.1 hlacks)]
    exact ⟨nofun, fun error h => absurd h.1 hlacks⟩

theorem reports_name (table : NameTable) (e : Element) :
    Reports (required e table.attributeName) (EntryFault e (.name table)) := by
  refine (reports_required e table.attributeName).congr fun error => ⟨?_, ?_⟩
  · rintro ⟨hlacks, rfl⟩
    exact .name hlacks
  · rintro ⟨hlacks⟩
    exact ⟨hlacks, rfl⟩

theorem reports_pair (table : PairTable) (e : Element) :
    Reports (do
      let v ← required e table.value
      let k ← required e table.key
      Pure.pure (k, v)) (EntryFault e (.pair table)) := by
  refine ((reports_required e table.value).bind fun v _ => (reports_required e table.key).bind fun k _ =>
    Reports.pure (k, v)).congr fun error => ⟨?_, ?_⟩
  · rintro (⟨hlacks, rfl⟩ | ⟨hlacks, rfl⟩ | h)
    · exact .value hlacks
    · exact .key hlacks
    · exact h.elim
  · rintro (_ | hlacks | hlacks)
    · exact .inr (.inl ⟨hlacks, rfl⟩)
    · exact .inl ⟨hlacks, rfl⟩

theorem reports_deniedType (e : Element) : Reports (readDeniedType e) (EntryFault e .deniedType) := by
  have hdefault : lower (trim "contains") = "contains" := by decide +kernel
  rw [readDeniedType]
  refine (Reports.check _ (.missingAttribute e.tag "pattern") <| Reports.check _ _ <| Reports.pure _).congr
    fun error => ⟨?_, ?_⟩
  · rintro (⟨hpattern, rfl⟩ | ⟨hmode, rfl⟩ | h)
    · exact .pattern (String.isEmpty_iff.1 hpattern)
    · cases hvalue : e.valueOf? "match" with
      | none => simp [hvalue, hdefault] at hmode
      | some mode => exact .mode hvalue (by simpa [hvalue] using hmode)
    · exact h.elim
  · rintro (_ | _ | _ | hpattern | ⟨hvalue, hmode⟩)
    · exact .inl ⟨String.isEmpty_iff.2 hpattern, rfl⟩
    · exact .inr (.inl ⟨by simpa [hvalue] using hmode, by rw [hvalue, Option.getD_some]⟩)

theorem reports_exclusion (e : Element) : Reports (readExclusion e) (EntryFault e .exclusion) := by
  have hmember {member : String} (h : required e "member" = .ok member) : trim (e.valueOf "member") = member := by
    rw [required] at h
    split at h
    · cases h
    · exact Except.ok.inj h
  have hcheck (member : String) (hread : required e "member" = .ok member) :
      Reports (if !occursIn "::" member then .error (.unqualifiedMember member)
        else Pure.pure { member, parameters := (e.valueOf? "params").map readParameters : Exclusion })
        fun error => occursIn "::" (trim (e.valueOf "member")) = false ∧
          error = .unqualifiedMember (trim (e.valueOf "member")) := by
    rw [hmember hread]
    exact (Reports.check _ _ <| Reports.pure _).congr fun error => by simp
  refine ((reports_required e "member").bind hcheck).congr fun error => ⟨?_, ?_⟩
  · rintro (⟨hlacks, rfl⟩ | ⟨hfree, rfl⟩)
    · exact .member hlacks
    · exact .unqualified hfree
  · rintro (_ | _ | _ | _ | _ | hlacks | hfree)
    · exact .inl ⟨hlacks, rfl⟩
    · exact .inr ⟨hfree, rfl⟩

/-- **A document is refused over an element that breaks the rules for its kind.** -/
theorem reports_ofElement {root : Element} (hroot : root.tag = "bindings") :
    Reports (ofElement root) fun error => ∃ e ∈ root.content.elements, e.IsFaulty error := by
  let faultOf (k : EntryKind) (error : ConfigError) : Prop := ∃ e ∈ root.named k.tag, EntryFault e k error
  have hnames (table : NameTable) : Reports (namesFor root table) (faultOf (.name table)) :=
    Reports.mapM (reports_name table) _
  have hpairs (table : PairTable) : Reports (pairsFor root table) (faultOf (.pair table)) :=
    Reports.mapM (reports_pair table) _
  have hdenied : Reports ((root.named EntryKind.deniedType.tag).mapM readDeniedType) (faultOf .deniedType) :=
    Reports.mapM reports_deniedType _
  have hexcluded : Reports ((root.named EntryKind.exclusion.tag).mapM readExclusion) (faultOf .exclusion) :=
    Reports.mapM reports_exclusion _
  have hfaulty (error : ConfigError) : (∃ k, faultOf k error) ↔ ∃ e ∈ root.content.elements, e.IsFaulty error := by
    constructor
    · rintro ⟨k, e, he, hfault⟩
      obtain ⟨hmem, htag⟩ := List.mem_filter.1 he
      exact ⟨e, hmem, k, beq_iff_eq.1 htag, hfault⟩
    · rintro ⟨e, hmem, k, htag, hfault⟩
      exact ⟨k, e, List.mem_filter.2 ⟨hmem, beq_iff_eq.2 htag⟩, hfault⟩
  rw [ofElement_eq hroot]
  refine ((hnames .numberTypes).bind fun _ _ => (hnames .refcountedBases).bind fun _ _ =>
    (hnames .refcountedFragments).bind fun _ _ => (hnames .refcountedMarkers).bind fun _ _ =>
    (hnames .deniedNamespaces).bind fun _ _ => hdenied.bind fun _ _ => (hpairs .templateSubstitutions).bind fun _ _ =>
    (hpairs .headerAliases).bind fun _ _ => (hpairs .fallbackIncludes).bind fun _ _ =>
    (hnames .headerPrefixes).bind fun _ _ => hexcluded.bind fun _ _ => (hnames .skipPropertyClasses).bind fun _ _ =>
    Reports.pure _).congr fun error => ?_
  rw [← hfaulty, EntryKind.exists_iff, or_false]

/-- **Entries are read as they stand.** Let plain entries be written in a document, where those of different kinds may be
mixed in any way. Then the document gives the built-in tables with the entries taken one by one. A document is refused
just if some element breaks the rules for its kind, and then over such an element. -/
theorem ofText_entries {text : String} {root : Element} (hread : readFile text = .ok root) (hroot : root.tag = "bindings") :
    (∀ entries mixed : List ConfigEntry, (∀ x ∈ entries, x.IsPlain) →
      (∀ k, mixed.filter (·.kind = k) = entries.filter (·.kind = k)) →
      List.Forall₂ ConfigEntry.IsWrittenAs mixed root.content.elements →
      ofText text = .ok (entries.foldl extend default)) ∧
    ((∃ error, ofText text = .error error) ↔ ∃ e ∈ root.content.elements, ∃ error, e.IsFaulty error) ∧
    ∀ error, ofText text = .error error → ∃ e ∈ root.content.elements, e.IsFaulty error := by
  have htext : ofText text = ofElement root := by rw [ofText, hread]
  have hreports := reports_ofElement hroot
  rw [htext]
  refine ⟨fun entries mixed hplain hmixed hwritten => ?_, ⟨?_, ?_⟩, hreports.of_error⟩
  · have hmem {x : ConfigEntry} (hx : x ∈ mixed) : x ∈ entries :=
      (List.mem_filter.1 (hmixed x.kind ▸ List.mem_filter.2 ⟨hx, decide_eq_true rfl⟩)).1
    rw [ConfigEntry.ofElement_entries (fun x hx => hplain x (hmem hx)) hwritten hroot, foldl_extend_congr default hmixed]
  · rintro ⟨error, herror⟩
    obtain ⟨e, he, hfault⟩ := hreports.of_error error herror
    exact ⟨e, he, error, hfault⟩
  · rintro ⟨e, he, error, hfault⟩
    exact hreports.exists_error error ⟨e, he, hfault⟩

/-- A number type and an exclusion that stand between two aliases, the first of which has a header already. -/
theorem ofText_entries_aliases :
    let text := "<bindings><header_alias class='RayQueryResult' header='Ray.h'/><number_type name='u8'/>" ++
      "<exclude member='Ray::Pos' params='float, bool'/><header_alias class='Ray' header='Geometry'/></bindings>"
    let result : ConfigEntry := .pair .headerAliases "RayQueryResult" "Ray.h"
    let ray : ConfigEntry := .pair .headerAliases "Ray" "Geometry"
    let number : ConfigEntry := .name .numberTypes "u8"
    let position : ConfigEntry := .exclusion ⟨"Ray::Pos", some ["float", "bool"]⟩
    ofText text = .ok ([result, ray, position, number].foldl extend default) := by
  intro text result ray number position
  have hread : readFile text = .ok ⟨"bindings", [],
      .element "header_alias" [("class", "RayQueryResult"), ("header", "Ray.h")] .empty
        (.element "number_type" [("name", "u8")] .empty
          (.element "exclude" [("member", "Ray::Pos"), ("params", "float, bool")] .empty
            (.element "header_alias" [("class", "Ray"), ("header", "Geometry")] .empty .empty)))⟩ := by
    decide +kernel
  have hlist : IsListOf ["float", "bool"] "float, bool" :=
    ⟨["float".toList, " bool".toList], by decide +kernel, by decide +kernel, by decide +kernel⟩
  have hresult : result.IsPlain := ⟨⟨by decide, by decide +kernel⟩, by decide, by decide +kernel⟩
  have hray : ray.IsPlain := ⟨⟨by decide, by decide +kernel⟩, by decide, by decide +kernel⟩
  have hnumber : number.IsPlain := ⟨by decide, by decide +kernel⟩
  have hposition : position.IsPlain := by
    refine ⟨⟨by decide, by decide +kernel⟩, by decide +kernel, fun parameters hparameters => ?_⟩
    cases hparameters
    simp only [IsStripped, List.forall_mem_cons]
    decide +kernel
  refine (ofText_entries hread rfl).1 [result, ray, position, number] [result, number, position, ray] ?_ ?_ ?_
  · simp only [List.forall_mem_cons, List.not_mem_nil, false_imp_iff, implies_true, and_true]
    exact ⟨hresult, hray, hposition, hnumber⟩
  · intro k
    cases k with
    | name table => cases table <;> rfl
    | pair table => cases table <;> rfl
    | _ => rfl
  · exact .cons ⟨rfl, rfl, rfl⟩ (.cons ⟨rfl, rfl⟩ (.cons ⟨rfl, rfl, .some hlist⟩ (.cons ⟨rfl, rfl, rfl⟩ .nil)))

end Config

end ScriptGlue
