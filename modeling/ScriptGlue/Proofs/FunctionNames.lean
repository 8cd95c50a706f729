import Mathlib.Data.List.Nodup
import ScriptGlue.Proofs.Completion
import ScriptGlue.Proofs.OverloadSets
import ScriptGlue.Proofs.References

/-!
# Names of functions

Which functions of a unit can have one name. The names are glued from the names of the class, of the member and of
types, so a name does not tell where it comes from. Finalizers, the functions of one overload set, the selectors of
one resolution, and the accessors and signal functions of different properties are always told apart; so are a reader
and a writer, a function of a signal and an accessor, and a finalizer and a selector. What is left is `NamesApart`,
and **`nodup_names_iff`** says that a unit defines no name twice just when that holds.
-/

namespace ScriptGlue

open ScriptGlue.Text ScriptGlue.Cpp

/-! ### Glued names -/

/-- Texts differ if neither of their ends is an end of the other. -/
theorem append_ne_append {s t : String} (hst : ¬ s.toList <:+ t.toList) (hts : ¬ t.toList <:+ s.toList) (a b : String) :
    a ++ s ≠ b ++ t := by
  intro h
  have hlist : a.toList ++ s.toList = b.toList ++ t.toList := by
    rw [← String.toList_append, ← String.toList_append, h]
  have hs : s.toList <:+ a.toList ++ s.toList := List.suffix_append _ _
  have ht : t.toList <:+ a.toList ++ s.toList := hlist ▸ List.suffix_append _ _
  rcases List.suffix_or_suffix_of_suffix hs ht with h | h
  · exact hst h
  · exact hts h

theorem finalizerName_injective : Function.Injective finalizerName := by
  intro a b h
  exact (String.append_left_inj "_Finalizer").1 h

/-- The word at the beginning of the names of the wrappers of signals. -/
def wrapperWord : List Char := ['S', 'i', 'g', 'n', 'a', 'l', 'W', 'r', 'a', 'p', 'p', 'e', 'r']

/-- The word with its underscore. -/
def wrapperMark : List Char := wrapperWord ++ ['_']

/-- The mark has its only underscore at the end. -/
theorem of_append_underscore {c d : List Char} (h : wrapperMark = c ++ '_' :: d) : d = [] ∧ c = wrapperWord := by
  have hword : '_' ∉ wrapperWord := by decide
  rw [wrapperMark] at h
  rcases List.append_eq_append_iff.1 h with ⟨between, rfl, hlast⟩ | ⟨between, hc, hlast⟩
  · cases between with
    | nil =>
      rw [List.nil_append] at hlast
      obtain ⟨-, rfl⟩ := List.cons.inj hlast
      exact ⟨rfl, List.append_nil _⟩
    | cons u between =>
      have hlength := congrArg List.length hlast
      simp at hlength
  · cases between with
    | nil =>
      rw [List.nil_append] at hlast
      obtain ⟨-, rfl⟩ := List.cons.inj hlast
      exact ⟨rfl, (List.append_nil c ▸ hc).symm⟩
    | cons u between =>
      obtain ⟨rfl, -⟩ := List.cons.inj hlast
      exact absurd (by rw [hc]; simp) hword

/-- A word before an underscore is the same word after the mark only if what follows the underscore begins like the
mark. -/
theorem begins_like_mark {c rest later : List Char} {a b : Char}
    (h : c ++ '_' :: a :: b :: rest = wrapperMark ++ (c ++ later)) : a = 'S' ∧ b = 'i' := by
  rcases List.append_eq_append_iff.1 h with ⟨d, hmark, hrest⟩ | ⟨d, rfl, hlater⟩
  · cases d with
    | nil =>
      -- the word would be the mark itself, which does not begin with an underscore
      rw [List.append_nil] at hmark
      rw [List.nil_append, ← hmark] at hrest
      cases hrest
    | cons u d =>
      obtain ⟨rfl, hrest⟩ := List.cons.inj hrest
      obtain ⟨rfl, rfl⟩ := of_append_underscore hmark
      cases hrest
      exact ⟨rfl, rfl⟩
  · have hshorter : d ++ '_' :: a :: b :: rest = wrapperMark ++ (d ++ later) := by
      rw [← hlater, List.append_assoc]
    exact begins_like_mark hshorter
termination_by c.length
decreasing_by
  subst_vars
  simp only [wrapperMark, List.length_append, List.length_singleton]
  omega

/-- An accessor is never named like a function of a signal. -/
theorem accessor_ne_signal {className word member property ending : String} (hword : word = "_Get_" ∨ word = "_Set_") :
    className ++ word ++ property ≠ "SignalWrapper_" ++ className ++ "_" ++ member ++ ending := by
  intro h
  have hlist := congrArg String.toList h
  have hmark : "SignalWrapper_".toList = wrapperMark := by decide
  simp only [String.toList_append, List.append_assoc, hmark] at hlist
  rcases hword with rfl | rfl
  · have hget : "_Get_".toList = ['_', 'G', 'e', 't', '_'] := by decide
    simp only [hget, List.cons_append] at hlist
    obtain ⟨hfirst, -⟩ := begins_like_mark hlist
    cases hfirst
  · have hset : "_Set_".toList = ['_', 'S', 'e', 't', '_'] := by decide
    simp only [hset, List.cons_append] at hlist
    obtain ⟨-, hsecond⟩ := begins_like_mark hlist
    cases hsecond

/-- The name of an accessor tells what it does, and for which property. -/
theorem accessor_injective {className word word' property property' : String} (hword : word = "_Get_" ∨ word = "_Set_")
    (hword' : word' = "_Get_" ∨ word' = "_Set_")
    (h : className ++ word ++ property = className ++ word' ++ property') : word = word' ∧ property = property' := by
  rw [String.append_assoc, String.append_assoc, String.append_right_inj] at h
  have hget : "_Get_".toList = ['_', 'G', 'e', 't', '_'] := by decide
  have hset : "_Set_".toList = ['_', 'S', 'e', 't', '_'] := by decide
  have hlist := congrArg String.toList h
  rcases hword with rfl | rfl <;> rcases hword' with rfl | rfl
  · exact ⟨rfl, (String.append_right_inj _).1 h⟩
  · simp only [String.toList_append, hget, hset, List.cons_append] at hlist
    cases hlist
  · simp only [String.toList_append, hget, hset, List.cons_append] at hlist
    cases hlist
  · exact ⟨rfl, (String.append_right_inj _).1 h⟩

/-- The ends of the names of the functions of a signal. -/
def signalEndings : List String := ["_Connect", "_Disconnect", "_Emit"]

/-- The name of a function of a signal tells the signal. -/
theorem signal_injective {className member member' ending ending' : String} (hending : ending ∈ signalEndings)
    (hending' : ending' ∈ signalEndings)
    (h : "SignalWrapper_" ++ className ++ "_" ++ member ++ ending =
      "SignalWrapper_" ++ className ++ "_" ++ member' ++ ending') : member = member' := by
  have hapart : ∀ e ∈ signalEndings, ∀ e' ∈ signalEndings, e ≠ e' → ¬ e.toList <:+ e'.toList := by decide
  by_cases hsame : ending = ending'
  · subst hsame
    rwa [String.append_left_inj, String.append_right_inj] at h
  · exact absurd h (append_ne_append (hapart _ hending _ hending' hsame) (hapart _ hending' _ hending (Ne.symm hsame)) _ _)

/-! ### Names of contributions -/

namespace Registry

variable {r : Registry} {c : Compound}

/-- The names of the accessors that a member contributes. -/
def Contribution.accessorNames (k : Contribution) : List String := k.property.getter :: k.property.setter.toList

/-- The names of the functions of the signal that a member contributes. -/
def Contribution.signalNames (k : Contribution) : List String :=
  k.after.flatMap fun
    | .signalFunctions s => [s.connectName, s.disconnectName, s.emitName]
    | _ => []

/-- A variable has no signal. -/
theorem Contribution.signalNames_ofVariable (m : Symbol) (needs? : Option String) (getter : Getter)
    (setter? : Option Setter) : (Contribution.ofVariable m needs? getter setter?).signalNames = [] := by
  cases setter? <;> rfl

/-- The names of a contribution are made from those of its class and its property. -/
structure Contribution.IsNamed (k : Contribution) (className : String) : Prop where
  getter : k.property.getter = className ++ "_Get_" ++ k.property.name
  setter : ∀ name ∈ k.property.setter, name = className ++ "_Set_" ++ k.property.name
  signal : ∀ name ∈ k.signalNames, ∃ ending ∈ signalEndings,
    name = "SignalWrapper_" ++ className ++ "_" ++ k.property.name ++ ending
  nodup_signal : k.signalNames.Nodup

theorem Contribution.IsNamed.accessor {k : Contribution} {className name : String} (h : k.IsNamed className)
    (hname : name ∈ k.accessorNames) :
    ∃ word, (word = "_Get_" ∨ word = "_Set_") ∧ name = className ++ word ++ k.property.name := by
  rcases List.mem_cons.1 hname with rfl | hname
  · exact ⟨"_Get_", .inl rfl, h.getter⟩
  · exact ⟨"_Set_", .inr rfl, h.setter name (Option.mem_toList.1 hname)⟩

theorem name_of_signal {v : Vocabulary} {className : String} {m : Symbol} {types : List String} {s : Signal}
    (h : v.signal className m types = .ok s) : s.className = className := by
  obtain ⟨pushes, -, h⟩ := bind_eq_ok.1 h
  obtain ⟨reads, -, h⟩ := bind_eq_ok.1 h
  cases h
  rfl

theorem name_of_setter {v : Vocabulary} {className : String} {m : Symbol} {s : Setter}
    (h : v.setter? className m = .ok (some s)) : s.name = s!"{className}_Set_{lowerFirst m.name}" := by
  unfold Vocabulary.setter? at h
  split at h
  · obtain ⟨read, -, hs⟩ := map_eq_ok.1 h
    cases hs
    rfl
  · cases h

theorem isNamed_of_contribution? {m : Symbol} {k : Contribution} (h : r.contribution? c m = .ok (some k)) :
    k.IsNamed c.className := by
  obtain ⟨s, hs, rfl⟩ | ⟨getter, setter?, hgetter, hsetter, rfl⟩ := contribution_cases h
  · have hclass := name_of_signal hs
    have hnames : (Contribution.ofSignal s).signalNames = [s.connectName, s.disconnectName, s.emitName] := rfl
    constructor
    case getter =>
      rw [← hclass]
      rfl
    case setter =>
      intro name hname
      cases hname
    case signal =>
      rw [hnames, ← hclass]
      intro name hname
      simp only [List.mem_cons, List.not_mem_nil, or_false] at hname
      rcases hname with rfl | rfl | rfl
      · exact ⟨"_Connect", by decide, rfl⟩
      · exact ⟨"_Disconnect", by decide, rfl⟩
      · exact ⟨"_Emit", by decide, rfl⟩
    case nodup_signal =>
      rw [hnames]
      have hconnect : s.connectName ≠ s.disconnectName := append_ne_append (by decide) (by decide) _ _
      have hemit : s.connectName ≠ s.emitName := append_ne_append (by decide) (by decide) _ _
      have hdisconnect : s.disconnectName ≠ s.emitName := append_ne_append (by decide) (by decide) _ _
      simp [hconnect, hemit, hdisconnect]
  · obtain ⟨push, -, rfl⟩ := map_eq_ok.1 hgetter
    constructor
    case getter => rfl
    case setter =>
      intro name hname
      obtain ⟨s, rfl, rfl⟩ := Option.map_eq_some_iff.1 hname
      exact name_of_setter hsetter
    case signal =>
      rw [Contribution.signalNames_ofVariable]
      intro name hname
      cases hname
    case nodup_signal =>
      rw [Contribution.signalNames_ofVariable]
      exact List.nodup_nil

/-! ### Names of a unit by where they come from -/

/-- Three kinds of names, gathered in two places, are the names of each kind gathered. -/
theorem perm_by_kind {xs ys a b c d e f : List String} (hx : xs.Perm (a ++ (b ++ c))) (hy : ys.Perm (d ++ (e ++ f))) :
    (xs ++ ys).Perm ((a ++ d) ++ ((b ++ e) ++ (c ++ f))) := by
  rw [List.perm_iff_count] at *
  intro name
  simp only [List.count_append, hx, hy]
  omega

theorem names_of_finalizerPart (defined : List String) (className : String) :
    namesOf (passagesOf (finalizerPart defined className)) =
      (definedBy (finalizerPart defined className)).map finalizerName := by
  unfold finalizerPart
  split <;> rfl

/-- A contribution defines the finalizer that is missing, the functions of its signal and its accessors. -/
theorem names_of_contribution {m : Symbol} {k : Contribution} (h : r.contribution? c m = .ok (some k))
    (defined : List String) : (namesOf (passagesOf (k.parts defined))).Perm
      ((definedBy (k.parts defined)).map finalizerName ++ (k.signalNames ++ k.accessorNames)) := by
  obtain ⟨s, -, rfl⟩ | ⟨getter, setter?, -, -, rfl⟩ := contribution_cases h
  · have hdefined : definedBy ((Contribution.ofSignal s).parts defined) = definedBy (finalizerPart defined s.wrapper) := by
      change definedBy ([.signalClasses s] ++ finalizerPart defined s.wrapper ++ [.signalFunctions s]) = _
      rw [definedBy_append, definedBy_append]
      exact List.append_nil _
    rw [passagesOf_ofSignal, namesOf_append, namesOf_append, names_of_finalizerPart, hdefined]
    exact List.Perm.refl _
  · have hdefined : definedBy ((Contribution.ofVariable m (r.vocabulary.variableFinalizer? m.type) getter setter?).parts
        defined) = definedBy ((r.vocabulary.variableFinalizer? m.type).elim [] (finalizerPart defined)) := by
      rw [Contribution.parts, definedBy_append, Contribution.definedBy_after, List.append_nil]
      rfl
    have hfinalizer : namesOf (passagesOf ((r.vocabulary.variableFinalizer? m.type).elim [] (finalizerPart defined))) =
        (definedBy ((r.vocabulary.variableFinalizer? m.type).elim [] (finalizerPart defined))).map finalizerName := by
      cases r.vocabulary.variableFinalizer? m.type with
      | none => rfl
      | some x => exact names_of_finalizerPart defined x
    rw [passagesOf_ofVariable, namesOf_append, namesOf_accessors, hfinalizer, hdefined, Contribution.signalNames_ofVariable]
    exact List.perm_append_comm.append_left _

/-- The names that contributions define, by kind. -/
theorem names_of_partsOf {ks : List Contribution} (hks : ∀ k ∈ ks, ∃ m, r.contribution? c m = .ok (some k))
    (defined : List String) : (namesOf (passagesOf (partsOf defined ks))).Perm
      ((definedBy (partsOf defined ks)).map finalizerName ++
        (ks.flatMap (·.signalNames) ++ ks.flatMap (·.accessorNames))) := by
  induction ks generalizing defined with
  | nil => exact List.Perm.refl _
  | cons k ks ih =>
    obtain ⟨m, hm⟩ := hks k List.mem_cons_self
    have hlater := ih (fun k' hk' => hks k' (List.mem_cons_of_mem k hk')) (defined ++ k.needs?.toList)
    rw [partsOf, passagesOf_append, namesOf_append, definedBy_append, List.map_append, List.flatMap_cons, List.flatMap_cons]
    exact perm_by_kind (names_of_contribution hm defined) hlater

theorem names_of_declarations : namesOf (r.declarationPassages c) = (r.definedFirst c).map finalizerName := by
  have hconstants : namesOf ((r.idDependencies c).map .constant) = [] := by
    simp [namesOf, functionsOf, Passage.function?]
  have hfinalizers : namesOf ((r.finalizerDependencies c).map fun className => .function (.finalizer className)) =
      (r.finalizerDependencies c).map finalizerName := by
    simp [namesOf, functionsOf, Passage.function?, UnitFunction.name, Function.comp_def]
  have hown : namesOf (passagesOf (r.ownFinalizer c)) = (definedBy (r.ownFinalizer c)).map finalizerName := by
    unfold ownFinalizer
    split
    · exact names_of_finalizerPart _ _
    · rfl
  have hgap : namesOf [.gap] = [] := rfl
  have hconstant : namesOf [.gap, .constant c.className, .gap] = [] := rfl
  simp only [declarationPassages, definedFirst, List.map_append, namesOf_append, hconstants, hfinalizers, hown, hgap,
    hconstant, List.nil_append, List.append_nil]

/-- The overload sets of a class, those of objects first. -/
def allSets (r : Registry) (c : Compound) : List OverloadSet := (r.sets c false).values ++ (r.sets c true).values

/-- The classes whose finalizers a unit defines. -/
def finalized (r : Registry) (c : Compound) (ks : List Contribution) : List String :=
  r.definedFirst c ++ definedBy (partsOf (r.definedFirst c) ks)

/-- **The names that a unit defines**, by kind. -/
theorem names_of_assemble {ks : List Contribution} (hks : r.contributionsOf c = .ok ks)
    {instanceParts staticParts : List UnitPart} (hinstances : r.dispatchParts c (r.sets c false).values = .ok instanceParts)
    (hstatics : r.dispatchParts c (r.sets c true).values = .ok staticParts) :
    (namesOf (r.assemble c ks instanceParts staticParts).passages).Perm
      ((r.finalized c ks).map finalizerName ++ (ks.flatMap (·.signalNames) ++ ks.flatMap (·.accessorNames)) ++
        dispatchNames (r.allSets c)) := by
  have hlists : namesOf ((r.functionLists c).map .list) = [] := by
    simp [namesOf, functionsOf, Passage.function?]
  have hexposure : namesOf [.exposure (r.exposureOf c ks)] = [] := rfl
  have haccessors := names_of_partsOf (exists_member_of_contributionsOf hks) (r.definedFirst c)
  have hdispatch : (dispatchNames (r.sets c false).values ++ dispatchNames (r.sets c true).values).Perm
      (dispatchNames (r.allSets c)) := by
    simp only [allSets, dispatchNames, List.flatMap_append, List.filter_append, List.map_append]
    rw [List.perm_iff_count]
    intro name
    simp only [List.count_append]
    omega
  have hlater := haccessors.append hdispatch
  simp only [List.append_assoc] at hlater
  simp only [passages_assemble, namesOf_append, names_of_declarations, hlists, hexposure, (dispatch_closed hinstances []).1,
    (dispatch_closed hstatics []).1, List.append_nil, finalized, List.map_append, List.append_assoc]
  exact hlater.append_left _

/-! ### Names that are apart -/

/-- What contributions are named after, the contributions of a class being given. -/
theorem isNamed_of_contributionsOf {ks : List Contribution} (hks : r.contributionsOf c = .ok ks) {k : Contribution}
    (hk : k ∈ ks) : k.IsNamed c.className := by
  obtain ⟨m, hm⟩ := exists_member_of_contributionsOf hks k hk
  exact isNamed_of_contribution? hm

section Contributions

variable {ks : List Contribution} {className : String} (hnamed : ∀ k ∈ ks, k.IsNamed className)

include hnamed

/-- Accessors have different names just when their properties have. -/
theorem nodup_accessorNames_iff : (ks.flatMap (·.accessorNames)).Nodup ↔ (ks.map (·.property.name)).Nodup := by
  have heach : ∀ k ∈ ks, k.accessorNames.Nodup := by
    intro k hk
    have hget : k.property.getter ∉ k.property.setter.toList := by
      intro hsetter
      have hsame := (hnamed k hk).setter _ (Option.mem_toList.1 hsetter)
      rw [(hnamed k hk).getter] at hsame
      obtain ⟨hword, -⟩ := accessor_injective (.inl rfl) (.inr rfl) hsame
      exact absurd hword (by decide)
    exact List.nodup_cons.2 ⟨hget, by cases k.property.setter <;> simp⟩
  rw [List.nodup_flatMap, and_iff_right heach, List.Nodup, List.pairwise_map]
  apply List.Pairwise.iff_of_mem
  intro k k' hk hk'
  constructor
  · intro hdisjoint hproperty
    have hsame : k.property.getter = k'.property.getter := by
      rw [(hnamed k hk).getter, (hnamed k' hk').getter, hproperty]
    exact hdisjoint List.mem_cons_self (hsame ▸ List.mem_cons_self)
  · intro hproperty name hname hname'
    obtain ⟨word, hword, rfl⟩ := (hnamed k hk).accessor hname
    obtain ⟨word', hword', hsame⟩ := (hnamed k' hk').accessor hname'
    exact hproperty (accessor_injective hword hword' hsame).2

/-- The functions of the signals of different properties have different names. -/
theorem nodup_signalNames (h : (ks.map (·.property.name)).Nodup) : (ks.flatMap (·.signalNames)).Nodup := by
  rw [List.nodup_flatMap]
  refine ⟨fun k hk => (hnamed k hk).nodup_signal, ?_⟩
  rw [List.Nodup, List.pairwise_map] at h
  refine h.imp_of_mem ?_
  intro k k' hk hk' hproperty name hname hname'
  obtain ⟨ending, hending, rfl⟩ := (hnamed k hk).signal _ hname
  obtain ⟨ending', hending', hsame⟩ := (hnamed k' hk').signal _ hname'
  exact hproperty (signal_injective hending hending' hsame)

theorem signal_ne_accessor {name name' : String} (h : name ∈ ks.flatMap (·.signalNames))
    (h' : name' ∈ ks.flatMap (·.accessorNames)) : name ≠ name' := by
  obtain ⟨k, hk, hname⟩ := List.mem_flatMap.1 h
  obtain ⟨k', hk', hname'⟩ := List.mem_flatMap.1 h'
  obtain ⟨ending, -, rfl⟩ := (hnamed k hk).signal _ hname
  obtain ⟨word, hword, rfl⟩ := (hnamed k' hk').accessor hname'
  exact (accessor_ne_signal hword).symm

/-- A function of a signal is named neither like a finalizer nor like a selector. -/
theorem signal_ne_append {name : String} (h : name ∈ ks.flatMap (·.signalNames)) {ending : String}
    (hending : ending = "_Finalizer" ∨ ending = "_Selector") (start : String) : name ≠ start ++ ending := by
  obtain ⟨k, hk, hname⟩ := List.mem_flatMap.1 h
  obtain ⟨signalEnding, hsignal, rfl⟩ := (hnamed k hk).signal _ hname
  have hapart : ∀ e ∈ signalEndings, ∀ e' ∈ ["_Finalizer", "_Selector"],
      ¬ e.toList <:+ e'.toList ∧ ¬ e'.toList <:+ e.toList := by decide
  obtain ⟨hleft, hright⟩ := hapart _ hsignal ending (by simpa using hending)
  exact append_ne_append hleft hright _ _

end Contributions

theorem finalizerName_ne_selectorName (x : String) (s : OverloadSet) : finalizerName x ≠ s.selectorName :=
  append_ne_append (by decide) (by decide) _ _

/-- The sets of one resolution have different base names. -/
theorem nodup_baseNames (isStatic : Bool) : ((r.sets c isStatic).values.map (·.baseName)).Nodup := by
  have hbases : (r.sets c isStatic).values.map (·.baseName) = c.basesOf isStatic (r.accepted c isStatic) := by
    rw [OrderedMap.values, toList_sets, List.map_map, List.map_map]
    exact List.map_id _
  rw [hbases]
  exact Compound.nodup_basesOf _

/-- What has to be apart for the names that a unit defines to be: every other two are. -/
structure NamesApart (r : Registry) (c : Compound) (ks : List Contribution) : Prop where
  /-- No two members make up one property. -/
  properties : (ks.map (·.property.name)).Nodup
  /-- No function is named like one of another set. -/
  functions : (r.allSets c).Pairwise fun s s' => ∀ o ∈ s.overloads, ∀ o' ∈ s'.overloads, o.functionName ≠ o'.functionName
  /-- No two selectors have one name, of which one is for calls without an object. -/
  selectors : ∀ s ∈ (r.sets c false).values, s.needsSelector = true → ∀ s' ∈ (r.sets c true).values,
    s'.needsSelector = true → s.baseName ≠ s'.baseName
  /-- No function is named like a selector. -/
  dispatch : ∀ s ∈ r.allSets c, s.needsSelector = true → ∀ o ∈ r.boundFunctions c, o.functionName ≠ s.selectorName
  /-- No accessor is named like a function or a selector. -/
  accessors : ∀ k ∈ ks, ∀ name ∈ k.accessorNames, name ∉ dispatchNames (r.allSets c)
  /-- No function of a signal is named like a function of the class. -/
  signals : ∀ k ∈ ks, ∀ name ∈ k.signalNames, ∀ o ∈ r.boundFunctions c, name ≠ o.functionName
  /-- No finalizer is named like an accessor or a function of the class. -/
  finalizers : ∀ x ∈ r.finalized c ks, (∀ k ∈ ks, finalizerName x ∉ k.accessorNames) ∧
    ∀ o ∈ r.boundFunctions c, finalizerName x ≠ o.functionName

theorem flatMap_allSets : (r.allSets c).flatMap (·.overloads) = r.boundFunctions c := List.flatMap_append

/-- The functions have different names just when those of different sets have. -/
theorem nodup_boundNames_iff : ((r.boundFunctions c).map (·.functionName)).Nodup ↔
    (r.allSets c).Pairwise fun s s' => ∀ o ∈ s.overloads, ∀ o' ∈ s'.overloads, o.functionName ≠ o'.functionName := by
  have heach : ∀ s ∈ r.allSets c, (s.overloads.map (·.functionName)).Nodup := by
    intro s hs
    rcases List.mem_append.1 hs with hs | hs
    · exact nodup_functionNames hs
    · exact nodup_functionNames hs
  rw [← flatMap_allSets, List.map_flatMap, List.nodup_flatMap, and_iff_right heach]
  apply List.Pairwise.iff_of_mem
  intro s s' _ _
  constructor
  · intro hdisjoint o ho o' ho' hsame
    exact hdisjoint (List.mem_map_of_mem ho) (hsame ▸ List.mem_map_of_mem ho')
  · intro hapart name hname hname'
    obtain ⟨o, ho, rfl⟩ := List.mem_map.1 hname
    obtain ⟨o', ho', hsame⟩ := List.mem_map.1 hname'
    exact hapart o ho o' ho' hsame.symm

/-- The selectors have different names just when one with an object and one without have. -/
theorem nodup_selectorNames_iff : (((r.allSets c).filter (·.needsSelector)).map (·.selectorName)).Nodup ↔
    ∀ s ∈ (r.sets c false).values, s.needsSelector = true → ∀ s' ∈ (r.sets c true).values,
      s'.needsSelector = true → s.baseName ≠ s'.baseName := by
  have heach : ∀ isStatic, (((r.sets c isStatic).values.filter (·.needsSelector)).map (·.selectorName)).Nodup := by
    intro isStatic
    have hbases : (((r.sets c isStatic).values.filter (·.needsSelector)).map (·.baseName)).Nodup :=
      (nodup_baseNames isStatic).sublist (List.filter_sublist.map _)
    have hnames : ((r.sets c isStatic).values.filter (·.needsSelector)).map (·.selectorName) =
        (((r.sets c isStatic).values.filter (·.needsSelector)).map (·.baseName)).map (· ++ "_Selector") := by
      rw [List.map_map]
      rfl
    rw [hnames]
    exact hbases.map fun base base' h => (String.append_left_inj _).1 h
  rw [allSets, List.filter_append, List.map_append, List.nodup_append, and_iff_right (heach false),
    and_iff_right (heach true)]
  constructor
  · intro h s hs hselector s' hs' hselector' hsame
    refine h s.selectorName (List.mem_map_of_mem (List.mem_filter.2 ⟨hs, hselector⟩)) s'.selectorName
      (List.mem_map_of_mem (List.mem_filter.2 ⟨hs', hselector'⟩)) ?_
    rw [OverloadSet.selectorName, OverloadSet.selectorName, hsame]
  · intro h name hname name' hname' hsame
    obtain ⟨s, hs, rfl⟩ := List.mem_map.1 hname
    obtain ⟨s', hs', rfl⟩ := List.mem_map.1 hname'
    obtain ⟨hs, hselector⟩ := List.mem_filter.1 hs
    obtain ⟨hs', hselector'⟩ := List.mem_filter.1 hs'
    exact h s hs hselector s' hs' hselector' ((String.append_left_inj _).1 hsame)

theorem nodup_dispatchNames_iff : (dispatchNames (r.allSets c)).Nodup ↔
    ((r.boundFunctions c).map (·.functionName)).Nodup ∧
    (((r.allSets c).filter (·.needsSelector)).map (·.selectorName)).Nodup ∧
    ∀ s ∈ r.allSets c, s.needsSelector = true → ∀ o ∈ r.boundFunctions c, o.functionName ≠ s.selectorName := by
  rw [dispatchNames, flatMap_allSets, List.nodup_append]
  refine and_congr_right fun _ => and_congr_right fun _ => ?_
  constructor
  · intro h s hs hselector o ho
    exact h _ (List.mem_map_of_mem ho) _ (List.mem_map_of_mem (List.mem_filter.2 ⟨hs, hselector⟩))
  · intro h name hname name' hname'
    obtain ⟨o, ho, rfl⟩ := List.mem_map.1 hname
    obtain ⟨s, hs, rfl⟩ := List.mem_map.1 hname'
    exact h s (List.mem_filter.1 hs).1 (List.mem_filter.1 hs).2 o ho

/-- What dispatches is a function of the class or a selector. -/
theorem mem_dispatchNames_allSets {name : String} : name ∈ dispatchNames (r.allSets c) ↔
    (∃ o ∈ r.boundFunctions c, o.functionName = name) ∨
      ∃ s ∈ r.allSets c, s.needsSelector = true ∧ s.selectorName = name := by
  rw [dispatchNames, flatMap_allSets, List.mem_append, List.mem_map, List.mem_map]
  simp only [List.mem_filter, and_assoc]

/-- Finalizers are named unlike what dispatches just when they are named unlike the functions of the class. -/
theorem finalizers_dispatch_iff (classes : List String) :
    (∀ name ∈ classes.map finalizerName, name ∉ dispatchNames (r.allSets c)) ↔
      ∀ x ∈ classes, ∀ o ∈ r.boundFunctions c, finalizerName x ≠ o.functionName := by
  constructor
  · intro h x hx o ho hsame
    exact h _ (List.mem_map_of_mem hx) (mem_dispatchNames_allSets.2 (.inl ⟨o, ho, hsame.symm⟩))
  · intro h name hname hdispatch
    obtain ⟨x, hx, rfl⟩ := List.mem_map.1 hname
    rcases mem_dispatchNames_allSets.1 hdispatch with ⟨o, ho, hsame⟩ | ⟨s, -, -, hsame⟩
    · exact h x hx o ho hsame.symm
    · exact finalizerName_ne_selectorName x s hsame.symm

section Contributions

variable {ks : List Contribution} {className : String} (hnamed : ∀ k ∈ ks, k.IsNamed className)

include hnamed

/-- Finalizers are named unlike what the members contribute just when they are named unlike the accessors. -/
theorem finalizers_apart_iff (classes : List String) :
    (∀ name ∈ classes.map finalizerName, ∀ name' ∈ ks.flatMap (·.signalNames) ++ ks.flatMap (·.accessorNames),
      name ≠ name') ↔ ∀ x ∈ classes, ∀ k ∈ ks, finalizerName x ∉ k.accessorNames := by
  constructor
  · intro h x hx k hk haccessor
    have hname : finalizerName x ∈ ks.flatMap (·.accessorNames) := List.mem_flatMap.2 ⟨k, hk, haccessor⟩
    exact h _ (List.mem_map_of_mem hx) _ (List.mem_append_right _ hname) rfl
  · intro h name hname name' hname' hsame
    obtain ⟨x, hx, rfl⟩ := List.mem_map.1 hname
    rcases List.mem_append.1 hname' with hname' | hname'
    · exact signal_ne_append hnamed hname' (.inl rfl) x hsame.symm
    · obtain ⟨k, hk, haccessor⟩ := List.mem_flatMap.1 hname'
      exact h x hx k hk (hsame ▸ haccessor)

/-- Functions of signals are named unlike what dispatches just when they are named unlike the functions of the class. -/
theorem signals_dispatch_iff : (∀ name ∈ ks.flatMap (·.signalNames), name ∉ dispatchNames (r.allSets c)) ↔
    ∀ k ∈ ks, ∀ name ∈ k.signalNames, ∀ o ∈ r.boundFunctions c, name ≠ o.functionName := by
  constructor
  · intro h k hk name hname o ho hsame
    exact h name (List.mem_flatMap.2 ⟨k, hk, hname⟩) (mem_dispatchNames_allSets.2 (.inl ⟨o, ho, hsame.symm⟩))
  · intro h name hname hdispatch
    rcases mem_dispatchNames_allSets.1 hdispatch with ⟨o, ho, hsame⟩ | ⟨s, -, -, hsame⟩
    · obtain ⟨k, hk, hsignal⟩ := List.mem_flatMap.1 hname
      exact h k hk name hsignal o ho hsame.symm
    · exact signal_ne_append hnamed hname (.inr rfl) s.baseName hsame.symm

/-- The names that contributions define are different just when their properties are, and the finalizers are named
unlike the accessors. -/
theorem nodup_contributed_iff {classes : List String} (hclasses : classes.Nodup) :
    (classes.map finalizerName ++ (ks.flatMap (·.signalNames) ++ ks.flatMap (·.accessorNames))).Nodup ↔
      (ks.map (·.property.name)).Nodup ∧ ∀ x ∈ classes, ∀ k ∈ ks, finalizerName x ∉ k.accessorNames := by
  have hfinalizers : (classes.map finalizerName).Nodup := hclasses.map finalizerName_injective
  have haccessors := nodup_accessorNames_iff hnamed
  rw [List.nodup_append, and_iff_right hfinalizers, finalizers_apart_iff hnamed]
  refine and_congr_left fun _ => ?_
  rw [List.nodup_append, haccessors]
  constructor
  · rintro ⟨-, hproperties, -⟩
    exact hproperties
  · intro hproperties
    exact ⟨nodup_signalNames hnamed hproperties, hproperties, fun name hname name' => signal_ne_accessor hnamed hname⟩

/-- What contributions define is named unlike what dispatches. -/
theorem contributed_dispatch_iff (classes : List String) :
    (∀ name ∈ classes.map finalizerName ++ (ks.flatMap (·.signalNames) ++ ks.flatMap (·.accessorNames)),
      ∀ name' ∈ dispatchNames (r.allSets c), name ≠ name') ↔
    (∀ x ∈ classes, ∀ o ∈ r.boundFunctions c, finalizerName x ≠ o.functionName) ∧
    (∀ k ∈ ks, ∀ name ∈ k.signalNames, ∀ o ∈ r.boundFunctions c, name ≠ o.functionName) ∧
    ∀ k ∈ ks, ∀ name ∈ k.accessorNames, name ∉ dispatchNames (r.allSets c) := by
  rw [← finalizers_dispatch_iff, ← signals_dispatch_iff hnamed]
  constructor
  · intro h
    refine ⟨fun name hname hdispatch => ?_, fun name hname hdispatch => ?_, fun k hk name hname hdispatch => ?_⟩
    · exact h name (List.mem_append_left _ hname) name hdispatch rfl
    · exact h name (List.mem_append_right _ (List.mem_append_left _ hname)) name hdispatch rfl
    · have haccessor : name ∈ ks.flatMap (·.accessorNames) := List.mem_flatMap.2 ⟨k, hk, hname⟩
      exact h name (List.mem_append_right _ (List.mem_append_right _ haccessor)) name hdispatch rfl
  · rintro ⟨hfinalizers, hsignals, haccessors⟩ name hname name' hdispatch rfl
    rcases List.mem_append.1 hname with hname | hname
    · exact hfinalizers name hname hdispatch
    · rcases List.mem_append.1 hname with hname | hname
      · exact hsignals name hname hdispatch
      · obtain ⟨k, hk, haccessor⟩ := List.mem_flatMap.1 hname
        exact haccessors k hk name haccessor hdispatch

end Contributions

/-- **A unit defines no name twice just when `NamesApart` holds** of the contributions of its members. -/
theorem nodup_names_iff {u : BindingsUnit} (hu : (r.unitOf c).outcome = .ok u) :
    ∃ ks, r.contributionsOf c = .ok ks ∧ ((namesOf u.passages).Nodup ↔ r.NamesApart c ks) := by
  rw [outcome_unitOf] at hu
  obtain ⟨ks, hks, hu⟩ := bind_eq_ok.1 hu
  obtain ⟨instanceParts, hinstances, hu⟩ := bind_eq_ok.1 hu
  obtain ⟨staticParts, hstatics, hu⟩ := bind_eq_ok.1 hu
  cases hu
  refine ⟨ks, hks, ?_⟩
  have hnamed : ∀ k ∈ ks, k.IsNamed c.className := fun k hk => isNamed_of_contributionsOf hks hk
  have hclasses : (r.finalized c ks).Nodup := nodup_definedBy_partsOf (nodup_definedFirst c) ks
  rw [(names_of_assemble hks hinstances hstatics).nodup_iff, List.nodup_append, nodup_contributed_iff hnamed hclasses,
    nodup_dispatchNames_iff, nodup_boundNames_iff, nodup_selectorNames_iff, contributed_dispatch_iff hnamed]
  constructor
  · rintro ⟨⟨hproperties, haccessors⟩, ⟨hfunctions, hselectors, hdispatch⟩, hbound, hsignals, hlisted⟩
    exact ⟨hproperties, hfunctions, hselectors, hdispatch, hlisted, hsignals, fun x hx => ⟨haccessors x hx, hbound x hx⟩⟩
  · intro h
    exact ⟨⟨h.properties, fun x hx => (h.finalizers x hx).1⟩, ⟨h.functions, h.selectors, h.dispatch⟩,
      fun x hx => (h.finalizers x hx).2, h.signals, h.accessors⟩

/-- The members have different signatures: functions that are named alike and are alike called with or without an object
differ in the names of the types of their parameters, and variables in their names. -/
def DistinctSignatures (c : Compound) : Prop :=
  ((c.members.filter (·.kind == "function")).map fun m =>
    (m.name, c.bindsStatic m.toSymbol, m.parameters.map fun p => Descriptor.nameOf p.basicType)).Nodup ∧
  ((c.members.filter (·.kind == "variable")).map (·.name)).Nodup

/-- A class with a function that is named after another and the type of its parameter. -/
def gauge : Compound where
  kind := "class"
  name := "Gauge"
  members := [{ kind := "function", name := "Read", type := "void", parameters := [{ type := "int", name := "unit" }] },
    { kind := "function", name := "Read_int", type := "int" }]

/-- The registry of the class. -/
def gaugeRegistry : Registry := (build .default { preferred := [] } [gauge] []).value

/-- Both functions get one name. -/
theorem names_gauge : (gaugeRegistry.unitOf gauge).outcome.map (fun u => namesOf u.passages) =
    .ok ["Gauge_Finalizer", "Gauge_Read_int", "Gauge_Read_int"] := by
  decide +kernel

theorem not_nodup_names_gauge : gaugeRegistry.bindable.map (·.2) = [gauge] ∧ DistinctSignatures gauge ∧
    ∃ u, (gaugeRegistry.unitOf gauge).outcome = .ok u ∧ ¬ (namesOf u.passages).Nodup := by
  obtain ⟨u, hu, hnames⟩ := map_eq_ok.1 names_gauge
  have hbindable : gaugeRegistry.bindable.map (·.2) = [gauge] := by decide +kernel
  have hsignatures : DistinctSignatures gauge := by
    constructor <;> decide +kernel
  refine ⟨hbindable, hsignatures, u, hu, ?_⟩
  rw [hnames]
  decide

theorem nodup_names_iff_gauge : ∃ u, (gaugeRegistry.unitOf gauge).outcome = .ok u ∧
    ∃ ks, gaugeRegistry.contributionsOf gauge = .ok ks ∧
      ((namesOf u.passages).Nodup ↔ gaugeRegistry.NamesApart gauge ks) := by
  obtain ⟨u, hu, -⟩ := map_eq_ok.1 names_gauge
  exact ⟨u, hu, nodup_names_iff hu⟩

end Registry

end ScriptGlue
