import ScriptGlue.Binding.Selection
import ScriptGlue.Proofs.Maps
import ScriptGlue.Proofs.Outcome

/-!
# Registered classes

A registry is filled twice: by name for the classes that are asked for, and from the documentation for those that it
describes. What stands there in the end can be said without the order of the steps. Of the compounds of one name the last
counts (`lastNamed`), and a name without a compound keeps what is known by name alone. **`holds_build`** says this
of the entries and of the classes that get bindings.
-/

namespace ScriptGlue

open ScriptGlue.Text ScriptGlue.Cpp ScriptGlue.Files

/-! ### The last of each name -/

/-- The compounds after which none of the same name comes. -/
def lastNamed : List Compound → List Compound
  | [] => []
  | c :: cs => if cs.any (·.className == c.className) then lastNamed cs else c :: lastNamed cs

/-- A compound is kept just if none of its name comes after it. -/
theorem mem_lastNamed_iff {cs : List Compound} {c : Compound} :
    c ∈ lastNamed cs ↔ ∃ before after, cs = before ++ c :: after ∧ ∀ d ∈ after, d.className ≠ c.className := by
  induction cs with
  | nil => simp [lastNamed]
  | cons first cs ih =>
    have hlater : (∃ before after, first :: cs = before ++ c :: after ∧ ∀ d ∈ after, d.className ≠ c.className) ↔
        (first = c ∧ ∀ d ∈ cs, d.className ≠ c.className) ∨ c ∈ lastNamed cs := by
      rw [ih]
      constructor
      · rintro ⟨before, after, hsplit, hlast⟩
        rcases List.cons_eq_append_iff.1 hsplit with ⟨-, hcons⟩ | ⟨before', -, hsplit'⟩
        · cases hcons
          exact .inl ⟨rfl, hlast⟩
        · exact .inr ⟨before', after, hsplit', hlast⟩
      · rintro (⟨rfl, hlast⟩ | ⟨before, after, rfl, hlast⟩)
        · exact ⟨[], cs, rfl, hlast⟩
        · exact ⟨first :: before, after, rfl, hlast⟩
    rw [hlater, lastNamed]
    by_cases hrepeated : cs.any (·.className == first.className) = true
    · rw [if_pos hrepeated]
      refine ⟨.inr, fun h => h.resolve_left ?_⟩
      rintro ⟨rfl, hlast⟩
      obtain ⟨d, hd, hname⟩ := List.any_eq_true.1 hrepeated
      exact hlast d hd (beq_iff_eq.1 hname)
    · rw [if_neg hrepeated, List.mem_cons]
      refine or_congr_left ⟨?_, fun h => h.1.symm⟩
      rintro rfl
      exact ⟨rfl, fun d hd hname => hrepeated (List.any_eq_true.2 ⟨d, hd, beq_iff_eq.2 hname⟩)⟩

theorem lastNamed_sublist (cs : List Compound) : (lastNamed cs).Sublist cs := by
  induction cs with
  | nil => exact .slnil
  | cons c cs ih =>
    rw [lastNamed]
    split
    · exact ih.cons c
    · exact ih.cons_cons c

/-- No name is lost. -/
theorem exists_mem_lastNamed {cs : List Compound} {c : Compound} (h : c ∈ cs) :
    ∃ c' ∈ lastNamed cs, c'.className = c.className := by
  induction cs generalizing c with
  | nil => cases h
  | cons first cs ih =>
    rw [lastNamed]
    by_cases hrepeated : cs.any (·.className == first.className) = true
    · rw [if_pos hrepeated]
      rcases List.mem_cons.1 h with rfl | h
      · obtain ⟨d, hd, hname⟩ := List.any_eq_true.1 hrepeated
        obtain ⟨c', hc', hsame⟩ := ih hd
        exact ⟨c', hc', hsame.trans (beq_iff_eq.1 hname)⟩
      · exact ih h
    · rw [if_neg hrepeated]
      rcases List.mem_cons.1 h with rfl | h
      · exact ⟨c, List.mem_cons_self, rfl⟩
      · obtain ⟨c', hc', hsame⟩ := ih h
        exact ⟨c', List.mem_cons_of_mem first hc', hsame⟩

/-- No name is there twice. -/
theorem nodup_lastNamed (cs : List Compound) : ((lastNamed cs).map (·.className)).Nodup := by
  induction cs with
  | nil => exact List.nodup_nil
  | cons c cs ih =>
    rw [lastNamed]
    split
    · exact ih
    · next hlast =>
      rw [List.map_cons, List.nodup_cons]
      refine ⟨fun hmem => hlast ?_, ih⟩
      obtain ⟨d, hd, hname⟩ := List.mem_map.1 hmem
      exact List.any_eq_true.2 ⟨d, (lastNamed_sublist cs).subset hd, beq_iff_eq.2 hname⟩

/-- Where all names are different, every compound is the last of its name. -/
theorem lastNamed_of_nodup {cs : List Compound} (h : (cs.map (·.className)).Nodup) : lastNamed cs = cs := by
  induction cs with
  | nil => rfl
  | cons c cs ih =>
    rw [List.map_cons, List.nodup_cons] at h
    rw [lastNamed, if_neg, ih h.2]
    intro hrepeated
    obtain ⟨d, hd, hname⟩ := List.any_eq_true.1 hrepeated
    exact h.1 (List.mem_map.2 ⟨d, hd, beq_iff_eq.1 hname⟩)

/-- One more compound comes last and takes the place of the one of its name. -/
theorem lastNamed_concat (cs : List Compound) (c : Compound) :
    lastNamed (cs ++ [c]) = (lastNamed cs).filter (·.className != c.className) ++ [c] := by
  induction cs with
  | nil => rfl
  | cons first cs ih =>
    rw [List.cons_append, lastNamed, lastNamed, ih, List.any_append]
    by_cases hrepeated : cs.any (·.className == first.className) = true
    · rw [if_pos (by rw [hrepeated, Bool.true_or]), if_pos hrepeated]
    · rw [Bool.not_eq_true] at hrepeated
      by_cases hname : c.className = first.className
      · simp [hrepeated, hname]
      · simp [hrepeated, hname, Ne.symm hname]

namespace OrderedMap

variable {α : Type}

/-- Entries that are made anew for each compound come to those of the last of each name. -/
theorem toList_foldl_renew (value : Compound → α) (cs : List Compound) :
    (cs.foldl (fun (m : OrderedMap α) c => (m.erase c.className).insert c.className (value c)) ∅).toList =
      (lastNamed cs).map fun c => (c.className, value c) := by
  induction cs using List.reverseRecOn with
  | nil => rfl
  | append_singleton cs c ih =>
    rw [List.foldl_append, List.foldl_cons, List.foldl_nil, lastNamed_concat]
    generalize cs.foldl (fun (m : OrderedMap α) c => (m.erase c.className).insert c.className (value c)) ∅ = m at ih
    have herased : (m.erase c.className).toList =
        ((lastNamed cs).filter (·.className != c.className)).map fun c => (c.className, value c) := by
      rw [erase, ih, List.filter_map]
      rfl
    have hnew : c.className ∉ (m.erase c.className).keys := by
      simp [keys, herased]
    rw [toList_insert_of_not_mem hnew, herased, List.map_append, List.map_singleton]

end OrderedMap

/-! ### What is asked for -/

/-- The name that an argument asks for. -/
def argumentName (argument : String) : String := if startsWith argument "_" then dropStart argument 1 else argument

/-- One more argument: its name is asked for if it is new, and asked for the sake of others if it is marked. -/
theorem requestedClasses_concat (requested : List String) (argument : String) :
    requestedClasses (requested ++ [argument]) =
      (if (argumentName argument).isEmpty || (requestedClasses requested).1.contains (argumentName argument) then
          (requestedClasses requested).1
        else (requestedClasses requested).1 ++ [argumentName argument],
        if startsWith argument "_" && !(requestedClasses requested).2.contains (argumentName argument) then
          (requestedClasses requested).2 ++ [argumentName argument]
        else (requestedClasses requested).2) := by
  rw [requestedClasses, List.foldl_append]
  rfl

/-- Nothing is asked for twice. -/
theorem nodup_requestedClasses (requested : List String) : (requestedClasses requested).1.Nodup := by
  induction requested using List.reverseRecOn with
  | nil => exact List.nodup_nil
  | append_singleton requested argument ih =>
    rw [requestedClasses_concat]
    dsimp only
    split
    · exact ih
    · next hnew =>
      simp only [Bool.or_eq_true, List.contains_eq_mem, decide_eq_true_eq, not_or] at hnew
      rw [← List.concat_eq_append]
      exact ih.concat hnew.2

/-- What is asked for is what some argument asks for. -/
theorem mem_requestedClasses_iff {requested : List String} {name : String} :
    name ∈ (requestedClasses requested).1 ↔ name ≠ "" ∧ ∃ a ∈ requested, argumentName a = name := by
  induction requested using List.reverseRecOn with
  | nil => simp [requestedClasses]
  | append_singleton requested argument ih =>
    have hasked : (name ≠ "" ∧ ∃ a ∈ requested ++ [argument], argumentName a = name) ↔
        name ∈ (requestedClasses requested).1 ∨ name ≠ "" ∧ argumentName argument = name := by
      rw [ih]
      simp [or_and_right, exists_or, and_or_left]
    rw [hasked, requestedClasses_concat]
    dsimp only
    split
    · next hold =>
      simp only [Bool.or_eq_true, String.isEmpty_iff, List.contains_eq_mem, decide_eq_true_eq] at hold
      refine ⟨.inl, fun h => h.elim id ?_⟩
      rintro ⟨hne, rfl⟩
      exact hold.resolve_left hne
    · next hnew =>
      simp only [Bool.or_eq_true, String.isEmpty_iff, List.contains_eq_mem, decide_eq_true_eq, not_or] at hnew
      rw [List.mem_append, List.mem_singleton]
      refine or_congr_right ⟨?_, fun h => h.2.symm⟩
      rintro rfl
      exact ⟨hnew.1, rfl⟩

/-- What is there for others is what some marked argument asks for. -/
theorem mem_dependencies_iff {requested : List String} {name : String} :
    name ∈ (requestedClasses requested).2 ↔ ∃ a ∈ requested, startsWith a "_" = true ∧ argumentName a = name := by
  induction requested using List.reverseRecOn with
  | nil => simp [requestedClasses]
  | append_singleton requested argument ih =>
    have hasked : (∃ a ∈ requested ++ [argument], startsWith a "_" = true ∧ argumentName a = name) ↔
        name ∈ (requestedClasses requested).2 ∨ startsWith argument "_" = true ∧ argumentName argument = name := by
      rw [ih]
      simp [or_and_right, exists_or]
    rw [hasked, requestedClasses_concat]
    dsimp only
    split
    · next hnew =>
      simp only [Bool.and_eq_true] at hnew
      rw [List.mem_append, List.mem_singleton]
      exact or_congr_right ⟨fun h => ⟨hnew.1, h.symm⟩, fun h => h.2.symm⟩
    · next hold =>
      simp only [Bool.and_eq_true, Bool.not_eq_true', List.contains_eq_mem, decide_eq_false_iff_not, not_and, not_not] at hold
      refine ⟨.inl, fun h => h.elim id ?_⟩
      rintro ⟨hstart, rfl⟩
      exact hold hstart

namespace Registry

/-! ### How a registry is built -/

section

variable (config : Config) (headers : Headers) (dependencies : List String)

/-- The entry of a class that is asked for. -/
def requestedEntry (name : String) : ClassEntry where
  name
  isRefcounted := config.isRefcountedName name
  isDependencyOnly := dependencies.contains name
  header := (resolveHeader config headers name).value

/-- The entry of a class that is described. -/
def describedEntry (c : Compound) : ClassEntry where
  name := c.className
  isRefcounted := config.isRefcountedClass c
  isDependencyOnly := dependencies.contains c.className
  header := (resolveHeader config headers c.className).value
  compound? := some c

/-- The compound is registered: it is wanted, and its namespace is not denied. -/
def isRegistrable (names : List String) (c : Compound) : Bool :=
  isWanted names c && !config.deniedNamespaces.contains (namespaceOf scopedNames c.name)

theorem value_request (r : Registry) (names : List String) :
    (request config headers dependencies r names).value =
      { r with entries := names.foldl (fun m name => m.insert name (requestedEntry config headers dependencies name)) r.entries } := by
  induction names generalizing r with
  | nil => rfl
  | cons name names ih =>
    rw [request, Logged.value_bind, ih]
    rfl

theorem value_find (names : List String) (entries : OrderedMap ClassEntry) (found : OrderedMap (ClassEntry × Compound))
    (cs : List Compound) :
    (find config headers names dependencies entries found cs).value =
      ((cs.filter (isRegistrable config names)).foldl
          (fun m c => m.insert c.className (describedEntry config headers dependencies c)) entries,
        (cs.filter (isRegistrable config names)).foldl
          (fun m c => (m.erase c.className).insert c.className (describedEntry config headers dependencies c, c)) found) := by
  induction cs generalizing entries found with
  | nil => rfl
  | cons c cs ih =>
    rw [find, List.filter_cons, isRegistrable]
    cases hwanted : isWanted names c with
    | false => exact ih entries found
    | true =>
      cases hdenied : config.deniedNamespaces.contains (namespaceOf scopedNames c.name) with
      | true => exact ih entries found
      | false =>
        -- a message apart, it is the same whether the class replaces another
        cases hreplaced : found.contains (Descriptor.nameOf c.name) <;>
          simp only [hreplaced, Bool.not_true, Bool.false_eq_true, if_false, if_true, Logged.value_bind, ih] <;> rfl

/-- The compounds that are registered. -/
def registrable (requested : List String) (cs : List Compound) : List Compound :=
  cs.filter (isRegistrable config (requestedClasses requested).1)

theorem value_build (cs : List Compound) (requested : List String) :
    (build config headers cs requested).value =
      { config
        entries := (registrable config requested cs).foldl
          (fun m c => m.insert c.className (describedEntry config headers (requestedClasses requested).2 c))
          ((requestedClasses requested).1.foldl
            (fun m name => m.insert name (requestedEntry config headers (requestedClasses requested).2 name)) ∅)
        bindable := ((registrable config requested cs).foldl
          (fun (m : OrderedMap (ClassEntry × Compound)) c => (m.erase c.className).insert c.className
            (describedEntry config headers (requestedClasses requested).2 c, c)) ∅).values.filter (!·.1.isDependencyOnly) } := by
  rw [build]
  simp only [Logged.value_bind, value_request, value_find]
  rfl

end

/-! ### What is eligible -/

/-- Some argument asks for the class of the given name. -/
def IsAskedFor (requested : List String) (name : String) : Prop := name ≠ "" ∧ ∃ a ∈ requested, argumentName a = name

/-- Some argument asks for the class for the sake of other classes only. -/
def IsForOthers (requested : List String) (name : String) : Prop :=
  ∃ a ∈ requested, startsWith a "_" = true ∧ argumentName a = name

/-- The compound is to be registered: it is of a kind that can be bound, it is asked for if anything is, and its
namespace is not denied. -/
structure IsEligible (config : Config) (requested : List String) (c : Compound) : Prop where
  kind : c.kind = "class" ∨ c.kind = "struct" ∨ c.kind = "namespace"
  asked : IsAskedFor requested (stripNamespace scopedNames c.name) ∨ ∀ name, ¬ IsAskedFor requested name
  allowed : namespaceOf scopedNames c.name ∉ config.deniedNamespaces

section

variable {config : Config} {requested : List String}

theorem isAskedFor_iff {name : String} : IsAskedFor requested name ↔ name ∈ (requestedClasses requested).1 :=
  mem_requestedClasses_iff.symm

theorem isForOthers_iff {name : String} : IsForOthers requested name ↔ name ∈ (requestedClasses requested).2 :=
  mem_dependencies_iff.symm

instance (name : String) : Decidable (IsForOthers requested name) := decidable_of_iff _ isForOthers_iff.symm

theorem isEligible_iff {c : Compound} :
    IsEligible config requested c ↔ isRegistrable config (requestedClasses requested).1 c = true := by
  have hnone : (∀ name, ¬ IsAskedFor requested name) ↔ (requestedClasses requested).1 = [] := by
    rw [List.eq_nil_iff_forall_not_mem]
    exact forall_congr' fun name => not_congr isAskedFor_iff
  have hkind : isBindableKind c.kind = true ↔ c.kind = "class" ∨ c.kind = "struct" ∨ c.kind = "namespace" := by
    simp [isBindableKind, or_assoc]
  simp only [isRegistrable, isWanted, Bool.and_eq_true, Bool.or_eq_true, Bool.not_eq_true', List.contains_eq_mem,
    decide_eq_true_eq, decide_eq_false_iff_not, List.isEmpty_iff, hkind]
  constructor
  · rintro ⟨hkind, hasked, hallowed⟩
    exact ⟨⟨hkind, hasked.symm.imp hnone.1 isAskedFor_iff.1⟩, hallowed⟩
  · rintro ⟨⟨hkind, hasked⟩, hallowed⟩
    exact ⟨hkind, hasked.symm.imp isAskedFor_iff.2 hnone.2, hallowed⟩

instance (c : Compound) : Decidable (IsEligible config requested c) := decidable_of_iff _ isEligible_iff.symm

/-- The compounds that are to be registered, in order. -/
theorem registrable_eq (cs : List Compound) :
    registrable config requested cs = cs.filter fun c => decide (IsEligible config requested c) :=
  List.filter_congr fun c _ => by rw [Bool.eq_iff_iff, decide_eq_true_eq, isEligible_iff]

end

/-! ### What is registered -/

section

variable (config : Config) (headers : Headers) (requested : List String) (cs : List Compound)

/-- A class that is described has the entry of the last compound of its name. -/
theorem get?_build_of_described {c : Compound} (hc : c ∈ lastNamed (registrable config requested cs)) :
    (build config headers cs requested).value.get? c.className =
      some (describedEntry config headers (requestedClasses requested).2 c) := by
  obtain ⟨before, after, hsplit, hlast⟩ := mem_lastNamed_iff.1 hc
  rw [get?, value_build, hsplit]
  exact OrderedMap.get?_foldl_insert_of_last hlast _

/-- A class that is not described has an entry if it is asked for. -/
theorem get?_build_of_not_described {name : String} (h : ∀ c ∈ registrable config requested cs, c.className ≠ name) :
    (build config headers cs requested).value.get? name =
      if name ∈ (requestedClasses requested).1 then
        some (requestedEntry config headers (requestedClasses requested).2 name) else none := by
  rw [get?, value_build]
  dsimp only
  rw [OrderedMap.get?_foldl_insert_of_not_mem h]
  by_cases hname : name ∈ (requestedClasses requested).1
  · obtain ⟨before, after, hsplit⟩ := List.append_of_mem hname
    have hnodup := nodup_requestedClasses requested
    rw [hsplit, List.nodup_append, List.nodup_cons] at hnodup
    have hlast : ∀ other ∈ after, id other ≠ id name := by
      rintro other hother rfl
      exact hnodup.2.1.1 hother
    rw [if_pos hname, hsplit]
    exact OrderedMap.get?_foldl_insert_of_last hlast ∅
  · have hother : ∀ other ∈ (requestedClasses requested).1, id other ≠ name := by
      rintro other hother rfl
      exact hname hother
    rw [if_neg hname]
    exact OrderedMap.get?_foldl_insert_of_not_mem hother ∅

theorem bindable_build_eq :
    (build config headers cs requested).value.bindable =
      ((lastNamed (registrable config requested cs)).map fun c =>
        (describedEntry config headers (requestedClasses requested).2 c, c)).filter (!·.1.isDependencyOnly) := by
  rw [value_build]
  dsimp only
  rw [OrderedMap.values,
    OrderedMap.toList_foldl_renew fun c => (describedEntry config headers (requestedClasses requested).2 c, c),
    List.map_map]
  rfl

/-- No name gets bindings twice. -/
theorem nodup_bindable : ((build config headers cs requested).value.bindable.map (·.1.name)).Nodup := by
  rw [bindable_build_eq]
  refine List.Nodup.sublist (List.filter_sublist.map _) ?_
  rw [List.map_map]
  exact nodup_lastNamed _

end

/-- The registry holds the classes that are asked for and those that the eligible compounds describe. -/
structure Holds (r : Registry) (config : Config) (headers : Headers) (requested : List String)
    (eligible : List Compound) : Prop where
  /-- Every class that is asked for is registered. -/
  asked : ∀ name, IsAskedFor requested name → r.contains name = true
  /-- The classes that get bindings are the last of their names, in order, but for those that are there for others. -/
  bindable : r.bindable.map (·.2) = (lastNamed eligible).filter fun c => decide (¬ IsForOthers requested c.className)
  /-- The last of its name is a compound after which no other of the name comes. -/
  last : ∀ entry ∈ r.bindable, ∃ before after,
    eligible = before ++ entry.2 :: after ∧ ∀ c ∈ after, c.className ≠ entry.1.name
  /-- Each name of an eligible compound gets bindings, unless it is there for others. -/
  covered : ∀ c ∈ eligible, ¬ IsForOthers requested c.className → ∃ entry ∈ r.bindable, entry.1.name = c.className
  /-- No name gets bindings twice. -/
  once : (r.bindable.map (·.1.name)).Nodup
  /-- Each entry is made from its compound. -/
  made : ∀ entry ∈ r.bindable, entry.1 = describedEntry config headers (requestedClasses requested).2 entry.2
  /-- The name of an entry leads back to the entry, and is the name of the class that it describes. -/
  found : ∀ entry ∈ r.bindable, r.get? entry.1.name = some entry.1 ∧ entry.1.compound? = some entry.2 ∧
    entry.2.className = entry.1.name
  /-- A name that no eligible compound has is known by name alone. -/
  named : ∀ name, r.contains name = true → (∀ c ∈ eligible, c.className ≠ name) →
    ∃ entry, r.get? name = some entry ∧ entry.name = name ∧ entry.compound? = none ∧
      entry.isRefcounted = config.isRefcountedName name
  /-- What is there for others gets no bindings. -/
  independent : ∀ entry ∈ r.bindable, ¬ IsForOthers requested entry.1.name

/-- **A registry holds what is asked for and what is described**, whatever the compounds and however often their names
come: of each name the last compound counts. -/
theorem holds_build (config : Config) (headers : Headers) (requested : List String) (cs : List Compound) :
    (build config headers cs requested).value.Holds config headers requested
      (cs.filter fun c => decide (IsEligible config requested c)) := by
  rw [← registrable_eq]
  have hbindable := bindable_build_eq config headers requested cs
  have hothers : ∀ c : Compound, (describedEntry config headers (requestedClasses requested).2 c).isDependencyOnly = false ↔
      ¬ IsForOthers requested c.className := by
    intro c
    rw [isForOthers_iff, describedEntry, List.contains_eq_mem, decide_eq_false_iff_not]
  have hentry : ∀ entry ∈ (build config headers cs requested).value.bindable,
      entry.1 = describedEntry config headers (requestedClasses requested).2 entry.2 ∧
        entry.2 ∈ lastNamed (registrable config requested cs) ∧ ¬ IsForOthers requested entry.2.className := by
    intro entry h
    rw [hbindable] at h
    obtain ⟨hmade, hkept⟩ := List.mem_filter.1 h
    obtain ⟨c, hc, rfl⟩ := List.mem_map.1 hmade
    exact ⟨rfl, hc, (hothers c).1 (Bool.not_eq_true' _ ▸ hkept)⟩
  have hname : ∀ entry ∈ (build config headers cs requested).value.bindable, entry.1.name = entry.2.className := by
    intro entry h
    rw [(hentry entry h).1]
    rfl
  have hbound : (build config headers cs requested).value.bindable.map (·.2) =
      (lastNamed (registrable config requested cs)).filter fun c => decide (¬ IsForOthers requested c.className) := by
    rw [hbindable, List.filter_map, List.map_map]
    refine (List.map_id _).trans (List.filter_congr fun c _ => ?_)
    rw [Bool.eq_iff_iff, decide_eq_true_eq, ← hothers c, ← Bool.not_eq_true']
    rfl
  constructor
  case asked =>
    intro name hasked
    rw [contains, OrderedMap.contains]
    change ((build config headers cs requested).value.get? name).isSome = true
    by_cases hdescribed : ∀ c ∈ registrable config requested cs, c.className ≠ name
    · rw [get?_build_of_not_described config headers requested cs hdescribed, if_pos (isAskedFor_iff.1 hasked),
        Option.isSome_some]
    · simp only [not_forall, not_not] at hdescribed
      obtain ⟨c, hc, rfl⟩ := hdescribed
      obtain ⟨c', hc', hsame⟩ := exists_mem_lastNamed hc
      rw [← hsame, get?_build_of_described config headers requested cs hc', Option.isSome_some]
  case bindable => exact hbound
  case last =>
    intro entry h
    rw [hname entry h]
    exact mem_lastNamed_iff.1 (hentry entry h).2.1
  case covered =>
    intro c hc hneeded
    obtain ⟨c', hc', hsame⟩ := exists_mem_lastNamed hc
    rw [← hsame, ← hothers c'] at hneeded
    rw [hbindable, ← hsame]
    exact ⟨_, List.mem_filter.2 ⟨List.mem_map_of_mem hc', (Bool.not_eq_true' _).mpr hneeded⟩, rfl⟩
  case once => exact nodup_bindable config headers requested cs
  case made => exact fun entry h => (hentry entry h).1
  case found =>
    intro entry h
    rw [hname entry h, get?_build_of_described config headers requested cs (hentry entry h).2.1, (hentry entry h).1]
    exact ⟨rfl, rfl, rfl⟩
  case named =>
    intro name hcontains hdescribed
    have hget := get?_build_of_not_described config headers requested cs hdescribed
    have hsome : ((build config headers cs requested).value.get? name).isSome = true := hcontains
    rw [hget] at hsome
    split at hsome
    · next hasked =>
      rw [if_pos hasked] at hget
      exact ⟨_, hget, rfl, rfl, rfl⟩
    · cases hsome
  case independent =>
    intro entry h
    rw [hname entry h]
    exact (hentry entry h).2.2

end Registry

end ScriptGlue
