import Mathlib.Data.List.TakeWhile
import ScriptGlue.Proofs.Dependencies
import ScriptGlue.Proofs.Resolution

/-!
# What overload resolution comes to

Resolution considers the members one by one and lets the sets grow. What it arrives at can be said without
the order of its steps: the accepted members fall into groups by base name, the groups stand in the order of
their first members, and of the functions of a group those are left out whose name an earlier one has
(`toList_sets`). **`resolve_loses_nothing`** says this of every set, and that the two resolutions of a class
together consider every candidate once and report every rejected one once.
-/

namespace ScriptGlue

open ScriptGlue.Text ScriptGlue.Cpp

/-! ### Functions of one name -/

/-- The functions of which no earlier one has the name. -/
def firstNamed : List Overload → List Overload
  | [] => []
  | o :: os => o :: (firstNamed os).filter (·.functionName != o.functionName)

theorem firstNamed_sublist (os : List Overload) : (firstNamed os).Sublist os := by
  induction os with
  | nil => exact .slnil
  | cons o os ih => exact .cons_cons o (List.filter_sublist.trans ih)

/-- No name is lost. -/
theorem exists_mem_firstNamed {os : List Overload} {o : Overload} (h : o ∈ os) :
    ∃ o' ∈ firstNamed os, o'.functionName = o.functionName := by
  induction os with
  | nil => cases h
  | cons first os ih =>
    by_cases hname : o.functionName = first.functionName
    · exact ⟨first, List.mem_cons_self, hname.symm⟩
    · have hrest : o ∈ os := (List.mem_cons.1 h).resolve_left fun heq => hname (by rw [heq])
      obtain ⟨o', ho', hsame⟩ := ih hrest
      refine ⟨o', List.mem_cons_of_mem _ (List.mem_filter.2 ⟨ho', ?_⟩), hsame⟩
      rw [hsame]
      simpa using hname

/-- No name is there twice. -/
theorem nodup_firstNamed (os : List Overload) : ((firstNamed os).map (·.functionName)).Nodup := by
  induction os with
  | nil => exact List.nodup_nil
  | cons o os ih =>
    rw [firstNamed, List.map_cons, List.nodup_cons]
    refine ⟨?_, ih.sublist (List.filter_sublist.map _)⟩
    intro hmem
    obtain ⟨o', ho', hsame⟩ := List.mem_map.1 hmem
    simp [hsame] at ho'

/-- One more function is left out if its name is there. -/
theorem firstNamed_concat (os : List Overload) (o : Overload) :
    firstNamed (os ++ [o]) =
      if (firstNamed os).any (·.functionName == o.functionName) then firstNamed os else firstNamed os ++ [o] := by
  induction os with
  | nil => rfl
  | cons first os ih =>
    rw [List.cons_append, firstNamed, ih, firstNamed]
    by_cases hfirst : first.functionName = o.functionName
    · have hlast : [o].filter (·.functionName != first.functionName) = [] := by simp [hfirst]
      split <;> simp [hfirst]
    · have hlast : (firstNamed os).any (·.functionName == o.functionName) =
          ((firstNamed os).filter (·.functionName != first.functionName)).any (·.functionName == o.functionName) := by
        rw [Bool.eq_iff_iff]
        simp only [List.any_eq_true, List.mem_filter, beq_iff_eq, bne_iff_ne, ne_eq]
        constructor
        · rintro ⟨o', ho', hsame⟩
          exact ⟨o', ⟨ho', fun heq => hfirst (heq ▸ hsame)⟩, hsame⟩
        · rintro ⟨o', ⟨ho', -⟩, hsame⟩
          exact ⟨o', ho', hsame⟩
      rw [List.any_cons, ← hlast, beq_false_of_ne hfirst, Bool.false_or]
      split
      · rfl
      · simp [Ne.symm hfirst]

/-! ### Groups -/

namespace Compound

variable (c : Compound) (isStatic : Bool)

/-- The set of the functions that bind the members of a group. -/
def setOf (base : String) (group : List Symbol) : OverloadSet where
  baseName := base
  scriptName := (group.head?.map (·.name)).getD ""
  isConstructor := group.head?.any c.bindsConstructor
  overloads := firstNamed (group.map (c.overloadOf · isStatic))

/-- The members with a base name. -/
def groupOf (ms : List Symbol) (base : String) : List Symbol := ms.filter fun m => c.baseName m isStatic == base

/-- The base names of some members, each once, in the order of their first members. -/
def basesOf (ms : List Symbol) : List String := (ms.map (c.baseName · isStatic)).eraseDups

/-- The sets of the groups that some members make up. -/
def setsOf (ms : List Symbol) : OrderedMap OverloadSet :=
  .tabulate (c.basesOf isStatic ms) fun base => c.setOf isStatic base (c.groupOf isStatic ms base)

variable {c isStatic}

theorem mem_basesOf {ms : List Symbol} {base : String} : base ∈ c.basesOf isStatic ms ↔ c.groupOf isStatic ms base ≠ [] := by
  simp [basesOf, groupOf, List.mem_eraseDups]

theorem nodup_basesOf (ms : List Symbol) : (c.basesOf isStatic ms).Nodup := nodup_eraseDups _

theorem basesOf_concat (ms : List Symbol) (m : Symbol) :
    c.basesOf isStatic (ms ++ [m]) =
      if c.baseName m isStatic ∈ c.basesOf isStatic ms then c.basesOf isStatic ms
      else c.basesOf isStatic ms ++ [c.baseName m isStatic] := by
  rw [basesOf, List.map_append, List.map_singleton, eraseDups_concat]
  rfl

theorem groupOf_concat (ms : List Symbol) (m : Symbol) (base : String) :
    c.groupOf isStatic (ms ++ [m]) base =
      if base = c.baseName m isStatic then c.groupOf isStatic ms base ++ [m] else c.groupOf isStatic ms base := by
  by_cases h : base = c.baseName m isStatic
  · simp [groupOf, h]
  · simp [groupOf, h, Ne.symm h]

/-- The set of a group that is longer by a member: its function is left out if there is one of its name. -/
theorem setOf_concat {base : String} {group : List Symbol} (h : group ≠ []) (m : Symbol) :
    c.setOf isStatic base (group ++ [m]) =
      if (c.setOf isStatic base group).contains (c.overloadOf m isStatic).functionName then c.setOf isStatic base group
      else { c.setOf isStatic base group with
        overloads := (c.setOf isStatic base group).overloads ++ [c.overloadOf m isStatic] } := by
  have hhead : (group ++ [m]).head? = group.head? := by
    obtain ⟨first, rest, rfl⟩ := List.exists_cons_of_ne_nil h
    rfl
  have hoverloads := firstNamed_concat (group.map (c.overloadOf · isStatic)) (c.overloadOf m isStatic)
  by_cases hname : (c.setOf isStatic base group).contains (c.overloadOf m isStatic).functionName = true
  · rw [if_pos (show (firstNamed _).any _ = true from hname)] at hoverloads
    rw [if_pos hname, setOf, List.map_append, List.map_singleton, hoverloads, hhead]
    rfl
  · rw [if_neg (show ¬ (firstNamed _).any _ = true from hname)] at hoverloads
    rw [if_neg hname, setOf, List.map_append, List.map_singleton, hoverloads, hhead]
    rfl

/-- **Accepting a member is having one more to group.** -/
theorem accept_setsOf (ms : List Symbol) (m : Symbol) :
    c.accept isStatic (c.setsOf isStatic ms) m = c.setsOf isStatic (ms ++ [m]) := by
  have hother : ∀ base, base ≠ c.baseName m isStatic →
      c.setOf isStatic base (c.groupOf isStatic ms base) = c.setOf isStatic base (c.groupOf isStatic (ms ++ [m]) base) := by
    intro base hbase
    rw [groupOf_concat, if_neg hbase]
  have hgroup : c.groupOf isStatic (ms ++ [m]) (c.baseName m isStatic) =
      c.groupOf isStatic ms (c.baseName m isStatic) ++ [m] := by
    rw [groupOf_concat, if_pos rfl]
  simp only [accept, OrderedMap.getD, setsOf, OrderedMap.get?_tabulate, basesOf_concat]
  by_cases hmem : c.baseName m isStatic ∈ c.basesOf isStatic ms
  · rw [if_pos hmem, if_pos hmem, Option.getD_some, ← setOf_concat (mem_basesOf.1 hmem), ← hgroup,
      OrderedMap.insert_tabulate_of_mem (nodup_basesOf ms) _ hmem]
    refine OrderedMap.tabulate_congr fun base _ => ?_
    split
    · next hbase => rw [hbase]
    · next hbase => exact hother base hbase
  · -- the first of its group makes up a set of its own
    have hfirst : c.groupOf isStatic ms (c.baseName m isStatic) = [] := by
      simpa [mem_basesOf] using hmem
    rw [if_neg hmem, if_neg hmem, Option.getD_none, OrderedMap.insert_tabulate_of_not_mem _ hmem]
    refine OrderedMap.tabulate_congr fun base _ => ?_
    split
    · next hbase =>
      rw [hbase, hgroup, hfirst]
      rfl
    · next hbase => exact hother base hbase

/-- The sets that come of accepting members one after the other. -/
theorem foldl_accept (ms : List Symbol) : ms.foldl (c.accept isStatic) ∅ = c.setsOf isStatic ms := by
  induction ms using List.reverseRecOn with
  | nil => rfl
  | append_singleton ms m ih => rw [List.foldl_append, ih, List.foldl_cons, List.foldl_nil, accept_setsOf]

/-! ### Candidates -/

/-- The functions that may be bound, in order. -/
def candidates (c : Compound) : List Symbol := (c.members.map (·.toSymbol)).filter (·.isCandidateFunction)

/-- The candidates that a resolution considers: those that are called with or without an object. -/
def considered (c : Compound) (isStatic : Bool) : List Symbol := c.candidates.filter fun m => c.bindsStatic m == isStatic

/-- The two resolutions of a class share its candidates out. -/
theorem considered_perm (c : Compound) : (c.considered false ++ c.considered true).Perm c.candidates := by
  have hstatic : c.considered true = c.candidates.filter c.bindsStatic := by simp [considered]
  have hinstance : c.considered false = c.candidates.filter fun m => !c.bindsStatic m := by simp [considered]
  rw [hstatic, hinstance]
  exact List.perm_append_comm.trans (List.filter_append_perm c.bindsStatic c.candidates)

end Compound

/-! ### What is said of a bound function -/

/-- The function is named after its base and its parameters, and those of its parameters are significant that
stand before the first that can be left out. -/
structure Overload.IsBoundAs (o : Overload) (base : String) : Prop where
  functionName_eq : o.functionName = mangle base o.parameters
  significant_eq : ∃ required optional, o.parameters = required ++ optional ∧ o.significant = (required.length : Int) ∧
    (∀ p ∈ required, p.hasDefault = false) ∧ (∀ p ∈ optional.head?, p.hasDefault = true) ∧
    (o.hasDefaults = true ↔ optional ≠ [])

theorem isBoundAs_overloadOf (c : Compound) (m : Symbol) (isStatic : Bool) :
    (c.overloadOf m isStatic).IsBoundAs (c.baseName m isStatic) where
  functionName_eq := rfl
  significant_eq := by
    refine ⟨m.parameters.takeWhile (!·.hasDefault), m.parameters.dropWhile (!·.hasDefault),
      List.takeWhile_append_dropWhile.symm, ?_, ?_, ?_, ?_⟩
    · have hlength : (m.parameters.takeWhile (!·.hasDefault)).length = m.parameters.findIdx (·.hasDefault) := by
        rw [List.takeWhile_eq_take_findIdx_not, List.length_take]
        simpa only [Bool.not_not] using Nat.min_eq_left List.findIdx_le_length
      exact congrArg Nat.cast hlength.symm
    · intro p hp
      simpa using List.mem_takeWhile_imp hp
    · intro p hp
      have hhead := List.head?_dropWhile_not (fun p : Parameter => !p.hasDefault) m.parameters
      rw [Option.mem_def.1 hp] at hhead
      simpa using hhead
    · change m.parameters.any (·.hasDefault) = true ↔ _
      rw [ne_eq, List.dropWhile_eq_nil_iff, List.any_eq_true]
      simp

namespace Registry

variable (r : Registry)

/-- The candidates that are accepted, in order. -/
def accepted (c : Compound) (isStatic : Bool) : List Symbol :=
  (c.considered isStatic).filter fun m => (r.functionRejection? c m).isNone

/-- The message about a candidate that is not bound. -/
def rejectionMessage? (c : Compound) (m : Symbol) : Option Message :=
  (r.functionRejection? c m).map fun reason => ⟨.info, m.name ++ " in class " ++ c.name ++ " " ++ reason.message⟩

variable {r}

/-- The sets of a class are those of its accepted members. -/
theorem sets_eq_setsOf (c : Compound) (isStatic : Bool) : r.sets c isStatic = c.setsOf isStatic (r.accepted c isStatic) := by
  have haccepted : r.accepted c isStatic = (c.members.map (·.toSymbol)).filter (r.binds c isStatic) := by
    rw [accepted, Compound.considered, Compound.candidates, List.filter_filter, List.filter_filter]
    refine List.filter_congr fun m _ => ?_
    rw [binds, Bool.and_comm (r.functionRejection? c m).isNone, Bool.and_comm, Bool.and_assoc]
  rw [sets_eq, ← Compound.foldl_accept, haccepted, List.foldl_filter]
  rfl

theorem toList_sets (c : Compound) (isStatic : Bool) :
    (r.sets c isStatic).toList = (c.basesOf isStatic (r.accepted c isStatic)).map fun base =>
      (base, c.setOf isStatic base (c.groupOf isStatic (r.accepted c isStatic) base)) := by
  rw [sets_eq_setsOf]
  rfl

/-- The functions of one overload set have different names. -/
theorem nodup_functionNames {c : Compound} {isStatic : Bool} {s : OverloadSet} (hs : s ∈ (r.sets c isStatic).values) :
    (s.overloads.map (·.functionName)).Nodup := by
  rw [OrderedMap.values, toList_sets, List.map_map] at hs
  obtain ⟨base, -, rfl⟩ := List.mem_map.1 hs
  exact nodup_firstNamed _

/-- A resolution reports the candidates that it rejects, in order. -/
theorem log_resolve (c : Compound) (isStatic : Bool) :
    (r.resolve c isStatic).log = (c.considered isStatic).filterMap (r.rejectionMessage? c) := by
  have hfrom : ∀ sets ms, (r.resolveFrom c isStatic sets ms).log =
      ((ms.filter (·.isCandidateFunction)).filter fun m => c.bindsStatic m == isStatic).filterMap
        (r.rejectionMessage? c) := by
    intro sets ms
    induction ms generalizing sets with
    | nil => rfl
    | cons m ms ih =>
      rw [resolveFrom]
      cases hcandidate : m.isCandidateFunction with
      | false =>
        simpa [hcandidate] using ih sets
      | true =>
        cases hstatic : c.bindsStatic m == isStatic with
        | false => simpa [hcandidate, hstatic, bne] using ih sets
        | true =>
          cases hrejection : r.functionRejection? c m with
          | none => simpa [hcandidate, hstatic, bne, rejectionMessage?, hrejection] using ih (c.accept isStatic sets m)
          | some reason => simpa [hcandidate, hstatic, bne, rejectionMessage?, hrejection, Logged.say] using ih sets
  exact hfrom ∅ _

/-- The set of a group that has members has a function. -/
theorem overloads_setOf_ne_nil {c : Compound} {isStatic : Bool} {base : String} {group : List Symbol} (h : group ≠ []) :
    (c.setOf isStatic base group).overloads ≠ [] := by
  obtain ⟨first, rest, rfl⟩ := List.exists_cons_of_ne_nil h
  exact List.cons_ne_nil _ _

theorem isBoundAs_of_mem_setOf {c : Compound} {isStatic : Bool} {base : String} {ms : List Symbol} {o : Overload}
    (ho : o ∈ (c.setOf isStatic base (c.groupOf isStatic ms base)).overloads) : o.IsBoundAs base := by
  obtain ⟨m, hm, rfl⟩ := List.mem_map.1 ((firstNamed_sublist _).subset ho)
  have hbase : c.baseName m isStatic = base := by simpa using (List.mem_filter.1 hm).2
  rw [← hbase]
  exact isBoundAs_overloadOf c m isStatic

/-- Of the functions that bind the members of a group, no name is lost. -/
theorem mem_functionNames_setOf {c : Compound} {isStatic : Bool} {base name : String} {group : List Symbol} :
    name ∈ (c.setOf isStatic base group).overloads.map (·.functionName) ↔
      ∃ m ∈ group, (c.overloadOf m isStatic).functionName = name := by
  rw [List.mem_map]
  constructor
  · rintro ⟨o, ho, rfl⟩
    obtain ⟨m, hm, rfl⟩ := List.mem_map.1 ((firstNamed_sublist _).subset ho)
    exact ⟨m, hm, rfl⟩
  · rintro ⟨m, hm, rfl⟩
    exact exists_mem_firstNamed (List.mem_map_of_mem hm)

/-- A bound function is named after its base and its parameters. -/
theorem isBoundAs_of_mem {c : Compound} {isStatic : Bool} {s : OverloadSet} (hs : s ∈ (r.sets c isStatic).values)
    {o : Overload} (ho : o ∈ s.overloads) : ∃ base, o.IsBoundAs base := by
  rw [OrderedMap.values, toList_sets, List.map_map] at hs
  obtain ⟨base, -, rfl⟩ := List.mem_map.1 hs
  exact ⟨base, isBoundAs_of_mem_setOf ho⟩

/-- **Resolution loses nothing and duplicates nothing.** There is one set for every base name of an accepted member,
in the order of the first members, and it holds the functions of just the members of that name in order, but for
those whose name an earlier one has. The two resolutions of a class share its candidates out, and every candidate
that is rejected is reported once. -/
theorem resolve_loses_nothing (r : Registry) (c : Compound) :
    (∀ isStatic, (r.sets c isStatic).keys = c.basesOf isStatic (r.accepted c isStatic) ∧ (r.sets c isStatic).keys.Nodup ∧
      ∀ base s, (base, s) ∈ (r.sets c isStatic).toList →
        s.baseName = base ∧ s.overloads ≠ [] ∧
        s.overloads = firstNamed ((c.groupOf isStatic (r.accepted c isStatic) base).map (c.overloadOf · isStatic)) ∧
        ∀ o ∈ s.overloads, o.IsBoundAs base) ∧
    (c.considered false ++ c.considered true).Perm c.candidates ∧
    (∀ isStatic, (r.resolve c isStatic).log = (c.considered isStatic).filterMap (r.rejectionMessage? c)) ∧
    ((r.resolve c false).log ++ (r.resolve c true).log).Perm (c.candidates.filterMap (r.rejectionMessage? c)) := by
  refine ⟨fun isStatic => ?_, c.considered_perm, log_resolve c, ?_⟩
  · have hkeys : (r.sets c isStatic).keys = c.basesOf isStatic (r.accepted c isStatic) := by
      rw [sets_eq_setsOf, Compound.setsOf, OrderedMap.keys_tabulate]
    refine ⟨hkeys, ?_, ?_⟩
    · rw [hkeys]
      exact Compound.nodup_basesOf _
    · intro base s hs
      rw [toList_sets] at hs
      obtain ⟨key, hkey, heq⟩ := List.mem_map.1 hs
      obtain ⟨rfl, rfl⟩ := Prod.mk.inj heq
      exact ⟨rfl, overloads_setOf_ne_nil (Compound.mem_basesOf.1 hkey), rfl, fun o ho => isBoundAs_of_mem_setOf ho⟩
  · rw [log_resolve, log_resolve, ← List.filterMap_append]
    exact c.considered_perm.filterMap _

end Registry

end ScriptGlue
