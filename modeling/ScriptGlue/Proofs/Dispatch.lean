import Mathlib.Data.List.Nodup
import ScriptGlue.Proofs.Completion
import ScriptGlue.Proofs.OverloadSets
import ScriptGlue.Proofs.References

/-!
# What a selector does

A selector is a row of tests, each followed by a call. A call from a script is read as the number of its arguments
and a truth value for every other condition; with these the lines of a selector can be run (`Call.run`).
**`selector_dispatches`** says what comes of it: of the functions whose guards hold the one with the most significant
parameters is called, the first declared among equals, and the error is reached if no guard holds.
-/

namespace ScriptGlue

open ScriptGlue.Text ScriptGlue.Cpp

/-! ### Joined conditions -/

/-- What stands between joined conditions. -/
def conjunction : List Char := [' ', '&', '&', ' ']

/-- The conditions that a condition joins. -/
def conjuncts : List Char → List (List Char)
  | ' ' :: '&' :: '&' :: ' ' :: s => [] :: conjuncts s
  | c :: s => (conjuncts s).modifyHead (c :: ·)
  | [] => [[]]

theorem conjuncts_ne_nil (s : List Char) : conjuncts s ≠ [] := by
  fun_induction conjuncts s <;> simp_all [List.modifyHead_eq_nil_iff]

/-- What is joined can be told apart, unless the first ends like a join. -/
theorem conjuncts_append {s : List Char} (hs : s.getLast? ≠ some '&') (t : List Char) :
    conjuncts (s ++ conjunction ++ t) = conjuncts s ++ conjuncts t := by
  fun_induction conjuncts s with
  | case1 s ih =>
    have hlast : s.getLast? ≠ some '&' := by
      cases s with
      | nil => simp
      | cons c s => simpa using hs
    simp only [List.cons_append, conjuncts, ih hlast]
  | case2 c s hjoin ih =>
    have hlast : s.getLast? ≠ some '&' := by
      cases s with
      | nil => simp
      | cons d s => simpa using hs
    -- a join that began in the first part and ended behind it would have this part end in a mark of the join
    have hnext : ∀ s', c = ' ' → s ++ conjunction ++ t = '&' :: '&' :: ' ' :: s' → False := by
      intro s' hc hs'
      rcases s with _ | ⟨d, _ | ⟨e, _ | ⟨f, s⟩⟩⟩ <;> simp [conjunction] at hs'
      · exact hlast (by simp [hs'.2.1])
      · exact hjoin s hc (by rw [hs'.1, hs'.2.1, hs'.2.2.1])
    obtain ⟨first, rest, hrest⟩ := List.exists_cons_of_ne_nil (conjuncts_ne_nil s)
    rw [List.cons_append, List.cons_append, conjuncts.eq_2 c _ hnext, ih hlast, hrest]
    rfl
  | case3 => rfl

/-- A condition without a mark of a join is one condition. -/
theorem conjuncts_eq_singleton {s : List Char} (hs : '&' ∉ s) : conjuncts s = [s] := by
  fun_induction conjuncts s with
  | case1 s ih => simp at hs
  | case2 c s hjoin ih => simp [ih (mt (List.mem_cons_of_mem c) hs)]
  | case3 => rfl

/-! ### Calls -/

/-- A call from a script: the number of its arguments, and what else is true of it. -/
structure Call where
  /-- The number of arguments. -/
  numArgs : Nat
  /-- The conditions on its arguments that are true. -/
  passes : String → Bool

/-- What running a selector comes to. -/
inductive Dispatch where
  /-- A function is called. -/
  | calls (name : String)
  /-- The error is reached. -/
  | fails
  /-- The lines are not those of a selector. -/
  | malformed
  deriving DecidableEq, Repr

/-- The number that digits stand for. -/
def count? (digits : List Char) : Option Nat :=
  if digits ≠ [] ∧ digits.all Char.isDigit then some (Nat.ofDigitChars 10 digits 0) else none

/-- What stands in a line between the given beginning and end. -/
def between? (start stop line : String) : Option String :=
  if startsWith line start && endsWith line stop then some (dropEnd (dropStart line start.length) stop.length) else none

namespace Call

variable (call : Call)

/-- A condition that joins no others is true of the call. -/
def satisfies (condition : String) : Bool :=
  match between? "numArgs == " "" condition, between? "numArgs >= " "" condition with
  | some digits, _ => (count? digits.toList).any (call.numArgs = ·)
  | _, some digits => (count? digits.toList).any (· ≤ call.numArgs)
  | none, none => call.passes condition

/-- A condition is true of the call. -/
def holds (condition : String) : Bool := (conjuncts condition.toList).all fun c => call.satisfies (String.ofList c)

/-- What the tests of a selector come to. -/
def tries : List String → Dispatch
  | test :: jump :: rest =>
    match between? "    if (" ")" test, between? "        return " "(ctx);" jump with
    | some condition, some target => if call.holds condition then .calls target else tries rest
    | _, _ => if startsWith test "    duk_error(ctx, " then .fails else .malformed
  | _ => .malformed

/-- What the lines of a selector come to. -/
def run : List String → Dispatch
  | _ :: "\x7b" :: "    int numArgs = duk_get_top(ctx);" :: body => call.tries body
  | _ => .malformed

end Call

/-! ### Reading what was written -/

theorem between?_append (start inner stop : String) : between? start stop (start ++ inner ++ stop) = some inner := by
  have hstart : startsWith (start ++ inner ++ stop) start = true := by
    simp [startsWith]
  have hstop : endsWith (start ++ inner ++ stop) stop = true := by
    rw [endsWith, List.isSuffixOf_iff_suffix, String.toList_append]
    exact List.suffix_append _ _
  rw [between?, hstart, hstop]
  simp [dropStart, dropEnd, String.length]

theorem count?_toDigits (n : Nat) : count? (Nat.toDigits 10 n) = some n := by
  have hdigits : (Nat.toDigits 10 n).all Char.isDigit = true :=
    List.all_eq_true.2 fun _ hc => Nat.isDigit_of_mem_toDigits (by decide) (by decide) hc
  rw [count?, if_pos ⟨Nat.toDigits_ne_nil, hdigits⟩, Nat.ofDigitChars_ten_toDigits]

/-- The test of the number of arguments. -/
def countTest (orMore : Bool) (n : Nat) : String := (if orMore then "numArgs >= " else "numArgs == ") ++ n.repr

/-- The test of the number of arguments joins no others and is read as it is meant. -/
theorem holds_countTest (call : Call) (orMore : Bool) (n : Nat) :
    call.holds (countTest orMore n) = if orMore then decide (n ≤ call.numArgs) else decide (call.numArgs = n) := by
  have hdigits : '&' ∉ Nat.toDigits 10 n := fun h => absurd (Nat.isDigit_of_mem_toDigits (by decide) (by decide) h) (by decide)
  have hread : ∀ start, between? start "" (start ++ n.repr) = some n.repr := fun start => by
    simpa only [String.append_empty] using between?_append start n.repr ""
  cases orMore with
  | false =>
    have hsingle : '&' ∉ (countTest false n).toList := by simp [countTest, hdigits]
    have hcount : between? "numArgs == " "" (countTest false n) = some n.repr := hread _
    rw [Call.holds, conjuncts_eq_singleton hsingle]
    simp [Call.satisfies, hcount, count?_toDigits]
  | true =>
    have hsingle : '&' ∉ (countTest true n).toList := by simp [countTest, hdigits]
    have hcount : between? "numArgs >= " "" (countTest true n) = some n.repr := hread _
    have hother : between? "numArgs == " "" (countTest true n) = none := by
      have hstart : startsWith (countTest true n) "numArgs == " = false := by
        rw [startsWith, countTest, String.toList_append]
        rfl
      rw [between?, hstart]
      rfl
    rw [Call.holds, conjuncts_eq_singleton hsingle]
    simp [Call.satisfies, hcount, hother, count?_toDigits]

/-- A joined condition is true when its parts are, none but the last of which may end like a join. -/
theorem holds_intercalate (call : Call) (first : String) {rest : List String}
    (h : ∀ part ∈ first :: rest, part.toList.getLast? ≠ some '&') :
    call.holds (" && ".intercalate (first :: rest)) = (first :: rest).all call.holds := by
  induction rest generalizing first with
  | nil => simp
  | cons second rest ih =>
    have hjoin : (" && ".intercalate (first :: second :: rest)).toList =
        first.toList ++ conjunction ++ (" && ".intercalate (second :: rest)).toList := by
      rw [String.intercalate_cons_cons, String.toList_append, String.toList_append]
      rfl
    rw [List.all_cons, ← ih second fun part hpart => h part (List.mem_cons_of_mem first hpart), Call.holds, hjoin,
      conjuncts_append (h first List.mem_cons_self), List.all_append]
    rfl

/-! ### Guards -/

theorem getLast?_countTest (orMore : Bool) (n : Nat) : (countTest orMore n).toList.getLast? ≠ some '&' := by
  intro hlast
  rw [countTest, String.toList_append, Nat.toList_repr, List.getLast?_append_of_ne_nil _ Nat.toDigits_ne_nil] at hlast
  exact absurd (Nat.isDigit_of_mem_toDigits (by decide) (by decide) (List.mem_of_getLast? hlast)) (by decide)

theorem getLast?_condition (check : ArgCheck) (index : Int) : (check.condition index).toList.getLast? ≠ some '&' := by
  have hclose : ∃ body, check.condition index = body ++ ")" := by
    cases check <;> exact ⟨_, rfl⟩
  obtain ⟨body, hbody⟩ := hclose
  simp [hbody]

/-- The condition of a guard is true when its parts are. -/
theorem holds_guard (call : Call) {g : Guard} {n : Nat} (hn : g.count = n) :
    call.holds g.condition = ((if g.orMore then decide (n ≤ call.numArgs) else decide (call.numArgs = n)) &&
      g.checks.all fun entry => call.holds (entry.2.condition entry.1)) := by
  have hcondition : g.condition =
      " && ".intercalate (countTest g.orMore n :: g.checks.map fun entry => entry.2.condition entry.1) := by
    rw [Guard.condition, hn, countTest]
    cases g.orMore <;> rfl
  have hparts : ∀ part ∈ countTest g.orMore n :: g.checks.map fun entry => entry.2.condition entry.1,
      part.toList.getLast? ≠ some '&' := by
    intro part hpart
    rcases List.mem_cons.1 hpart with rfl | hpart
    · exact getLast?_countTest _ _
    · obtain ⟨entry, -, rfl⟩ := List.mem_map.1 hpart
      exact getLast?_condition entry.2 entry.1
  rw [hcondition, holds_intercalate call _ hparts, List.all_cons, holds_countTest, List.all_map]
  rfl

namespace Cpp.Vocabulary

variable (v : Vocabulary) (call : Call)

/-- The argument at a position passes the test for a parameter, if there is one. -/
def passesCheck (p : Parameter) (position : Nat) : Bool :=
  match v.argCheck p.basicType with
  | .ok (some check) => call.holds (check.condition position)
  | _ => true

/-- The arguments before the first that can be left out pass their tests. -/
def passesChecks (o : Overload) : Bool :=
  (o.parameters.take o.significant.toNat).zipIdx.all fun entry => v.passesCheck call entry.1 entry.2

/-- The guard of a function holds: the number of arguments is the one it needs, or no less if some can be left out,
and the arguments pass their tests. -/
def admits (o : Overload) : Bool :=
  (if o.hasDefaults then decide (o.significant ≤ call.numArgs) else decide (call.numArgs = o.significant)) &&
    v.passesChecks call o

variable {v} {call}

theorem all_checks {position : Nat} {ps : List Parameter} {checks : List (Nat × ArgCheck)}
    (h : v.checks position ps = .ok checks) :
    (checks.all fun entry => call.holds (entry.2.condition entry.1)) =
      (ps.zipIdx position).all fun entry => v.passesCheck call entry.1 entry.2 := by
  rw [checks_eq] at h
  obtain ⟨found, hfound, rfl⟩ := map_eq_ok.1 h
  have hpassed : found.map (fun made? => made?.all fun entry => call.holds (entry.2.condition entry.1)) =
      (ps.zipIdx position).map fun entry => v.passesCheck call entry.1 entry.2 := by
    refine map_of_mapM_ok hfound fun entry _ made? hentry => ?_
    obtain ⟨check?, hcheck, rfl⟩ := map_eq_ok.1 hentry
    rw [passesCheck, hcheck]
    cases check? <;> rfl
  have hkept : (found.reduceOption.all fun entry => call.holds (entry.2.condition entry.1)) =
      found.all fun made? => made?.all fun entry => call.holds (entry.2.condition entry.1) := by
    rw [List.reduceOption, List.all_filterMap]
    refine List.all_congr rfl fun made? => ?_
    cases made? <;> rfl
  rw [hkept]
  simpa [List.all_map] using congrArg (List.all · id) hpassed

/-- **The text of a guard says what the guard means.** -/
theorem holds_guard_iff {o : Overload} {guard : Guard} (h : v.guard o = .ok guard) {n : Nat} (hn : o.significant = n) :
    call.holds guard.condition = v.admits call o := by
  obtain ⟨checks, hchecks, h⟩ := bind_eq_ok.1 h
  cases h
  rw [holds_guard call hn, all_checks hchecks, admits, passesChecks, hn]
  simp only [Int.ofNat_le, Int.ofNat_inj, Int.toNat_natCast]

end Cpp.Vocabulary

/-! ### Running a selector -/

/-- The lines of a case. -/
def caseLines (guarded : Guard × String) : List String :=
  [indented 1 s!"if ({guarded.1.condition})", indented 2 s!"return {guarded.2}(ctx);"]

theorem tries_caseLines (call : Call) (guarded : Guard × String) (rest : List String) :
    call.tries (caseLines guarded ++ rest) =
      if call.holds guarded.1.condition then .calls guarded.2 else call.tries rest := by
  have htest : indented 1 s!"if ({guarded.1.condition})" = "    if (" ++ guarded.1.condition ++ ")" := by
    have hindent : String.join (List.replicate 1 "    ") ++ "if (" = "    if (" := rfl
    have hline : indented 1 s!"if ({guarded.1.condition})" =
      String.join (List.replicate 1 "    ") ++ ("if (" ++ guarded.1.condition ++ ")") := rfl
    rw [hline, ← String.append_assoc, ← String.append_assoc, hindent]
  have hjump : indented 2 s!"return {guarded.2}(ctx);" = "        return " ++ guarded.2 ++ "(ctx);" := by
    have hindent : String.join (List.replicate 2 "    ") ++ "return " = "        return " := rfl
    have hline : indented 2 s!"return {guarded.2}(ctx);" =
      String.join (List.replicate 2 "    ") ++ ("return " ++ guarded.2 ++ "(ctx);") := rfl
    rw [hline, ← String.append_assoc, ← String.append_assoc, hindent]
  rw [caseLines, htest, hjump, List.cons_append, List.cons_append, List.nil_append, Call.tries, between?_append,
    between?_append]

/-- The line that raises the error. -/
def errorLine : String := indented 1 "duk_error(ctx, DUK_ERR_ERROR, \"Could not select function overload\");"

/-- The lines after the cases. -/
def errorLines : List String := [errorLine, "\x7d", ""]

theorem tries_errorLines (call : Call) : call.tries errorLines = .fails := by
  have htest : between? "    if (" ")" errorLine = none := by decide +kernel
  have herror : startsWith errorLine "    duk_error(ctx, " = true := by decide +kernel
  rw [errorLines, Call.tries, htest]
  exact if_pos herror

/-- Running a selector finds the first case whose condition is true. -/
theorem run_lines (call : Call) (s : Selector) :
    call.run s.lines =
      ((s.cases.find? fun guarded => call.holds guarded.1.condition).map (·.2)).elim .fails Dispatch.calls := by
  have hlines : s.lines = functionHeader s.name :: "\x7b" :: "    int numArgs = duk_get_top(ctx);" ::
      (s.cases.flatMap caseLines ++ errorLines) := rfl
  have htries : ∀ cases : List (Guard × String), call.tries (cases.flatMap caseLines ++ errorLines) =
      ((cases.find? fun guarded => call.holds guarded.1.condition).map (·.2)).elim .fails Dispatch.calls := by
    intro cases
    induction cases with
    | nil => exact tries_errorLines call
    | cons guarded cases ih =>
      rw [List.flatMap_cons, List.append_assoc, tries_caseLines, ih, List.find?_cons]
      cases call.holds guarded.1.condition <;> rfl
  rw [hlines]
  exact htries s.cases

/-- A number is passed over where a truth value is asked for. -/
example : ({ numArgs := 1, passes := (· == "duk_is_number(ctx, 0)") } : Call).run
    [functionHeader "Dial_Turn_Selector", "\x7b", "    int numArgs = duk_get_top(ctx);",
      "    if (numArgs == 1 && duk_is_boolean(ctx, 0))", "        return Dial_Turn_bool(ctx);",
      "    if (numArgs >= 1 && duk_is_number(ctx, 0))", "        return Dial_Turn_int(ctx);", errorLine, "\x7d", ""] =
    .calls "Dial_Turn_int" := by
  decide +kernel

/-! ### Choosing an overload -/

/-- Of the functions that are accepted the function has the most significant parameters, and it is the first of
those. -/
structure IsChosen (os : List Overload) (accepts : Overload → Bool) (o : Overload) : Prop where
  accepted : accepts o = true
  foremost : ∃ before after, os = before ++ o :: after ∧
    (∀ x ∈ before, accepts x = true → x.significant < o.significant) ∧
    ∀ x ∈ after, accepts x = true → x.significant ≤ o.significant

theorem IsChosen.mem {os : List Overload} {accepts : Overload → Bool} {o : Overload} (h : IsChosen os accepts o) : o ∈ os := by
  obtain ⟨before, after, rfl, -⟩ := h.foremost
  exact List.mem_append_right _ List.mem_cons_self

/-- Nothing that is accepted has more significant parameters. -/
theorem IsChosen.le {os : List Overload} {accepts : Overload → Bool} {o x : Overload} (h : IsChosen os accepts o) (hx : x ∈ os)
    (haccepts : accepts x = true) : x.significant ≤ o.significant := by
  obtain ⟨before, after, rfl, hbefore, hafter⟩ := h.foremost
  rcases List.mem_append.1 hx with hx | hx
  · exact Int.le_of_lt (hbefore x hx haccepts)
  · rcases List.mem_cons.1 hx with rfl | hx
    · exact Int.le_refl _
    · exact hafter x hx haccepts

/-- One function at most is chosen. -/
theorem IsChosen.unique {os : List Overload} {accepts : Overload → Bool} {o o' : Overload} (h : IsChosen os accepts o)
    (h' : IsChosen os accepts o') : o = o' := by
  have hle : o'.significant ≤ o.significant := h.le h'.mem h'.accepted
  have hle' : o.significant ≤ o'.significant := h'.le h.mem h.accepted
  obtain ⟨before, after, hos, hbefore, -⟩ := h.foremost
  obtain ⟨before', after', hos', hbefore', -⟩ := h'.foremost
  rw [hos] at hos'
  rcases List.append_eq_append_iff.1 hos' with ⟨between, rfl, hafter⟩ | ⟨between, rfl, hafter⟩
  · cases between with
    | nil => exact (List.cons.inj hafter).1
    | cons x between =>
      obtain ⟨rfl, -⟩ := List.cons.inj hafter
      have hlt := hbefore' o (by simp) h.accepted
      omega
  · cases between with
    | nil => exact (List.cons.inj hafter).1.symm
    | cons x between =>
      obtain ⟨rfl, -⟩ := List.cons.inj hafter
      have hlt := hbefore o' (by simp) h'.accepted
      omega

section

variable {s : OverloadSet}

/-- The order of dispatch is an order by the number of significant parameters, the largest first. -/
theorem fewer_trans (a b c : Overload) (hab : decide (b.significant ≤ a.significant) = true)
    (hbc : decide (c.significant ≤ b.significant) = true) : decide (c.significant ≤ a.significant) = true := by
  simp only [decide_eq_true_eq] at *
  omega

theorem fewer_total (a b : Overload) :
    (decide (b.significant ≤ a.significant) || decide (a.significant ≤ b.significant)) = true := by
  simp only [Bool.or_eq_true, decide_eq_true_eq]
  omega

theorem nodup_dispatchOrder (h : s.overloads.Nodup) : s.dispatchOrder.Nodup := List.nodup_mergeSort.2 h

/-- No function has fewer significant parameters than one behind it. -/
theorem pairwise_dispatchOrder (s : OverloadSet) : s.dispatchOrder.Pairwise fun a b => b.significant ≤ a.significant :=
  (List.pairwise_mergeSort fewer_trans fewer_total s.overloads).imp of_decide_eq_true

/-- What is declared before a function with no more significant parameters stays before it. -/
theorem pair_sublist_dispatchOrder {a b : Overload} (h : [a, b].Sublist s.overloads) (hle : b.significant ≤ a.significant) :
    [a, b].Sublist s.dispatchOrder :=
  List.pair_sublist_mergeSort fewer_trans fewer_total (decide_eq_true hle) h

/-- **The first that is accepted in the order of dispatch is chosen.** -/
theorem isChosen_of_find? (hnodup : s.overloads.Nodup) {accepts : Overload → Bool} {o : Overload}
    (h : s.dispatchOrder.find? accepts = some o) : IsChosen s.overloads accepts o := by
  obtain ⟨later, hkept⟩ : ∃ later, s.dispatchOrder.filter accepts = o :: later := by
    rw [← List.head?_eq_some_iff, List.head?_filter, h]
  have hsorted := (pairwise_dispatchOrder s).filter accepts
  have honce := (nodup_dispatchOrder hnodup).filter accepts
  rw [hkept, List.pairwise_cons] at hsorted
  rw [hkept, List.nodup_cons] at honce
  have hle : ∀ x ∈ s.overloads, accepts x = true → x.significant ≤ o.significant := by
    intro x hx hacceptsx
    have hmem : x ∈ o :: later := hkept ▸ List.mem_filter.2 ⟨OverloadSet.mem_dispatchOrder.2 hx, hacceptsx⟩
    rcases List.mem_cons.1 hmem with rfl | hmem
    · exact Int.le_refl _
    · exact hsorted.1 x hmem
  have haccepts : accepts o = true := List.find?_some h
  obtain ⟨before, after, hsplit⟩ := List.append_of_mem (OverloadSet.mem_dispatchOrder.1 (List.mem_of_find?_eq_some h))
  refine ⟨haccepts, before, after, hsplit, fun x hx hacceptsx => ?_, fun x hx hacceptsx => hle x (by simp [hsplit, hx]) hacceptsx⟩
  refine Int.lt_iff_le_and_ne.2 ⟨hle x (by simp [hsplit, hx]) hacceptsx, fun hequal => ?_⟩
  -- among equals the order of declaration is kept, so the function would come twice
  have hdeclared : [x, o].Sublist s.overloads := by
    rw [hsplit]
    exact (List.singleton_sublist.2 hx).append (List.singleton_sublist.2 List.mem_cons_self)
  have hpair := (pair_sublist_dispatchOrder hdeclared (Int.le_of_eq hequal.symm)).filter accepts
  rw [hkept, List.filter_cons_of_pos hacceptsx, List.filter_cons_of_pos haccepts, List.filter_nil,
    List.cons_sublist_cons'] at hpair
  rcases hpair with hpair | ⟨-, hpair⟩
  · exact honce.1 (hpair.subset (by simp))
  · exact honce.1 (hpair.subset (by simp))

/-- A function is chosen just when it is the first that is accepted in the order of dispatch. -/
theorem find?_dispatchOrder_eq_some_iff (hnodup : s.overloads.Nodup) {accepts : Overload → Bool} {o : Overload} :
    s.dispatchOrder.find? accepts = some o ↔ IsChosen s.overloads accepts o := by
  refine ⟨isChosen_of_find? hnodup, fun h => ?_⟩
  have hsome : (s.dispatchOrder.find? accepts).isSome = true := by
    rw [List.find?_isSome]
    exact ⟨o, OverloadSet.mem_dispatchOrder.2 h.mem, h.accepted⟩
  obtain ⟨o', hfound⟩ := Option.isSome_iff_exists.1 hsome
  rw [hfound, (isChosen_of_find? hnodup hfound).unique h]

end

/-- Of a function of which nothing can be left out all parameters are significant. -/
theorem Overload.IsBoundAs.significant_of_required {o : Overload} {base : String} (h : o.IsBoundAs base)
    (hrequired : ∀ p ∈ o.parameters, p.hasDefault = false) :
    o.hasDefaults = false ∧ o.significant = (o.parameters.length : Int) := by
  obtain ⟨required, optional, hparameters, hsignificant, -, hhead, hdefaults⟩ := h.significant_eq
  have hnone : optional = [] := by
    cases optional with
    | nil => rfl
    | cons p optional =>
      have hlater := hrequired p (by simp [hparameters])
      rw [hhead p rfl] at hlater
      cases hlater
  subst hnone
  refine ⟨by simpa using hdefaults, ?_⟩
  rw [hsignificant, hparameters, List.append_nil]

/-! ### Dispatch -/

/-- Running a selector finds the first function in the order of dispatch whose guard holds. -/
theorem run_selector {v : Vocabulary} (call : Call) {s : OverloadSet} {selector : Selector} (h : v.selector s = .ok selector)
    (hn : ∀ o ∈ s.overloads, ∃ n : Nat, o.significant = n) :
    call.run selector.lines = ((s.dispatchOrder.find? (v.admits call)).map (·.functionName)).elim .fails Dispatch.calls := by
  obtain ⟨cases, hcases, h⟩ := bind_eq_ok.1 h
  cases h
  have hguards : cases.map (fun guarded => (call.holds guarded.1.condition, guarded.2)) =
      s.dispatchOrder.map fun o => (v.admits call o, o.functionName) := by
    refine map_of_mapM_ok hcases ?_
    intro o ho guarded hguarded
    obtain ⟨guard, hguard, hguarded⟩ := bind_eq_ok.1 hguarded
    cases hguarded
    obtain ⟨n, hn⟩ := hn o (List.mem_mergeSort.1 ho)
    rw [Vocabulary.holds_guard_iff hguard hn]
  have hfound := congrArg (fun l : List (Bool × String) => (l.find? (·.1)).map (·.2)) hguards
  simp only [List.find?_map, Option.map_map, Function.comp_def] at hfound
  rw [run_lines, hfound]

namespace Registry

variable {r : Registry} {c : Compound} {isStatic : Bool} {s : OverloadSet}

/-- **Dispatch picks the most specific match.** Every set has a selector. For whatever is called, it calls a function
just when that is chosen among those whose guards hold, the one with the most significant parameters and the first
declared of these; it reaches the error just when no guard holds. So a call that fits a function of which nothing can
be left out reaches none with fewer significant parameters. -/
theorem selector_dispatches (hs : s ∈ (r.sets c isStatic).values) :
    ∃ selector, r.vocabulary.selector s = .ok selector ∧ ∀ call : Call,
      (∀ name, call.run selector.lines = .calls name ↔
        ∃ o, IsChosen s.overloads (r.vocabulary.admits call) o ∧ o.functionName = name) ∧
      (call.run selector.lines = .fails ↔ ∀ o ∈ s.overloads, r.vocabulary.admits call o = false) ∧
      ∀ o ∈ s.overloads, (∀ p ∈ o.parameters, p.hasDefault = false) → call.numArgs = o.parameters.length →
        r.vocabulary.passesChecks call o = true → ∀ x ∈ s.overloads, call.run selector.lines = .calls x.functionName →
          (o.parameters.length : Int) ≤ x.significant := by
  obtain ⟨selector, hselector⟩ := exists_selector hs
  have hnames := nodup_functionNames hs
  have hcounts : ∀ o ∈ s.overloads, ∃ n : Nat, o.significant = n := by
    intro o ho
    obtain ⟨base, hbound⟩ := isBoundAs_of_mem hs ho
    obtain ⟨required, optional, -, hsignificant, -⟩ := hbound.significant_eq
    exact ⟨_, hsignificant⟩
  refine ⟨selector, hselector, fun call => ?_⟩
  have hrun := run_selector call hselector hcounts
  have hcalls : ∀ name, call.run selector.lines = .calls name ↔
      ∃ o, IsChosen s.overloads (r.vocabulary.admits call) o ∧ o.functionName = name := by
    intro name
    simp only [← find?_dispatchOrder_eq_some_iff hnames.of_map, hrun]
    cases s.dispatchOrder.find? (r.vocabulary.admits call) <;> simp
  refine ⟨hcalls, ?_, ?_⟩
  · have hnone : s.dispatchOrder.find? (r.vocabulary.admits call) = none ↔
        ∀ o ∈ s.overloads, r.vocabulary.admits call o = false := by
      simp [OverloadSet.dispatchOrder]
    rw [← hnone, hrun]
    cases s.dispatchOrder.find? (r.vocabulary.admits call) <;> simp
  · intro o ho hrequired hargs hchecks x hx hrunx
    obtain ⟨base, hbound⟩ := isBoundAs_of_mem hs ho
    obtain ⟨hdefaults, hsignificant⟩ := hbound.significant_of_required hrequired
    have hadmits : r.vocabulary.admits call o = true := by
      simp [Vocabulary.admits, hdefaults, hsignificant, hargs, hchecks]
    obtain ⟨o', hchosen, hname⟩ := (hcalls _).1 hrunx
    have hsame : o' = x := List.inj_on_of_nodup_map hnames hchosen.mem hx hname
    subst hsame
    rw [← hsignificant]
    exact hchosen.le ho hadmits

/-- A class with a function that can be told how far to go, and in which direction. -/
def dial : Compound where
  kind := "class"
  name := "Dial"
  members := [{ kind := "function", name := "Turn", type := "void", parameters := [{ type := "int", name := "steps" }] },
    { kind := "function", name := "Turn", type := "void",
      parameters := [{ type := "int", name := "steps" }, { type := "bool", name := "back" }] }]

/-- The registry of the class. -/
def dialRegistry : Registry := (build .default { preferred := [] } [dial] []).value

theorem selector_dispatches_dial : ∃ s ∈ (dialRegistry.sets dial false).values, s.needsSelector = true ∧
    ∃ selector, dialRegistry.vocabulary.selector s = .ok selector ∧ ∀ call : Call, ∀ name,
      call.run selector.lines = .calls name ↔
        ∃ o, IsChosen s.overloads (dialRegistry.vocabulary.admits call) o ∧ o.functionName = name := by
  have hsets : (dialRegistry.sets dial false).values.map (·.needsSelector) = [true] := by decide +kernel
  obtain ⟨s, hvalues, hneeds⟩ := List.map_eq_singleton_iff.1 hsets
  have hs : s ∈ (dialRegistry.sets dial false).values := by simp [hvalues]
  obtain ⟨selector, hselector, hcalls⟩ := selector_dispatches hs
  exact ⟨s, hs, hneeds, selector, hselector, fun call => (hcalls call).1⟩

end Registry

end ScriptGlue
