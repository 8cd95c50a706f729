import ScriptGlue.Proofs.Passages

/-!
# Snippets

The places of a unit where a value is carried to the script side or back, where the object of a call is reached,
and where an object is made or ended. Each is written as one expression or statement of its passage
(`Passage.exists_line_of_mem_snippets`) and applies helpers of the runtime to classes: a helper treats the objects of
a class as values or as counted references.
-/

namespace ScriptGlue

open ScriptGlue.Text ScriptGlue.Cpp

/-! ### Helpers -/

/-- A helper of the runtime that is applied to a class, or the type that holds its objects. -/
inductive Helper where
  | getValueObject
  | getCheckedValueObject
  | getThisValueObject
  | getValueObjectVector
  | pushValueObject
  | pushValueObjectCopy
  | pushValueObjectVector
  | pushConstructorResult
  | finalizeValueObject
  | getWeakObject
  | getCheckedWeakObject
  | getThisWeakObject
  | getWeakObjectVector
  /-- The type of shared pointers. -/
  | sharedPtr
  deriving DecidableEq, Repr

namespace Helper

/-- The name in generated code. -/
def spelling : Helper → String
  | getValueObject => "GetValueObject"
  | getCheckedValueObject => "GetCheckedValueObject"
  | getThisValueObject => "GetThisValueObject"
  | getValueObjectVector => "GetValueObjectVector"
  | pushValueObject => "PushValueObject"
  | pushValueObjectCopy => "PushValueObjectCopy"
  | pushValueObjectVector => "PushValueObjectVector"
  | pushConstructorResult => "PushConstructorResult"
  | finalizeValueObject => "FinalizeValueObject"
  | getWeakObject => "GetWeakObject"
  | getCheckedWeakObject => "GetCheckedWeakObject"
  | getThisWeakObject => "GetThisWeakObject"
  | getWeakObjectVector => "GetWeakObjectVector"
  | sharedPtr => "SharedPtr"

/-- How the objects are owned that the helper is for. -/
def ownership : Helper → Ownership
  | getValueObject | getCheckedValueObject | getThisValueObject | getValueObjectVector | pushValueObject
  | pushValueObjectCopy | pushValueObjectVector | pushConstructorResult | finalizeValueObject => .value
  | getWeakObject | getCheckedWeakObject | getThisWeakObject | getWeakObjectVector | sharedPtr => .weak

end Helper

/-- A helper applied to a class. -/
structure Application where
  /-- The helper. -/
  helper : Helper
  /-- The class. -/
  className : String
  deriving DecidableEq, Repr

namespace Application

/-- The text applies the helper to the class, which is an argument of its template or given by its constant. -/
def IsSpelledIn (a : Application) (text : String) : Prop :=
  occursIn (a.helper.spelling ++ "<" ++ a.className ++ ">") text = true ∨
    occursIn (a.helper.spelling ++ "(") text = true ∧ occursIn (classId a.className) text = true

/-- The ownership of the class is that which the helper is for. -/
def Respects (v : Vocabulary) (a : Application) : Prop := v.ownership a.className = a.helper.ownership

end Application

/-! ### Applications -/

/-- The helpers that take a value; a counted object that is shared is held by a shared pointer. -/
def Fetch.applications : Fetch → List Application
  | values c => [⟨.getValueObjectVector, c⟩]
  | objects c => [⟨.getWeakObjectVector, c⟩]
  | shared c => [⟨.getWeakObject, c⟩, ⟨.sharedPtr, c⟩]
  | valuePointer c => [⟨.getValueObject, c⟩]
  | valueReference c => [⟨.getCheckedValueObject, c⟩]
  | objectReference c => [⟨.getCheckedWeakObject, c⟩]
  | objectPointer c => [⟨.getWeakObject, c⟩]
  | number _ | boolean | string | variant | strings => []

/-- The helpers that push a value. -/
def Push.applications : Push → List Application
  | values c => [⟨.pushValueObjectVector, c⟩]
  | copy c => [⟨.pushValueObjectCopy, c⟩]
  | inPlace c _ => [⟨.pushValueObject, c⟩]
  | number | boolean | string _ | variant | strings | objects | map | object => []

/-- The helpers that test an argument. -/
def ArgCheck.applications : ArgCheck → List Application
  | value c => [⟨.getValueObject, c⟩]
  | number | boolean | string | object => []

/-- The helper that reaches the object of a call. -/
def ThisAccess.applications (t : ThisAccess) : List Application :=
  match t.ownership with
  | .value => [⟨.getThisValueObject, t.className⟩]
  | .weak => [⟨.getThisWeakObject, t.className⟩]

/-! ### Snippets -/

/-- A place of a unit where values are carried or objects are handled. -/
inductive Snippet where
  /-- The variable for an argument takes its value. -/
  | argument (a : Argument)
  /-- The value of an expression is pushed. -/
  | push (p : Push) (source : String)
  /-- An argument is tested. -/
  | check (c : ArgCheck) (index : Int)
  /-- The object of a call is reached. -/
  | this (t : ThisAccess)
  /-- A new object of a class is given to the script side. -/
  | constructed (className : String)
  /-- The life of a value of a class ends. -/
  | finalized (className : String)
  /-- The wrapper of a signal is reached. -/
  | wrapper (className : String)
  /-- A new wrapper of a signal is given to the script side. -/
  | wrapped (className : String)
  /-- The receivers of signals are looked up. -/
  | receivers
  deriving DecidableEq, Repr

namespace Snippet

/-- The text of a snippet. -/
def text : Snippet → String
  | argument a => a.statement
  | push p source => p.statement source
  | check c index => c.condition index
  | this t => t.statement "thisObj"
  | constructed className => constructorResult className "newObj"
  | finalized className => s!"FinalizeValueObject<{className}>(ctx, {classId className});"
  | wrapper className => s!"{className}* wrapper = GetThisValueObject<{className}>(ctx, {classId className});"
  | wrapped className => s!"PushValueObject(ctx, wrapper, {classId className}, {finalizerName className}, false);"
  | receivers => "HashMap<void*, SharedPtr<SignalReceiver> >& signalReceivers = " ++
      "JavaScriptInstance::InstanceFromContext(ctx)->SignalReceivers();"

/-- The helpers that a snippet applies. -/
def applications : Snippet → List Application
  | argument a => a.read.fetch.applications
  | push p _ => p.applications
  | check c _ => c.applications
  | this t => t.applications
  | constructed className => [⟨.pushConstructorResult, className⟩]
  | finalized className => [⟨.finalizeValueObject, className⟩]
  | wrapper className => [⟨.getThisValueObject, className⟩]
  | wrapped className => [⟨.pushValueObject, className⟩]
  | receivers => [⟨.sharedPtr, "SignalReceiver"⟩]

end Snippet

/-- The snippets of a thunk. -/
def Thunk.snippets (t : Thunk) : List Snippet :=
  let result := t.result?.toList.map fun result => .push result.2 "ret"
  t.arguments.map .argument ++
    match t.callee with
    | .constructor => [.constructed t.className]
    | .static _ => result
    | .method access _ => .this access :: result

/-- The snippets of a function. -/
def UnitFunction.snippets : UnitFunction → List Snippet
  | finalizer className => [.finalized className]
  | getter g => [.this g.this, .push g.push ("thisObj->" ++ g.member)]
  | setter s => [.this s.this, .argument ⟨s.read, none⟩]
  | connect s => [.wrapper s.wrapper, .receivers]
  | disconnect s => [.wrapper s.wrapper]
  | emit s => .wrapper s.wrapper :: s.parameters.map fun p => .argument ⟨p.read, none⟩
  | signalGetter s => [.this s.this, .wrapped s.wrapper]
  | thunk t => t.snippets
  | selector s => s.cases.flatMap fun (guard, _) => guard.checks.map fun (position, check) => .check check position

/-- The snippets of a passage. -/
def Passage.snippets : Passage → List Snippet
  | function f => f.snippets
  | signalClasses s => s.parameters.mapIdx fun i p => .push p.push s!"param{i}"
  | gap | constant _ | list _ | exposure _ => []

/-! ### Snippets are written out -/

/-- What is put between separators is part of the whole. -/
theorem infix_intercalate {α : Type} {part separator : List α} {parts : List (List α)} (h : part ∈ parts) :
    part <:+: separator.intercalate parts := by
  induction parts with
  | nil => cases h
  | cons first rest ih =>
    cases rest with
    | nil =>
      rw [List.mem_singleton.1 h, List.intercalate_singleton]
    | cons second rest =>
      rw [List.intercalate_cons_cons]
      rcases List.mem_cons.1 h with rfl | h
      · exact ⟨[], separator ++ separator.intercalate (second :: rest), by simp⟩
      · exact (ih h).trans (List.suffix_append _ _).isInfix

theorem occursIn_self (s : String) : occursIn s s = true := occursIn_iff.2 (List.infix_refl _)

theorem exists_line_of_mem_body {name statement : String} {body : List String} (h : statement ∈ body) :
    ∃ line ∈ functionLines name body, occursIn statement line = true := by
  refine ⟨indented 1 statement, ?_, occursIn_indented (occursIn_self statement) 1⟩
  exact List.mem_append_left _ (List.mem_append_right _ (List.mem_map_of_mem h))

theorem Thunk.text_mem_statements {t : Thunk} {s : Snippet} (h : s ∈ t.snippets) : s.text ∈ t.statements := by
  have hresult : s ∈ t.result?.toList.map (fun result => .push result.2 "ret") →
      ∃ type push, t.result? = some (type, push) ∧ s.text = push.statement "ret" := by
    intro hs
    obtain ⟨⟨type, push⟩, hresult, rfl⟩ := List.mem_map.1 hs
    exact ⟨type, push, Option.mem_toList.1 hresult, rfl⟩
  unfold statements
  apply List.mem_append_right
  unfold snippets at h
  rcases List.mem_append.1 h with h | h
  · obtain ⟨a, ha, rfl⟩ := List.mem_map.1 h
    have hargument : a.statement ∈ t.arguments.map (·.statement) := List.mem_map_of_mem ha
    cases t.callee with
    | constructor => exact List.mem_append_left _ hargument
    | static name => exact List.mem_append_left _ hargument
    | method access name => exact List.mem_cons_of_mem _ (List.mem_append_left _ hargument)
  · cases hcallee : t.callee with
    | constructor =>
      simp only [hcallee] at h
      rw [List.mem_singleton.1 h]
      exact List.mem_append_right _ (List.mem_cons_of_mem _ List.mem_cons_self)
    | static name =>
      simp only [hcallee] at h
      obtain ⟨type, push, hresult, htext⟩ := hresult h
      rw [hresult, htext]
      exact List.mem_append_right _ (List.mem_cons_of_mem _ List.mem_cons_self)
    | method access name =>
      simp only [hcallee] at h
      rcases List.mem_cons.1 h with rfl | h
      · exact List.mem_cons_self
      · obtain ⟨type, push, hresult, htext⟩ := hresult h
        rw [hresult, htext]
        exact List.mem_cons_of_mem _ (List.mem_append_right _ (List.mem_cons_of_mem _ List.mem_cons_self))

theorem Guard.occursIn_condition {g : Guard} {position : Nat} {check : ArgCheck} (h : (position, check) ∈ g.checks) :
    occursIn (check.condition position) g.condition = true := by
  rw [occursIn_iff, condition, String.toList_intercalate]
  apply infix_intercalate
  apply List.mem_map_of_mem
  exact List.mem_cons_of_mem _ (List.mem_map_of_mem h)

theorem UnitFunction.exists_line_of_mem_snippets {f : UnitFunction} {s : Snippet} (h : s ∈ f.snippets) :
    ∃ line ∈ f.lines, occursIn s.text line = true := by
  cases f with
  | finalizer className =>
    rw [List.mem_singleton.1 h]
    exact exists_line_of_mem_body List.mem_cons_self
  | getter g =>
    apply exists_line_of_mem_body
    rcases List.mem_cons.1 h with rfl | h
    · exact List.mem_cons_self
    · rw [List.mem_singleton.1 h]
      exact List.mem_cons_of_mem _ List.mem_cons_self
  | setter setter =>
    apply exists_line_of_mem_body
    rcases List.mem_cons.1 h with rfl | h
    · exact List.mem_cons_self
    · rw [List.mem_singleton.1 h]
      exact List.mem_cons_of_mem _ List.mem_cons_self
  | connect signal =>
    apply exists_line_of_mem_body
    simp only [List.append_assoc]
    rcases List.mem_cons.1 h with rfl | h
    · exact List.mem_append_left _ List.mem_cons_self
    · rw [List.mem_singleton.1 h]
      exact List.mem_append_right _ List.mem_cons_self
  | disconnect signal =>
    apply exists_line_of_mem_body
    rw [List.mem_singleton.1 h]
    exact List.mem_append_left _ List.mem_cons_self
  | emit signal =>
    apply exists_line_of_mem_body
    rw [List.append_assoc]
    rcases List.mem_cons.1 h with rfl | h
    · exact List.mem_append_left _ List.mem_cons_self
    · obtain ⟨p, hp, rfl⟩ := List.mem_map.1 h
      have hstatement : p.read.statement ∈ signal.parameters.map (·.read.statement) := List.mem_map_of_mem hp
      exact List.mem_append_right _ (List.mem_append_left _ hstatement)
  | signalGetter signal =>
    apply exists_line_of_mem_body
    rcases List.mem_cons.1 h with rfl | h
    · exact List.mem_cons_self
    · rw [List.mem_singleton.1 h]
      exact List.mem_cons_of_mem _ (List.mem_cons_of_mem _ List.mem_cons_self)
  | thunk t => exact exists_line_of_mem_body (Thunk.text_mem_statements h)
  | selector selector =>
    obtain ⟨⟨guard, target⟩, hcase, h⟩ := List.mem_flatMap.1 h
    obtain ⟨⟨position, check⟩, hcheck, rfl⟩ := List.mem_map.1 h
    have htest : occursIn (check.condition position) s!"if ({guard.condition})" = true := by
      rw [occursIn_iff]
      refine (occursIn_iff.1 (Guard.occursIn_condition hcheck)).trans (occursIn_iff.1 ?_)
      exact occursIn_between _ guard.condition _
    refine ⟨indented 1 s!"if ({guard.condition})", ?_, occursIn_indented htest 1⟩
    refine List.mem_append_left _ (List.mem_append_right _ (List.mem_flatMap.2 ⟨_, hcase, ?_⟩))
    exact List.mem_cons_self

/-- **A snippet is written out** in a line of its passage. -/
theorem Passage.exists_line_of_mem_snippets {p : Passage} {s : Snippet} (h : s ∈ p.snippets) :
    ∃ line ∈ p.lines, occursIn s.text line = true := by
  cases p with
  | function f => exact UnitFunction.exists_line_of_mem_snippets h
  | signalClasses signal =>
    obtain ⟨i, hi, rfl⟩ := List.mem_mapIdx.1 h
    refine ⟨indented 2 (signal.parameters[i].push.statement s!"param{i}"), ?_, occursIn_indented (occursIn_self _) 2⟩
    refine List.mem_append_left _ (List.mem_append_right _ (List.mem_map_of_mem ?_))
    refine List.mem_append_left _ (List.mem_append_right _ ?_)
    exact List.mem_flatten.2 ⟨_, List.mem_mapIdx.2 ⟨i, hi, rfl⟩, List.mem_cons_self⟩
  | _ => cases h

/-! ### Applications are written out -/

namespace Application.IsSpelledIn

variable {a : Application} {text : String}

theorem mono {line : String} (h : a.IsSpelledIn text) (hline : occursIn text line = true) : a.IsSpelledIn line := by
  have hinner : ∀ {inner : String}, occursIn inner text = true → occursIn inner line = true := by
    intro inner hinner
    rw [occursIn_iff] at hinner hline ⊢
    exact hinner.trans hline
  exact h.imp hinner fun h => ⟨hinner h.1, hinner h.2⟩

theorem append (h : a.IsSpelledIn text) (after : String) : a.IsSpelledIn (text ++ after) := by
  exact h.imp (occursIn_append · after) fun h => ⟨occursIn_append h.1 after, occursIn_append h.2 after⟩

theorem between (before : String) (h : a.IsSpelledIn text) (after : String) : a.IsSpelledIn (before ++ text ++ after) :=
  h.mono (occursIn_between before text after)

/-- A class is the argument of a template between what ends in its opening and what begins with its closing. -/
theorem template {helper : Helper} {className opening closing : String} (start rest : String)
    (hopening : opening = start ++ (helper.spelling ++ "<")) (hclosing : closing = ">" ++ rest) :
    IsSpelledIn ⟨helper, className⟩ (opening ++ className ++ closing) := by
  left
  have htext : opening ++ className ++ closing = start ++ (helper.spelling ++ "<" ++ className ++ ">") ++ rest := by
    simp only [hopening, hclosing, String.append_assoc]
  rw [htext]
  exact occursIn_between start (helper.spelling ++ "<" ++ className ++ ">") rest

/-- A function is called with the constant of a class. -/
theorem call {helper : Helper} {className opening : String} (rest closing : String)
    (hopening : opening = helper.spelling ++ "(" ++ rest) :
    IsSpelledIn ⟨helper, className⟩ (opening ++ classId className ++ closing) := by
  right
  constructor
  · have hcall : occursIn (helper.spelling ++ "(") ("" ++ (helper.spelling ++ "(") ++ rest) = true := occursIn_between _ _ _
    rw [String.empty_append, ← hopening] at hcall
    exact occursIn_append (occursIn_append hcall _) _
  · exact occursIn_between _ _ _

end Application.IsSpelledIn

/-- The expression of a fetch applies its helpers, but for the type of shared pointers, which stands before it. -/
theorem Fetch.isSpelledIn_expression {f : Fetch} {a : Application} (h : a ∈ f.applications) (hhelper : a.helper ≠ .sharedPtr)
    (index : Int) : a.IsSpelledIn (f.expression index) := by
  have hid : ∀ {helper : Helper} {c opening : String} (start : String),
      toString opening = start ++ (helper.spelling ++ "<") →
        Application.IsSpelledIn ⟨helper, c⟩ s!"{opening}{c}>(ctx, {index}, {classId c})" := by
    intro helper c opening start hopening
    exact ((((Application.IsSpelledIn.template start "(ctx, " hopening (by simp [toString])).append _).append _).append
      _).append _
  have hplain : ∀ {helper : Helper} {c opening : String} (start : String),
      toString opening = start ++ (helper.spelling ++ "<") →
        Application.IsSpelledIn ⟨helper, c⟩ s!"{opening}{c}>(ctx, {index})" := by
    intro helper c opening start hopening
    exact ((Application.IsSpelledIn.template start "(ctx, " hopening (by simp [toString])).append _).append _
  cases f with
  | values c =>
    rw [List.mem_singleton.1 h]
    exact hid "" (by simp [Helper.spelling, toString])
  | valuePointer c =>
    rw [List.mem_singleton.1 h]
    exact hid "" (by simp [Helper.spelling, toString])
  | valueReference c =>
    rw [List.mem_singleton.1 h]
    exact hid "*" (by simp [Helper.spelling, toString])
  | objects c =>
    rw [List.mem_singleton.1 h]
    exact hplain "" (by simp [Helper.spelling, toString])
  | objectPointer c =>
    rw [List.mem_singleton.1 h]
    exact hplain "" (by simp [Helper.spelling, toString])
  | objectReference c =>
    rw [List.mem_singleton.1 h]
    exact hplain "*" (by simp [Helper.spelling, toString])
  | shared c =>
    rcases List.mem_cons.1 h with rfl | h
    · exact hplain "" (by simp [Helper.spelling, toString])
    · rw [List.mem_singleton.1 h] at hhelper
      exact absurd rfl hhelper
  | _ => cases h

theorem Push.isSpelledIn_statement {p : Push} {a : Application} (h : a ∈ p.applications) (source : String) :
    a.IsSpelledIn (p.statement source) := by
  cases p with
  | values c =>
    rw [List.mem_singleton.1 h]
    have hname : "PushValueObjectVector(ctx, " = "PushValueObjectVector" ++ ("(" ++ "ctx, ") := by simp
    refine ((Application.IsSpelledIn.call ("ctx, " ++ source ++ ", ") _ ?_).append _).append _
    simp only [Helper.spelling, toString, String.append_assoc]
    rw [hname]
    simp only [String.append_assoc]
  | copy c =>
    rw [List.mem_singleton.1 h]
    refine ((((((Application.IsSpelledIn.template "" "(ctx, " ?_ ?_).append _).append _).append _).append _).append
      _).append _
    · simp [Helper.spelling, toString]
    · simp [toString]
  | inPlace c isPointer =>
    rw [List.mem_singleton.1 h]
    refine (((((Application.IsSpelledIn.template "" "(ctx, " ?_ ?_).append _).append _).append _).append _).append _
    · simp [Helper.spelling, toString]
    · simp [toString]
  | _ => cases h

theorem ArgCheck.isSpelledIn_condition {c : ArgCheck} {a : Application} (h : a ∈ c.applications) (index : Int) :
    a.IsSpelledIn (c.condition index) := by
  cases c with
  | value c =>
    rw [List.mem_singleton.1 h]
    refine ((((Application.IsSpelledIn.template "" "(ctx, " ?_ ?_).append _).append _).append _).append _
    · simp [Helper.spelling, toString]
    · simp [toString]
  | _ => cases h

theorem ThisAccess.isSpelledIn_statement {t : ThisAccess} {a : Application} (h : a ∈ t.applications)
    (variableName : String) : a.IsSpelledIn (t.statement variableName) := by
  obtain ⟨c, ownership⟩ := t
  cases ownership with
  | value =>
    rw [List.mem_singleton.1 h]
    refine ((Application.IsSpelledIn.template (c ++ "* " ++ variableName ++ " = ") "(ctx, " ?_ ?_).append _).append _
    · simp [Helper.spelling, toString, String.append_assoc]
    · simp [toString]
  | weak =>
    rw [List.mem_singleton.1 h]
    refine Application.IsSpelledIn.template (c ++ "* " ++ variableName ++ " = ") "(ctx);" ?_ ?_
    · simp [Helper.spelling, toString, String.append_assoc]
    · simp [toString]

/-- A variable for a shared object has the type of shared pointers to its class. -/
def StackRead.IsTyped (r : StackRead) : Prop := ∀ c, r.fetch = .shared c → r.typeName = s!"SharedPtr<{c}>"

theorem StackRead.isTyped_of_read {v : Vocabulary} {text : String} {index : Int} {variableName : String} {r : StackRead}
    (h : v.read text index variableName = .ok r) : r.IsTyped := by
  obtain ⟨fetch, -, rfl⟩ := map_eq_ok.1 h
  intro c hc
  change fetch = .shared c at hc
  subst hc
  rfl

/-- Only a shared object is held by a shared pointer. -/
theorem Fetch.eq_shared_of_mem {f : Fetch} {a : Application} (h : a ∈ f.applications) (hhelper : a.helper = .sharedPtr) :
    ∃ c, f = .shared c ∧ a = ⟨.sharedPtr, c⟩ := by
  cases f with
  | shared c =>
    rcases List.mem_cons.1 h with rfl | h
    · cases hhelper
    · exact ⟨c, rfl, List.mem_singleton.1 h⟩
  | values c | objects c | valuePointer c | valueReference c | objectReference c | objectPointer c =>
    rw [List.mem_singleton.1 h] at hhelper
    cases hhelper
  | number _ | boolean | string | variant | strings => cases h

/-- The statement of an argument applies its helpers. -/
theorem Argument.isSpelledIn_statement {x : Argument} (htyped : x.read.IsTyped) {a : Application}
    (h : a ∈ x.read.fetch.applications) : a.IsSpelledIn x.statement := by
  by_cases hhelper : a.helper = .sharedPtr
  · obtain ⟨c, hfetch, rfl⟩ := Fetch.eq_shared_of_mem h hhelper
    have htype : Application.IsSpelledIn ⟨.sharedPtr, c⟩ x.read.typeName := by
      rw [htyped c hfetch]
      exact Application.IsSpelledIn.template "" "" (by simp [Helper.spelling, toString]) (by simp [toString])
    have hdeclarator : Application.IsSpelledIn ⟨.sharedPtr, c⟩ (x.read.declarator false) := by
      have hpointer : x.read.fetch.isPointer = false := by
        rw [hfetch]
        rfl
      rw [StackRead.declarator, hpointer]
      exact (htype.append _).append _
    have hdirect : x.read.fetch.isDirect = true := by
      rw [hfetch]
      rfl
    unfold statement
    split
    · exact ((((((hdeclarator.append _).append _).append _).append _).append _).append _).append _
    · rw [StackRead.statement, if_pos hdirect]
      exact ((((htype.append _).append _).append _).append _).append _
  · have hexpression : a.IsSpelledIn x.read.expression := Fetch.isSpelledIn_expression h hhelper x.read.index
    unfold statement
    split
    · have hwrapped : a.IsSpelledIn (if x.read.fetch.isDirect then s!"{x.read.typeName}({x.read.expression})"
          else x.read.expression) := by
        split
        · exact hexpression.between _ _
        · exact hexpression
      exact ((hwrapped.between _ _).append _).append _
    · unfold StackRead.statement
      split
      · exact hexpression.between _ _
      · exact hexpression.between _ _

/-- **The helpers of a snippet are applied in its text.** -/
theorem Snippet.isSpelledIn_text {s : Snippet} (htyped : ∀ x, s = .argument x → x.read.IsTyped) {a : Application}
    (h : a ∈ s.applications) : a.IsSpelledIn s.text := by
  cases s with
  | argument x => exact Argument.isSpelledIn_statement (htyped x rfl) h
  | push p source => exact Push.isSpelledIn_statement h source
  | check c index => exact ArgCheck.isSpelledIn_condition h index
  | this t => exact ThisAccess.isSpelledIn_statement h "thisObj"
  | constructed c =>
    rw [List.mem_singleton.1 h]
    refine ((((((Application.IsSpelledIn.template "" "(ctx, " ?_ ?_).append _).append _).append _).append _).append
      _).append _
    · simp [Helper.spelling, toString]
    · simp [toString]
  | finalized c =>
    rw [List.mem_singleton.1 h]
    refine ((Application.IsSpelledIn.template "" "(ctx, " ?_ ?_).append _).append _
    · simp [Helper.spelling, toString]
    · simp [toString]
  | wrapper c =>
    rw [List.mem_singleton.1 h]
    refine ((Application.IsSpelledIn.template (c ++ "* wrapper = ") "(ctx, " ?_ ?_).append _).append _
    · simp [Helper.spelling, toString, String.append_assoc]
    · simp [toString]
  | wrapped c =>
    rw [List.mem_singleton.1 h]
    refine ((Application.IsSpelledIn.call "ctx, wrapper, " _ ?_).append _).append _
    simp [Helper.spelling, toString]
  | receivers =>
    have htype : "HashMap<void*, SharedPtr<SignalReceiver> >& signalReceivers = " =
        "HashMap<void*, SharedPtr<" ++ "SignalReceiver" ++ "> >& signalReceivers = " := by simp
    have happlied : Application.IsSpelledIn ⟨.sharedPtr, "SignalReceiver"⟩
        "HashMap<void*, SharedPtr<SignalReceiver> >& signalReceivers = " := by
      rw [htype]
      exact Application.IsSpelledIn.template "HashMap<void*, " " >& signalReceivers = " (by simp [Helper.spelling]) (by simp)
    rw [List.mem_singleton.1 h]
    exact happlied.append "JavaScriptInstance::InstanceFromContext(ctx)->SignalReceivers();"

end ScriptGlue
