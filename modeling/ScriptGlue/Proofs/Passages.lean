import ScriptGlue.Proofs.DeclarationOrder

/-!
# The functions of a unit

A unit cut into passages, each of which defines one function or none; they make up its text
(`text_eq_passages`). Which functions a passage refers to by name is `refers`: the targets of a selector, the
entries of a list, what is pushed with the wrapper of a signal, and what the class is exposed with. Passages are
closed if each refers to functions that are defined before it.
-/

namespace ScriptGlue

open ScriptGlue.Text ScriptGlue.Cpp

/-! ### Functions and passages -/

/-- A function that a unit defines. -/
inductive UnitFunction where
  /-- The finalizer of a class. -/
  | finalizer (className : String)
  | getter (g : Getter)
  | setter (s : Setter)
  /-- What connects a script to a signal. -/
  | connect (s : Signal)
  /-- What disconnects a script from a signal. -/
  | disconnect (s : Signal)
  /-- What emits a signal. -/
  | emit (s : Signal)
  /-- What makes the wrapper of a signal. -/
  | signalGetter (s : Signal)
  | thunk (t : Thunk)
  | selector (s : Selector)
  deriving DecidableEq, Repr

namespace UnitFunction

/-- The name of the function. -/
def name : UnitFunction → String
  | finalizer className => finalizerName className
  | getter g => g.name
  | setter s => s.name
  | connect s => s.connectName
  | disconnect s => s.disconnectName
  | emit s => s.emitName
  | signalGetter s => s.getterName
  | thunk t => t.name
  | selector s => s.name

/-- The lines of the function. -/
def lines : UnitFunction → List String
  | finalizer className => finalizerLines className
  | getter g => g.lines
  | setter s => s.lines
  | connect s => s.connectLines
  | disconnect s => s.disconnectLines
  | emit s => s.emitLines
  | signalGetter s => s.getterLines
  | thunk t => t.lines
  | selector s => s.lines

/-- A function begins with the head that defines its name. -/
theorem lines_eq (f : UnitFunction) : ∃ body, f.lines = functionHeader f.name :: body := by
  cases f <;> exact ⟨_, rfl⟩

/-- The functions that a function refers to by name: a selector those that it chooses from, the getter of a
signal those that it pushes with the wrapper. -/
def refers : UnitFunction → List String
  | selector s => s.cases.map (·.2)
  | signalGetter s => [finalizerName s.wrapper, s.connectName, s.disconnectName, s.emitName]
  | _ => []

end UnitFunction

/-- A passage of the text of a unit after its head. -/
inductive Passage where
  | function (f : UnitFunction)
  /-- An empty line. -/
  | gap
  /-- The line of the constant of a class. -/
  | constant (className : String)
  /-- The classes of a signal. -/
  | signalClasses (s : Signal)
  | list (l : FunctionList)
  | exposure (e : Exposure)
  deriving DecidableEq, Repr

/-- The functions that a class is exposed with: its constructor, and those behind its properties. -/
def Exposure.refers (e : Exposure) : List String :=
  e.constructor?.toList ++
    e.prototype?.toList.flatMap fun p => p.properties.flatMap fun q => q.getter :: q.setter.toList

/-- The lists of functions that a class is exposed with. -/
def Exposure.lists (e : Exposure) : List String :=
  e.staticList?.toList ++ e.prototype?.toList.flatMap fun p => p.functionList?.toList

/-! ### References are spelled out -/

theorem occursIn_indented {inner line : String} (h : occursIn inner line = true) (level : Nat) :
    occursIn inner (indented level line) = true := by
  rw [occursIn_iff, indented, String.toList_append]
  exact (occursIn_iff.1 h).trans (List.suffix_append _ _).isInfix

theorem UnitFunction.exists_line_of_mem_refers {f : UnitFunction} {name : String} (h : name ∈ f.refers) :
    ∃ line ∈ f.lines, occursIn name line = true := by
  cases f with
  | selector s =>
    obtain ⟨⟨guard, target⟩, hcase, rfl⟩ := List.mem_map.1 h
    refine ⟨indented 2 s!"return {target}(ctx);", ?_, occursIn_indented (occursIn_between _ target _) 2⟩
    refine List.mem_append_left _ (List.mem_append_right _ (List.mem_flatMap.2 ⟨_, hcase, ?_⟩))
    exact List.mem_cons_of_mem _ (List.mem_singleton_self _)
  | signalGetter s =>
    simp only [refers, List.mem_cons, List.not_mem_nil, or_false] at h
    rcases h with rfl | rfl | rfl | rfl
    · refine ⟨indented 1 s!"PushValueObject(ctx, wrapper, {classId s.wrapper}, {finalizerName s.wrapper}, false);", ?_,
        occursIn_indented (occursIn_between _ (finalizerName s.wrapper) _) 1⟩
      simp [lines, Signal.getterLines, functionLines, indentedAll]
    · refine ⟨indented 1 s!"duk_push_c_function(ctx, {s.connectName}, DUK_VARARGS);", ?_,
        occursIn_indented (occursIn_between _ s.connectName _) 1⟩
      simp [lines, Signal.getterLines, functionLines, indentedAll]
    · refine ⟨indented 1 s!"duk_push_c_function(ctx, {s.disconnectName}, DUK_VARARGS);", ?_,
        occursIn_indented (occursIn_between _ s.disconnectName _) 1⟩
      simp [lines, Signal.getterLines, functionLines, indentedAll]
    · refine ⟨indented 1 s!"duk_push_c_function(ctx, {s.emitName}, {s.parameters.length});", ?_,
        occursIn_indented (occursIn_append (occursIn_append (occursIn_between _ s.emitName _) _) _) 1⟩
      simp [lines, Signal.getterLines, functionLines, indentedAll]
  | _ => cases h

theorem FunctionList.exists_line_of_mem_entries {l : FunctionList} {entry : FunctionEntry} (h : entry ∈ l.entries) :
    ∃ line ∈ l.lines, occursIn entry.function line = true := by
  obtain ⟨i, hi, rfl⟩ := List.getElem_of_mem h
  refine ⟨_, List.mem_append_left _ (List.mem_append_right _ (List.mem_map_of_mem (List.mem_mapIdx.2 ⟨i, hi, rfl⟩))), ?_⟩
  refine occursIn_indented ?_ 1
  exact occursIn_append (occursIn_append (occursIn_between _ l.entries[i].function _) _) _

theorem Exposure.exists_line_of_mem_statements {e : Exposure} {name statement : String} (h : statement ∈ e.statements)
    (hname : occursIn name statement = true) : ∃ line ∈ e.lines, occursIn name line = true :=
  ⟨indented 1 statement, List.mem_append_left _ (List.mem_append_right _ (List.mem_map_of_mem h)), occursIn_indented hname 1⟩

theorem Exposure.exists_line_of_mem_refers {e : Exposure} {name : String} (h : name ∈ e.refers) :
    ∃ line ∈ e.lines, occursIn name line = true := by
  rcases List.mem_append.1 h with h | h
  · rw [Option.mem_toList] at h
    have hstatement : s!"duk_push_c_function(ctx, {name}, DUK_VARARGS);" ∈ e.statements := by
      simp [statements, Option.mem_def.1 h]
    exact exists_line_of_mem_statements hstatement (occursIn_between _ name _)
  · obtain ⟨p, hp, h⟩ := List.mem_flatMap.1 h
    obtain ⟨q, hq, h⟩ := List.mem_flatMap.1 h
    rw [Option.mem_toList] at hp
    have hstatement : propertyStatement q ∈ e.statements := by
      simp [statements, Option.mem_def.1 hp, List.mem_map_of_mem hq]
    refine exists_line_of_mem_statements hstatement ?_
    rcases List.mem_cons.1 h with rfl | h
    · exact occursIn_append (occursIn_append (occursIn_between _ q.getter _) _) _
    · have hsetter : q.setter.getD "nullptr" = name := by
        rw [Option.mem_toList] at h
        rw [Option.mem_def.1 h, Option.getD_some]
      rw [← hsetter]
      exact occursIn_between _ (q.setter.getD "nullptr") _

namespace Passage

/-- The lines of a passage. -/
def lines : Passage → List String
  | function f => f.lines
  | gap => [""]
  | constant className => [classIdLine className]
  | signalClasses s => s.classLines
  | list l => l.lines
  | exposure e => e.lines

/-- The function that a passage defines, if it defines one. -/
def function? : Passage → Option UnitFunction
  | function f => some f
  | _ => none

/-- The functions that a passage refers to by name. -/
def refers : Passage → List String
  | function f => f.refers
  | list l => l.entries.map (·.function)
  | exposure e => e.refers
  | _ => []

/-- A passage spells the names of the functions that it refers to. -/
theorem exists_line_of_mem_refers {p : Passage} {name : String} (h : name ∈ p.refers) :
    ∃ line ∈ p.lines, occursIn name line = true := by
  cases p with
  | function f => exact UnitFunction.exists_line_of_mem_refers h
  | list l =>
    obtain ⟨entry, hentry, rfl⟩ := List.mem_map.1 h
    exact FunctionList.exists_line_of_mem_entries hentry
  | exposure e => exact Exposure.exists_line_of_mem_refers h
  | _ => cases h

end Passage

/-! ### Passages of a unit -/

/-- The passages of a part. -/
def UnitPart.passages : UnitPart → List Passage
  | finalizer className => [.function (.finalizer className)]
  | getter g => [.function (.getter g)]
  | setter s => [.function (.setter s)]
  | signalClasses s => [.signalClasses s]
  | signalFunctions s =>
    [.function (.connect s), .function (.disconnect s), .function (.emit s), .function (.signalGetter s)]
  | thunk t => [.function (.thunk t)]
  | selector s => [.function (.selector s)]
  | functionList l => [.list l]
  | exposure e => [.exposure e]

theorem UnitPart.flatMap_lines_passages (part : UnitPart) : part.passages.flatMap Passage.lines = part.lines := by
  cases part with
  | signalFunctions s =>
    change s.connectLines ++ (s.disconnectLines ++ (s.emitLines ++ (s.getterLines ++ []))) = _
    rw [List.append_nil, ← List.append_assoc, ← List.append_assoc]
    rfl
  | _ => exact List.append_nil _

/-- The passages of a piece. -/
def Piece.passages : Piece → List Passage
  | gap => [.gap]
  | constant className => [.constant className]
  | part p => p.passages

/-- The passages of a unit in order. -/
def BindingsUnit.passages (u : BindingsUnit) : List Passage := u.pieces.flatMap Piece.passages

/-- **The text of a unit is that of its passages** after the head. -/
theorem BindingsUnit.text_eq_passages (u : BindingsUnit) :
    u.text = u.head ++ block (u.passages.flatMap Passage.lines) ++ "\x7d\n" := by
  have hpiece : ∀ p : Piece, p.passages.flatMap Passage.lines = p.lines := by
    intro p
    cases p with
    | part part => exact part.flatMap_lines_passages
    | _ => rfl
  rw [text_eq_pieces, passages, List.flatMap_assoc]
  simp only [hpiece]

/-! ### Functions of passages -/

/-- The functions that some passages define, in order. -/
def functionsOf (ps : List Passage) : List UnitFunction := ps.filterMap Passage.function?

@[simp] theorem functionsOf_append (ps qs : List Passage) : functionsOf (ps ++ qs) = functionsOf ps ++ functionsOf qs :=
  List.filterMap_append

theorem mem_functionsOf {ps : List Passage} {f : UnitFunction} : f ∈ functionsOf ps ↔ .function f ∈ ps := by
  rw [functionsOf, List.mem_filterMap]
  constructor
  · rintro ⟨p, hp, hf⟩
    cases p with
    | function g => rwa [← Option.some.inj hf]
    | _ => cases hf
  · intro h
    exact ⟨_, h, rfl⟩

/-- The names of the functions that some passages define. -/
def namesOf (ps : List Passage) : List String := (functionsOf ps).map (·.name)

@[simp] theorem namesOf_append (ps qs : List Passage) : namesOf (ps ++ qs) = namesOf ps ++ namesOf qs := by
  simp [namesOf]

theorem mem_namesOf {ps : List Passage} {name : String} : name ∈ namesOf ps ↔ ∃ f, .function f ∈ ps ∧ f.name = name := by
  simp [namesOf, mem_functionsOf]

/-- The passages of some parts. -/
def passagesOf (parts : List UnitPart) : List Passage := parts.flatMap UnitPart.passages

@[simp] theorem passagesOf_nil : passagesOf [] = [] := rfl

@[simp] theorem passagesOf_cons (part : UnitPart) (parts : List UnitPart) :
    passagesOf (part :: parts) = part.passages ++ passagesOf parts := rfl

@[simp] theorem passagesOf_append (parts later : List UnitPart) :
    passagesOf (parts ++ later) = passagesOf parts ++ passagesOf later := List.flatMap_append

/-! ### Closed passages -/

/-- Each passage refers to functions that are defined before it or among those given. -/
def ClosedAfter (defined : List String) : List Passage → Prop
  | [] => True
  | p :: ps => (∀ name ∈ p.refers, name ∈ defined) ∧ ClosedAfter (defined ++ namesOf [p]) ps

namespace ClosedAfter

variable {defined : List String} {ps qs : List Passage}

theorem append : ClosedAfter defined (ps ++ qs) ↔ ClosedAfter defined ps ∧ ClosedAfter (defined ++ namesOf ps) qs := by
  induction ps generalizing defined with
  | nil => simp [ClosedAfter, namesOf, functionsOf]
  | cons p ps ih =>
    have hnames : namesOf (p :: ps) = namesOf [p] ++ namesOf ps := namesOf_append [p] ps
    rw [List.cons_append, ClosedAfter, ClosedAfter, ih, hnames, List.append_assoc, and_assoc]

/-- Passages that refer to given functions only are closed. -/
theorem of_refers (h : ∀ p ∈ ps, ∀ name ∈ p.refers, name ∈ defined) : ClosedAfter defined ps := by
  induction ps generalizing defined with
  | nil => trivial
  | cons p ps ih =>
    refine ⟨h p List.mem_cons_self, ih fun q hq name hname => ?_⟩
    exact List.mem_append_left _ (h q (List.mem_cons_of_mem p hq) name hname)

/-- Passages that refer to nothing are closed. -/
theorem of_refers_eq_nil (h : ∀ p ∈ ps, p.refers = []) : ClosedAfter defined ps := by
  apply of_refers
  intro p hp name hname
  rw [h p hp] at hname
  cases hname

/-- Passages are closed after some that refer to nothing as they are after the functions of these. -/
theorem append_of_refers_eq_nil (h : ∀ p ∈ ps, p.refers = []) :
    ClosedAfter defined (ps ++ qs) ↔ ClosedAfter (defined ++ namesOf ps) qs := by
  rw [append]
  exact and_iff_right (of_refers_eq_nil h)

/-- In closed passages a reference is to a function that is defined before. -/
theorem exists_function (h : ClosedAfter [] ps) {before after : List Passage} {p : Passage}
    (hps : ps = before ++ p :: after) {name : String} (hname : name ∈ p.refers) :
    ∃ f, .function f ∈ before ∧ f.name = name := by
  rw [hps, append] at h
  exact mem_namesOf.1 (h.2.1 name hname)

end ClosedAfter

end ScriptGlue
