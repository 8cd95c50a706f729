import ScriptGlue.Binding.Accessor
import ScriptGlue.Proofs.Outcome

/-!
# What the snippets need

For every kind of generated code, the types that it can be made for. A type that is supported, is not `void`
and is no map can be read and tested; maps can be pushed besides. Each function of the generator hinges on
just this for the types that it is given, thunks also on the names in the declared type of their results.
-/

namespace ScriptGlue.Cpp.Vocabulary

variable (v : Vocabulary)

/-! ### Values -/

/-- A value of the type can be pushed. -/
def isPushable (text : String) : Bool :=
  (v.classify text).isSupported && (v.classify text).category != .void

theorem isSignalType_iff {text : String} : v.isSignalType text = true ↔
    (v.classify text).isSupported = true ∧ (v.classify text).category ≠ .void ∧
      ∀ element ownership, (v.classify text).category ≠ .map element ownership := by
  unfold isSignalType TypeInfo.isSupported
  cases (v.classify text).category <;> simp

theorem isPushable_of_isSignalType {text : String} (h : v.isSignalType text = true) : v.isPushable text = true := by
  obtain ⟨hsupported, hvoid, -⟩ := v.isSignalType_iff.1 h
  simp [isPushable, hsupported, hvoid]

theorem hinges_fetch (text : String) : Hinges (v.fetch text) (v.isSignalType text = true) True := by
  simp only [fetch, isSignalType]
  cases (v.classify text).category with
  | void | map | unsupported => exact Hinges.refused Bool.false_ne_true
  | bool | number | string | variant | sharedPtr => exact Hinges.carried rfl
  | vector element holds =>
    rcases holds with _ | ⟨_ | _⟩ <;> exact Hinges.carried rfl
  | object ownership => cases ownership <;> exact Hinges.carried rfl

theorem hinges_read (text : String) (index : Int) (variableName : String) :
    Hinges (v.read text index variableName) (v.isSignalType text = true) True :=
  (v.hinges_fetch text).map _

theorem hinges_push (text : String) : Hinges (v.push text) (v.isPushable text = true) True := by
  simp only [push, isPushable, TypeInfo.isSupported]
  cases (v.classify text).category with
  | void | unsupported => exact Hinges.refused Bool.false_ne_true
  | bool | number | string | variant | sharedPtr | map => exact Hinges.carried rfl
  | vector element holds =>
    rcases holds with _ | ⟨_ | _⟩ <;> exact Hinges.carried rfl
  | object ownership => cases ownership <;> exact Hinges.carried rfl

theorem hinges_argCheck (text : String) : Hinges (v.argCheck text) (v.isSignalType text = true) True := by
  simp only [argCheck, isSignalType]
  cases (v.classify text).category with
  | void | map | unsupported => exact Hinges.refused Bool.false_ne_true
  | bool | number | string | variant | sharedPtr | vector => exact Hinges.carried rfl
  | object ownership => cases ownership <;> exact Hinges.carried rfl

/-! ### Functions -/

/-- The arguments are those for the parameters, each at its position. -/
theorem arguments_eq (position : Nat) (ps : List Parameter) :
    v.arguments position ps = (ps.zipIdx position).mapM fun entry => v.argument entry.1 entry.2 := by
  induction ps generalizing position with
  | nil => rfl
  | cons p ps ih => rw [arguments, ih, List.zipIdx_cons, List.mapM_cons]

/-- The test for a parameter, if it needs one, with its position. -/
def positionedCheck (entry : Parameter × Nat) : Except Failure (Option (Nat × ArgCheck)) :=
  (v.argCheck entry.1.basicType).map (·.map fun check => (entry.2, check))

/-- The tests are those for the parameters, each at its position. -/
theorem checks_eq (position : Nat) (ps : List Parameter) :
    v.checks position ps = ((ps.zipIdx position).mapM v.positionedCheck).map List.reduceOption := by
  induction ps generalizing position with
  | nil => rfl
  | cons p ps ih =>
    rw [checks, ih, List.zipIdx_cons, List.mapM_cons, positionedCheck]
    cases v.argCheck p.basicType with
    | error e => rfl
    | ok check? =>
      cases (ps.zipIdx (position + 1)).mapM v.positionedCheck <;> cases check? <;> rfl

/-- What is true of elements with positions is true of the elements. -/
theorem forall_mem_zipIdx {α : Type} (P : α → Prop) (l : List α) (position : Nat) :
    (∀ entry ∈ l.zipIdx position, P entry.1) ↔ ∀ a ∈ l, P a := by
  rw [← List.forall_mem_map, List.zipIdx_map_fst]

theorem hinges_arguments (position : Nat) (ps : List Parameter) :
    Hinges (v.arguments position ps) (∀ p ∈ ps, v.isSignalType p.readType = true) True := by
  have hargument : ∀ entry ∈ ps.zipIdx position,
      Hinges (v.argument entry.1 entry.2) (v.isSignalType entry.1.readType = true) True := fun entry _ =>
    (v.hinges_read entry.1.readType entry.2 _).map _
  have harguments := Hinges.mapM hargument
  rw [forall_mem_zipIdx (fun p : Parameter => v.isSignalType p.readType = true), ← arguments_eq] at harguments
  exact harguments.congr Iff.rfl (by simp)

theorem hinges_checks (position : Nat) (ps : List Parameter) :
    Hinges (v.checks position ps) (∀ p ∈ ps, v.isSignalType p.basicType = true) True := by
  have hcheck : ∀ entry ∈ ps.zipIdx position,
      Hinges (v.positionedCheck entry) (v.isSignalType entry.1.basicType = true) True := fun entry _ =>
    (v.hinges_argCheck entry.1.basicType).map _
  have hchecks := (Hinges.mapM hcheck).map List.reduceOption
  rw [forall_mem_zipIdx (fun p : Parameter => v.isSignalType p.basicType = true), ← checks_eq] at hchecks
  exact hchecks.congr Iff.rfl (by simp)

theorem hinges_guard (o : Overload) :
    Hinges (v.guard o) (∀ p ∈ o.parameters.take o.significant.toNat, v.isSignalType p.basicType = true) True := by
  refine ((v.hinges_checks 0 _).bind fun checks _ => Hinges.ok _).congr ?_ ?_
  · simp
  · simp

/-- A set has a selector when the parameters that tell its functions apart can be tested. -/
theorem hinges_selector (s : OverloadSet) :
    Hinges (v.selector s)
      (∀ o ∈ s.overloads, ∀ p ∈ o.parameters.take o.significant.toNat, v.isSignalType p.basicType = true) True := by
  have hcases : ∀ o ∈ s.dispatchOrder, Hinges (do let guard ← v.guard o; pure (guard, o.functionName))
      (∀ p ∈ o.parameters.take o.significant.toNat, v.isSignalType p.basicType = true) True := fun o _ =>
    ((v.hinges_guard o).bind fun g _ => Hinges.ok (g, o.functionName)).congr (by simp) (by simp)
  exact ((Hinges.mapM hcases).bind fun found _ => Hinges.ok _).congr (by simp) (by simp)

/-- The names in the declared type can be qualified. -/
def isDeclarable (text : String) : Prop := ∃ declared, v.declaration text = .ok declared

theorem hinges_declaration (text : String) :
    Hinges ((v.declaration text).mapError .qualification) True (v.isDeclarable text) where
  ok_of _ h := h.imp fun _ => mapError_eq_ok.2
  of_ok declared h := ⟨trivial, declared, mapError_eq_ok.1 h⟩
  of_error e h := by
    cases hd : v.declaration text with
    | error e' =>
      rw [hd] at h
      cases h
      refine .inr ⟨trivial, ?_⟩
      rintro ⟨declared, hdeclared⟩
      rw [hd] at hdeclared
      cases hdeclared
    | ok declared =>
      rw [hd] at h
      cases h

theorem hinges_result (text : String) :
    Hinges (v.result text) ((v.classify text).isSupported = true)
      ((v.classify text).category ≠ .void → v.isDeclarable text) := by
  unfold result
  by_cases hvoid : (v.classify text).category = .void
  · have hsupported : (v.classify text).isSupported = true := by simp [TypeInfo.isSupported, hvoid]
    rw [if_pos (by simp [hvoid])]
    exact (Hinges.ok none).congr (by simp [hsupported]) (by simp [hvoid])
  · rw [if_neg (by simp [hvoid])]
    refine ((v.hinges_declaration text).bind fun declared _ =>
      (v.hinges_push text).bind fun push _ => Hinges.ok _).congr ?_ ?_
    · simp [isPushable, hvoid]
    · simp [hvoid]

/-- A function can be bound when its parameters can be read and its result, if it is kept, can be pushed and
declared. -/
theorem hinges_thunk (className : String) (o : Overload) :
    Hinges (v.thunk className o)
      ((∀ p ∈ o.parameters, v.isSignalType p.readType = true) ∧
        (o.isConstructor = false → (v.classify o.function.type).isSupported = true))
      (o.isConstructor = false → (v.classify o.function.type).category ≠ .void → v.isDeclarable o.function.type) := by
  unfold thunk
  refine ((v.hinges_arguments 0 o.parameters).bind fun arguments _ => ?_).congr Iff.rfl (by rw [true_and])
  cases o.isConstructor with
  | true =>
    refine ((Hinges.ok none).bind fun result? _ => Hinges.ok _).congr ?_ ?_
    · simp
    · simp
  | false =>
    refine ((v.hinges_result o.function.type).bind fun result? _ => Hinges.ok _).congr ?_ ?_
    · simp
    · simp

/-! ### Variables and signals -/

theorem hinges_pushVariable (type : String) : Hinges (v.pushVariable type) (v.isPushable type = true) True := by
  unfold pushVariable
  by_cases hvalue : (v.classify type).category = .object .value
  · have hpushable : v.isPushable type = true := by simp [isPushable, TypeInfo.isSupported, hvalue]
    rw [if_pos (by simp [hvalue])]
    exact Hinges.carried hpushable
  · rw [if_neg (by simp [hvalue])]
    exact v.hinges_push type

theorem hinges_getter (className : String) (m : Symbol) :
    Hinges (v.getter className m) (v.isPushable m.type = true) True :=
  (v.hinges_pushVariable m.type).map _

theorem hinges_setter? (className : String) (m : Symbol) :
    Hinges (v.setter? className m) (v.isWritable m = true → v.isSignalType m.type = true) True := by
  unfold setter?
  cases hwritable : v.isWritable m with
  | true =>
    rw [if_pos rfl]
    exact ((v.hinges_read m.type 0 m.name).map _).congr (by simp) Iff.rfl
  | false =>
    rw [if_neg Bool.false_ne_true]
    exact Hinges.carried (by simp)

/-- What can be written is no map. -/
theorem isSignalType_of_isWritable {m : Symbol} (hwritable : v.isWritable m = true)
    (h : v.isPushable m.type = true) : v.isSignalType m.type = true := by
  simp only [isPushable, Bool.and_eq_true, bne_iff_ne, ne_eq] at h
  refine v.isSignalType_iff.2 ⟨h.1, h.2, fun element ownership hmap => ?_⟩
  simp [isWritable, hmap] at hwritable

/-- A signal can be bound when its parameters can be passed both ways. -/
theorem hinges_signal (className : String) (m : Symbol) (types : List String) :
    Hinges (v.signal className m types) (∀ type ∈ types, v.isSignalType type = true) True := by
  have hpushes := Hinges.mapM fun type (_ : type ∈ types) => v.hinges_push type
  have hreads := Hinges.mapM fun (entry : String × Nat) (_ : entry ∈ types.zipIdx) =>
    v.hinges_read entry.1 entry.2 s!"param{entry.2}"
  refine (hpushes.bind fun pushes _ => hreads.bind fun reads _ => Hinges.ok _).congr ?_ ?_
  · rw [forall_mem_zipIdx (fun type => v.isSignalType type = true) types 0, and_true]
    exact ⟨And.right, fun h => ⟨fun type hmem => v.isPushable_of_isSignalType (h type hmem), h⟩⟩
  · simp

end ScriptGlue.Cpp.Vocabulary
