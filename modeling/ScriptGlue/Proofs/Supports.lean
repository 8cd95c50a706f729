import ScriptGlue.Binding.Unit
import ScriptGlue.Proofs.ParameterTypes

/-!
# What generated code refers to

Generated code for a class of values refers to the constant that identifies the class and to the function that
ends the life of a value. These are its supports: which of them every snippet and every part of a unit refers
to (`uses`), and which it declares (`declares`). What a snippet refers to belongs to the class that its type
stands for (`Carries`).
-/

namespace ScriptGlue

open ScriptGlue.Text ScriptGlue.Cpp

/-- What generated code needs for values of a class. -/
inductive Support where
  /-- The constant that identifies the class. -/
  | constant (className : String)
  /-- The function that ends the life of a value. -/
  | finalizer (className : String)
  deriving DecidableEq, Repr

namespace Support

/-- The name in generated code. -/
def spelling : Support → String
  | constant className => classId className
  | finalizer className => finalizerName className

end Support

/-! ### Snippets -/

/-- What taking a value refers to. -/
def Fetch.uses : Fetch → List Support
  | values c | valuePointer c | valueReference c => [.constant c]
  | _ => []

/-- What pushing a value refers to. -/
def Push.uses : Push → List Support
  | values c | copy c => [.constant c, .finalizer c]
  | inPlace c _ => [.constant c]
  | _ => []

/-- What testing an argument refers to. -/
def ArgCheck.uses : ArgCheck → List Support
  | value c => [.constant c]
  | _ => []

/-- What getting at the object refers to. -/
def ThisAccess.uses (a : ThisAccess) : List Support :=
  match a.ownership with
  | .value => [.constant a.className]
  | .weak => []

/-- A text occurs where it is put in. -/
theorem occursIn_between (before inner after : String) : occursIn inner (before ++ inner ++ after) = true := by
  rw [occursIn_iff, String.toList_append, String.toList_append]
  exact List.infix_append _ _ _

theorem occursIn_append {inner text : String} (h : occursIn inner text = true) (after : String) :
    occursIn inner (text ++ after) = true := by
  rw [occursIn_iff, String.toList_append] at *
  exact h.trans (List.prefix_append _ _).isInfix

theorem Fetch.occursIn_of_mem_uses {f : Fetch} {x : Support} (h : x ∈ f.uses) (index : Int) :
    occursIn x.spelling (f.expression index) = true := by
  cases f with
  | values c | valuePointer c | valueReference c =>
    cases List.mem_singleton.1 h
    exact occursIn_between _ (classId c) _
  | _ => cases h

theorem ArgCheck.occursIn_of_mem_uses {a : ArgCheck} {x : Support} (h : x ∈ a.uses) (index : Int) :
    occursIn x.spelling (a.condition index) = true := by
  cases a with
  | value c =>
    cases List.mem_singleton.1 h
    exact occursIn_between _ (classId c) _
  | _ => cases h

theorem Push.occursIn_of_mem_uses {p : Push} {x : Support} (h : x ∈ p.uses) (source : String) :
    occursIn x.spelling (p.statement source) = true := by
  cases p with
  | values c | copy c =>
    rcases List.mem_cons.1 h with rfl | h
    · exact occursIn_append (occursIn_append (occursIn_between _ (classId c) _) _) _
    · cases List.mem_singleton.1 h
      exact occursIn_between _ (finalizerName c) _
  | inPlace c isPointer =>
    cases List.mem_singleton.1 h
    exact occursIn_between _ (classId c) _
  | _ => cases h

theorem ThisAccess.occursIn_of_mem_uses {a : ThisAccess} {x : Support} (h : x ∈ a.uses) (variableName : String) :
    occursIn x.spelling (a.statement variableName) = true := by
  obtain ⟨c, ownership⟩ := a
  cases ownership with
  | value =>
    cases List.mem_singleton.1 h
    exact occursIn_between _ (classId c) _
  | weak => cases h

/-! ### Parts -/

/-- What a thunk refers to: a constructor gives its object to the script side. -/
def Thunk.uses (t : Thunk) : List Support :=
  t.arguments.flatMap (·.read.fetch.uses) ++
    match t.callee with
    | .constructor => [.constant t.className, .finalizer t.className]
    | .static _ => t.result?.elim [] (·.2.uses)
    | .method this _ => this.uses ++ t.result?.elim [] (·.2.uses)

/-- What a selector refers to. -/
def Selector.uses (s : Selector) : List Support := s.cases.flatMap fun (guard, _) => guard.checks.flatMap (·.2.uses)

/-- What a part that is no signal code refers to. -/
def UnitPart.uses : UnitPart → List Support
  | finalizer className => [.constant className]
  | getter g => g.this.uses ++ g.push.uses
  | setter s => s.this.uses ++ s.read.fetch.uses
  | thunk t => t.uses
  | selector s => s.uses
  | exposure e => [.constant e.className]
  | signalClasses _ | signalFunctions _ | functionList _ => []

/-- What a part declares. -/
def UnitPart.declares : UnitPart → List Support
  | finalizer className => [.finalizer className]
  | signalClasses s => [.constant s.wrapper]
  | _ => []

/-! ### Classes that types stand for -/

namespace Cpp.Vocabulary

variable {v : Vocabulary}

/-- The type stands for a registered class of values. -/
structure Carries (v : Vocabulary) (text className : String) : Prop where
  className_eq : (v.classify text).className = className
  registered : v.isRegistered className = true
  value : v.isRefcounted className = false

theorem ownership_eq_value {name : String} : v.ownership name = .value ↔ v.isRefcounted name = false := by
  cases h : v.isRefcounted name <;> simp [ownership, h]

theorem ownership_eq_weak {name : String} : v.ownership name = .weak ↔ v.isRefcounted name = true := by
  cases h : v.isRefcounted name <;> simp [ownership, h]

/-- Where a category comes from. -/
theorem category_eq {text : String} {category : Category} (hcategory : (v.classify text).category = category)
    (h : ∀ element, category ≠ .unsupported element) : v.categoryOf (v.classify text).name = category := by
  rw [classify] at hcategory ⊢
  split at hcategory
  · exact absurd hcategory.symm (h "")
  · next hsupported =>
    rw [if_neg hsupported]
    exact hcategory

/-- A bare name is of a category of its own, that of a container or that of a class. -/
theorem categoryOf_cases (name : String) :
    v.categoryOf name ∈ [.void, .bool, .number, .string .standard, .string .framework, .variant] ∨
    (∃ element, v.categoryOf name = v.vectorOf element ∨ v.categoryOf name = v.mapOf element ∨
      v.categoryOf name = v.sharedPtrOf element) ∨
    v.categoryOf name = if v.isRegistered name then .object (v.ownership name) else .unsupported "" := by
  unfold categoryOf
  split
  · exact .inl (by simp)
  split
  · exact .inl (by simp)
  split
  · exact .inl (by simp)
  split
  · next kind _ => exact .inl (by cases kind <;> simp)
  split
  · exact .inl (by simp)
  split
  · next element _ => exact .inr (.inl ⟨element, .inl rfl⟩)
  split
  · next element _ => exact .inr (.inl ⟨element, .inr (.inl rfl)⟩)
  split
  · next element _ => exact .inr (.inl ⟨element, .inr (.inr rfl)⟩)
  exact .inr (.inr rfl)

/-- What holds of each kind of category holds of the category of every type. -/
theorem category_cases {P : Category → Prop} (text : String)
    (plain : ∀ category ∈ [.void, .bool, .number, .string .standard, .string .framework, .variant], P category)
    (vector : ∀ element, P (v.vectorOf element)) (map : ∀ element, P (v.mapOf element))
    (sharedPtr : ∀ element, P (v.sharedPtrOf element))
    (object : v.isRegistered (v.classify text).name = true → P (.object (v.ownership (v.classify text).name)))
    (unsupported : P (.unsupported "")) : P (v.classify text).category := by
  have hname : (v.classify text).name = (Descriptor.ofText text).name := by
    unfold classify
    dsimp only
    split <;> rfl
  rw [hname] at object
  unfold classify
  dsimp only
  split
  · exact unsupported
  · rcases v.categoryOf_cases (Descriptor.ofText text).name with h | ⟨element, h | h | h⟩ | h
    · exact plain _ h
    · exact h ▸ vector element
    · exact h ▸ map element
    · exact h ▸ sharedPtr element
    · rw [h]
      split
      · next hregistered => exact object hregistered
      · exact unsupported

theorem vectorOf_cases (element : String) :
    (∃ kind, v.vectorOf element = .vector element (.string kind)) ∨
    v.isRegistered element = true ∧ v.vectorOf element = .vector element (.object (v.ownership element)) ∨
    v.vectorOf element = .unsupported element := by
  unfold vectorOf
  split
  · next kind _ => exact .inl ⟨kind, rfl⟩
  split
  · next h => exact .inr (.inl ⟨h, rfl⟩)
  · exact .inr (.inr rfl)

theorem carries_of_object {text : String} (h : (v.classify text).category = .object .value) :
    v.Carries text (v.classify text).name := by
  have hname := category_eq h fun _ hc => nomatch hc
  have hclass : v.isRegistered (v.classify text).name = true ∧ v.ownership (v.classify text).name = .value := by
    rcases v.categoryOf_cases (v.classify text).name with hc | ⟨element, hc | hc | hc⟩ | hc
    · rw [hname] at hc
      simp at hc
    · rcases v.vectorOf_cases element with ⟨kind, hv⟩ | ⟨-, hv⟩ | hv <;> rw [hname, hv] at hc <;> cases hc
    · rw [hname, mapOf] at hc
      split at hc <;> cases hc
    · rw [hname, sharedPtrOf] at hc
      split at hc <;> cases hc
    · rw [hname] at hc
      split at hc
      · next hregistered => exact ⟨hregistered, (Category.object.inj hc).symm⟩
      · cases hc
  exact ⟨by simp [TypeInfo.className, h], hclass.1, ownership_eq_value.1 hclass.2⟩

theorem carries_of_vector {text element : String} (h : (v.classify text).category = .vector element (.object .value)) :
    v.Carries text element := by
  have hname := category_eq h fun _ hc => nomatch hc
  have hclass : v.isRegistered element = true ∧ v.ownership element = .value := by
    rcases v.categoryOf_cases (v.classify text).name with hc | ⟨other, hc | hc | hc⟩ | hc
    · rw [hname] at hc
      simp at hc
    · rcases v.vectorOf_cases other with ⟨kind, hv⟩ | ⟨hregistered, hv⟩ | hv <;> rw [hname, hv] at hc
      · cases hc
      · obtain ⟨rfl, hvalue⟩ := Category.vector.inj hc
        exact ⟨hregistered, (VectorElement.object.inj hvalue).symm⟩
      · cases hc
    · rw [hname, mapOf] at hc
      split at hc <;> cases hc
    · rw [hname, sharedPtrOf] at hc
      split at hc <;> cases hc
    · rw [hname] at hc
      split at hc <;> cases hc
  exact ⟨by simp [TypeInfo.className, h], hclass.1, ownership_eq_value.1 hclass.2⟩

/-! ### Supports of values -/

/-- What taking a value refers to is the constant of the class that its type stands for. -/
theorem uses_of_fetch {text : String} {f : Fetch} (hf : v.fetch text = .ok f) {x : Support} (hx : x ∈ f.uses) :
    ∃ name, x = .constant name ∧ v.Carries text name := by
  simp only [fetch] at hf
  cases hcategory : (v.classify text).category with
  | object ownership =>
    cases ownership with
    | value =>
      rw [hcategory] at hf
      cases hf
      refine ⟨_, ?_, carries_of_object hcategory⟩
      split at hx <;> exact List.mem_singleton.1 hx
    | weak =>
      rw [hcategory] at hf
      cases hf
      split at hx <;> cases hx
  | vector element holds =>
    rw [hcategory] at hf
    rcases holds with _ | ⟨_ | _⟩ <;> cases hf
    · cases hx
    · exact ⟨element, List.mem_singleton.1 hx, carries_of_vector hcategory⟩
    · cases hx
  | _ =>
    rw [hcategory] at hf
    cases hf <;> cases hx

/-- What pushing a value refers to belongs to the class that its type stands for. -/
theorem uses_of_push {text : String} {p : Push} (hp : v.push text = .ok p) {x : Support} (hx : x ∈ p.uses) :
    ∃ name, (x = .constant name ∨ x = .finalizer name) ∧ v.Carries text name := by
  simp only [push] at hp
  cases hcategory : (v.classify text).category with
  | object ownership =>
    cases ownership with
    | value =>
      rw [hcategory] at hp
      cases hp
      exact ⟨_, by simpa [Push.uses] using hx, carries_of_object hcategory⟩
    | weak =>
      rw [hcategory] at hp
      cases hp
      cases hx
  | vector element holds =>
    rw [hcategory] at hp
    rcases holds with _ | ⟨_ | _⟩ <;> cases hp
    · cases hx
    · exact ⟨element, by simpa [Push.uses] using hx, carries_of_vector hcategory⟩
    · cases hx
  | _ =>
    rw [hcategory] at hp
    cases hp <;> cases hx

theorem uses_of_pushVariable {type : String} {p : Push} (hp : v.pushVariable type = .ok p) {x : Support}
    (hx : x ∈ p.uses) : ∃ name, (x = .constant name ∨ x = .finalizer name) ∧ v.Carries type name := by
  simp only [pushVariable] at hp
  split at hp
  · next hvalue =>
    cases hp
    exact ⟨_, .inl (List.mem_singleton.1 hx), carries_of_object (beq_iff_eq.1 hvalue)⟩
  · exact uses_of_push hp hx

theorem uses_of_argCheck {text : String} {check? : Option ArgCheck} (hc : v.argCheck text = .ok check?) {check : ArgCheck}
    (hcheck : check? = some check) {x : Support} (hx : x ∈ check.uses) :
    ∃ name, x = .constant name ∧ v.Carries text name := by
  simp only [argCheck] at hc
  subst hcheck
  cases hcategory : (v.classify text).category with
  | object ownership =>
    rw [hcategory] at hc
    cases ownership <;> cases hc
    exact ⟨_, List.mem_singleton.1 hx, carries_of_object hcategory⟩
  | _ =>
    rw [hcategory] at hc
    cases hc <;> cases hx

end Cpp.Vocabulary

end ScriptGlue
