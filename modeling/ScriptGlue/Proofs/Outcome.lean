import Mathlib.Data.List.Basic
import ScriptGlue.Failure

/-!
# Outcomes

What an attempt comes to, its messages left aside, and what that hinges on. Generation fails in two ways only:
over a type that cannot be carried, and over a name that is qualified by a text which cannot be read. `Hinges`
says of a computation under which conditions neither happens, and is put together along its steps.
-/

namespace ScriptGlue

variable {α β : Type}

@[simp] theorem Logged.value_bind (x : Logged α) (f : α → Logged β) : (x >>= f).value = (f x.value).value := rfl

@[simp] theorem Logged.log_bind (x : Logged α) (f : α → Logged β) : (x >>= f).log = x.log ++ (f x.value).log := rfl

namespace Attempt

/-- What an attempt comes to. -/
def outcome (x : Attempt α) : Except Failure α := x.run.value

@[simp] theorem outcome_pure (a : α) : outcome (pure a) = .ok a := rfl

@[simp] theorem outcome_bind (x : Attempt α) (f : α → Attempt β) :
    outcome (x >>= f) = outcome x >>= fun a => outcome (f a) := by
  have hrun : outcome (x >>= f) = (ExceptT.bindCont f x.run.value).value := rfl
  rw [hrun, outcome]
  cases x.run.value with
  | error e => rfl
  | ok a => rfl

@[simp] theorem outcome_say (level : Level) (text : String) : outcome (say level text) = .ok () := rfl

@[simp] theorem outcome_except (x : Except Failure α) : outcome (liftM x) = x := rfl

@[simp] theorem outcome_logged (x : Logged α) : outcome (liftM x) = .ok x.value := rfl

end Attempt

/-! ### Computations that succeed -/

@[simp] theorem ok_bind (a : α) (f : α → Except Failure β) : (Except.ok a >>= f) = f a := rfl

/-- A sequence succeeds when both its steps do. -/
theorem bind_eq_ok {x : Except Failure α} {f : α → Except Failure β} {b : β} :
    x >>= f = .ok b ↔ ∃ a, x = .ok a ∧ f a = .ok b := by
  cases x with
  | error e => simp [bind, Except.bind]
  | ok a => simp [bind, Except.bind]

theorem map_eq_ok {x : Except Failure α} {f : α → β} {b : β} : x.map f = .ok b ↔ ∃ a, x = .ok a ∧ f a = b := by
  cases x <;> simp [Except.map]

/-- Naming the failure otherwise does not change what succeeds. -/
theorem mapError_eq_ok {ε : Type} {x : Except ε α} {f : ε → Failure} {a : α} : x.mapError f = .ok a ↔ x = .ok a := by
  cases x <;> simp [Except.mapError]

/-- A list of results is what comes of a list, element by element. -/
theorem mapM_eq_ok_iff {f : α → Except Failure β} {l : List α} {ys : List β} :
    l.mapM f = .ok ys ↔ l.map f = ys.map .ok := by
  induction l generalizing ys with
  | nil =>
    rw [List.mapM_nil, List.map_nil, List.nil_eq, List.map_eq_nil_iff]
    exact ⟨fun h => by cases h; rfl, fun h => by rw [h]; rfl⟩
  | cons a l ih =>
    rw [List.mapM_cons, bind_eq_ok, List.map_cons, eq_comm, List.map_eq_cons_iff]
    constructor
    · rintro ⟨y, hy, h⟩
      obtain ⟨later, hlater, h⟩ := bind_eq_ok.1 h
      cases h
      exact ⟨y, later, rfl, hy.symm, (ih.1 hlater).symm⟩
    · rintro ⟨y, later, rfl, hy, hlater⟩
      exact ⟨y, hy.symm, bind_eq_ok.2 ⟨later, ih.2 hlater.symm, rfl⟩⟩

section

variable {f : α → Except Failure β} {l : List α} {ys : List β} (h : l.mapM f = .ok ys)

include h

/-- What comes of a list is what comes of its elements. -/
theorem mem_of_mapM_ok {y : β} : y ∈ ys ↔ ∃ a ∈ l, f a = .ok y := by
  rw [← List.mem_map, mapM_eq_ok_iff.1 h, List.mem_map_of_injective fun _ _ heq => Except.ok.inj heq]

/-- Something comes of every element. -/
theorem exists_of_mapM_ok {a : α} (ha : a ∈ l) : ∃ y ∈ ys, f a = .ok y := by
  have hmem : f a ∈ ys.map .ok := mapM_eq_ok_iff.1 h ▸ List.mem_map_of_mem ha
  obtain ⟨y, hy, heq⟩ := List.mem_map.1 hmem
  exact ⟨y, hy, heq.symm⟩

theorem length_of_mapM_ok : ys.length = l.length := by
  simpa using (congrArg List.length (mapM_eq_ok_iff.1 h)).symm

/-- What stands at a place comes of what stands there. -/
theorem getElem?_of_mapM_ok {i : Nat} {y : β} (hy : ys[i]? = some y) : ∃ a, l[i]? = some a ∧ f a = .ok y := by
  have hplace : (l.map f)[i]? = some (.ok y) := by
    rw [mapM_eq_ok_iff.1 h, List.getElem?_map, hy, Option.map_some]
  rwa [List.getElem?_map, Option.map_eq_some_iff] at hplace

/-- Elements that agree with what they are made of, in order. -/
theorem map_of_mapM_ok {γ : Type} {g : β → γ} {k : α → γ} (hf : ∀ a ∈ l, ∀ y, f a = .ok y → g y = k a) :
    ys.map g = l.map k := by
  refine List.ext_getElem (by simp [length_of_mapM_ok h]) fun i hi _ => ?_
  rw [List.length_map] at hi
  obtain ⟨a, ha, hfa⟩ := getElem?_of_mapM_ok h (List.getElem?_eq_getElem hi)
  obtain ⟨hplace, rfl⟩ := List.getElem?_eq_some_iff.1 ha
  rw [List.getElem_map, List.getElem_map]
  exact hf _ (List.getElem_mem hplace) _ hfa

end

/-! ### What success hinges on -/

namespace Failure

/-- Code was asked for a type that cannot be carried. -/
def IsType : Failure → Prop
  | unsupportedType _ _ => True
  | _ => False

/-- A name is qualified by a text that cannot be read. -/
def IsSpelling : Failure → Prop
  | qualification _ => True
  | _ => False

end Failure

/-- The computation succeeds if its types can be carried and its names can be spelled, and fails over what
cannot otherwise. -/
structure Hinges (x : Except Failure α) (types spellings : Prop) : Prop where
  /-- Under both conditions there is a result. -/
  ok_of : types → spellings → ∃ a, x = .ok a
  /-- There is a result under both conditions only. -/
  of_ok : ∀ a, x = .ok a → types ∧ spellings
  /-- A failure is over a condition that does not hold. -/
  of_error : ∀ e, x = .error e → e.IsType ∧ ¬ types ∨ e.IsSpelling ∧ ¬ spellings

namespace Hinges

variable {x : Except Failure α} {types types' spellings spellings' : Prop}

/-- A result is there for a type that can be carried. -/
theorem carried {a : α} (h : types) : Hinges (.ok a : Except Failure α) types True where
  ok_of _ _ := ⟨a, rfl⟩
  of_ok _ _ := ⟨h, trivial⟩
  of_error _ h' := nomatch h'

theorem ok (a : α) : Hinges (.ok a : Except Failure α) True True := carried trivial

/-- A failure over a type is there for one that cannot be carried. -/
theorem refused {name : String} {use : TypeUse} (h : ¬ types) :
    Hinges (.error (.unsupportedType name use) : Except Failure α) types True where
  ok_of ht := absurd ht h
  of_ok _ h' := nomatch h'
  of_error _ h' := by
    cases h'
    exact .inl ⟨trivial, h⟩

theorem congr (h : Hinges x types spellings) (ht : types ↔ types') (hs : spellings ↔ spellings') :
    Hinges x types' spellings' := by
  rwa [← propext ht, ← propext hs]

theorem ok_iff (h : Hinges x types spellings) : (∃ a, x = .ok a) ↔ types ∧ spellings :=
  ⟨fun ⟨a, ha⟩ => h.of_ok a ha, fun ⟨ht, hs⟩ => h.ok_of ht hs⟩

theorem map (h : Hinges x types spellings) (f : α → β) : Hinges (x.map f) types spellings where
  ok_of ht hs := by
    obtain ⟨a, rfl⟩ := h.ok_of ht hs
    exact ⟨f a, rfl⟩
  of_ok b hb := by
    obtain ⟨a, ha, -⟩ := map_eq_ok.1 hb
    exact h.of_ok a ha
  of_error e he := by
    cases x with
    | error e' =>
      cases he
      exact h.of_error e rfl
    | ok a => cases he

/-- A sequence hinges on what its steps hinge on. -/
theorem bind {f : α → Except Failure β} (h : Hinges x types spellings)
    (hf : ∀ a, x = .ok a → Hinges (f a) types' spellings') :
    Hinges (x >>= f) (types ∧ types') (spellings ∧ spellings') where
  ok_of ht hs := by
    obtain ⟨a, ha⟩ := h.ok_of ht.1 hs.1
    obtain ⟨b, hb⟩ := (hf a ha).ok_of ht.2 hs.2
    exact ⟨b, bind_eq_ok.2 ⟨a, ha, hb⟩⟩
  of_ok b hb := by
    obtain ⟨a, ha, hb⟩ := bind_eq_ok.1 hb
    obtain ⟨ht, hs⟩ := h.of_ok a ha
    obtain ⟨ht', hs'⟩ := (hf a ha).of_ok b hb
    exact ⟨⟨ht, ht'⟩, ⟨hs, hs'⟩⟩
  of_error e he := by
    cases hx : x with
    | error e' =>
      rw [hx] at he
      cases he
      exact (h.of_error _ hx).imp (And.imp_right (mt And.left)) (And.imp_right (mt And.left))
    | ok a =>
      rw [hx] at he
      exact ((hf a hx).of_error e he).imp (And.imp_right (mt And.right)) (And.imp_right (mt And.right))

/-- What comes of a list hinges on what each of its elements hinges on. -/
theorem mapM {f : α → Except Failure β} {types spellings : α → Prop} {l : List α}
    (h : ∀ a ∈ l, Hinges (f a) (types a) (spellings a)) :
    Hinges (l.mapM f) (∀ a ∈ l, types a) (∀ a ∈ l, spellings a) := by
  induction l with
  | nil =>
    rw [List.mapM_nil]
    exact (ok []).congr (by simp) (by simp)
  | cons a l ih =>
    rw [List.mapM_cons]
    have hl := ih fun b hb => h b (List.mem_cons_of_mem a hb)
    refine ((h a List.mem_cons_self).bind fun b _ => hl.bind fun bs _ => ok (b :: bs)).congr ?_ ?_
    · simp
    · simp

end Hinges

end ScriptGlue
