import Mathlib.Data.List.Induction
import Mathlib.Data.List.Nodup
import Mathlib.Data.List.Perm.Basic
import Mathlib.Logic.Function.Basic
import ScriptGlue.OrderedMap

/-!
# Ordered maps as functions and as lists

A map has two views. As a function of its keys it is changed at one key by each insertion (`get?_insert`); as a list of
entries it grows at its end by new keys (`toList_insert_of_not_mem`). Maps that are made entry by entry come to
`tabulate` or to a list of entries.
-/

namespace ScriptGlue

/-! ### Lists without repetitions -/

/-- What is left without repetitions has none. -/
theorem nodup_eraseDups {α : Type} [BEq α] [LawfulBEq α] : (l : List α) → l.eraseDups.Nodup
  | [] => List.nodup_nil
  | a :: l => by
    rw [List.eraseDups_cons, List.nodup_cons]
    exact ⟨by simp [List.mem_eraseDups], nodup_eraseDups _⟩
termination_by l => l.length
decreasing_by exact Nat.lt_succ_of_le (List.length_filter_le _ _)

/-- One more element is left out if it is there. -/
theorem eraseDups_concat {α : Type} [DecidableEq α] (l : List α) (a : α) :
    (l ++ [a]).eraseDups = if a ∈ l.eraseDups then l.eraseDups else l.eraseDups ++ [a] := by
  rw [List.eraseDups_append, List.removeAll]
  by_cases h : a ∈ l
  · rw [if_pos (List.mem_eraseDups.2 h), List.filter_cons_of_neg (by simpa using h), List.filter_nil, List.eraseDups_nil,
      List.append_nil]
  · rw [if_neg (mt List.mem_eraseDups.1 h), List.filter_cons_of_pos (by simpa using h), List.filter_nil]
    rfl

namespace OrderedMap

variable {α β : Type}

/-! ### Entries -/

theorem mem_put {key : String} {value : α} {l : List (String × α)} {entry : String × α}
    (h : entry ∈ put key value l) : entry = (key, value) ∨ entry ∈ l := by
  induction l with
  | nil => exact .inl (List.mem_singleton.1 h)
  | cons first l ih =>
    rw [put] at h
    split at h
    · exact (List.mem_cons.1 h).imp id (List.mem_cons_of_mem first)
    · rcases List.mem_cons.1 h with rfl | h
      · exact .inr List.mem_cons_self
      · exact (ih h).imp id (List.mem_cons_of_mem first)

theorem mem_values_insert {m : OrderedMap α} {key : String} {value v : α} (h : v ∈ (m.insert key value).values) :
    v = value ∨ v ∈ m.values := by
  obtain ⟨⟨k, w⟩, hmem, rfl⟩ := List.mem_map.1 h
  rcases mem_put hmem with heq | hmem
  · cases heq
    exact .inl rfl
  · exact .inr (List.mem_map.2 ⟨(k, w), hmem, rfl⟩)

theorem mem_values_of_get? {m : OrderedMap α} {key : String} {v : α} (h : m.get? key = some v) : v ∈ m.values := by
  rw [get?, List.lookup_eq_some_iff] at h
  obtain ⟨before, after, hl, -⟩ := h
  rw [values, hl]
  simp

theorem contains_keys (m : OrderedMap α) (key : String) : m.keys.contains key = m.contains key := by
  rw [contains, get?, keys, List.contains_eq_mem]
  induction m.toList with
  | nil => rfl
  | cons first l ih =>
    obtain ⟨k, value⟩ := first
    rw [List.map_cons, List.lookup_cons]
    by_cases h : key = k
    · simp [h]
    · simpa [h, beq_false_of_ne h] using ih

/-! ### Maps given by a function -/

/-- The map with a value for each of some keys. -/
def tabulate (keys : List String) (value : String → α) : OrderedMap α := ⟨keys.map fun key => (key, value key)⟩

@[simp] theorem toList_tabulate (keys : List String) (value : String → α) :
    (tabulate keys value).toList = keys.map fun key => (key, value key) := rfl

@[simp] theorem keys_tabulate (keys : List String) (value : String → α) : (tabulate keys value).keys = keys := by
  simp [OrderedMap.keys, Function.comp_def]

theorem get?_tabulate (keys : List String) (value : String → α) (key : String) :
    (tabulate keys value).get? key = if key ∈ keys then some (value key) else none := by
  induction keys with
  | nil => rfl
  | cons first keys ih =>
    rw [get?, toList_tabulate] at ih
    rw [get?, toList_tabulate, List.map_cons, List.lookup_cons]
    by_cases h : key = first
    · subst h
      simp
    · rw [beq_false_of_ne h, ih]
      simp [h]

theorem tabulate_congr {keys : List String} {value value' : String → α} (h : ∀ key ∈ keys, value key = value' key) :
    tabulate keys value = tabulate keys value' := by
  simp only [tabulate, mk.injEq, List.map_inj_left, Prod.mk.injEq, true_and]
  exact h

/-- A key that is there gets a new value in its place. -/
theorem insert_tabulate_of_mem {keys : List String} (hkeys : keys.Nodup) (value : String → α) {key : String}
    (h : key ∈ keys) (new : α) :
    (tabulate keys value).insert key new = tabulate keys fun k => if k = key then new else value k := by
  simp only [insert, tabulate, mk.injEq]
  induction keys with
  | nil => cases h
  | cons first keys ih =>
    obtain ⟨hfirst, hkeys⟩ := List.nodup_cons.1 hkeys
    rw [List.map_cons, put, List.map_cons]
    by_cases heq : first = key
    · subst heq
      have hother : ∀ k ∈ keys, k ≠ first := fun k hk heq => hfirst (heq ▸ hk)
      simpa using fun k hk heq => absurd heq (hother k hk)
    · have hrest : key ∈ keys := (List.mem_cons.1 h).resolve_left fun h => heq h.symm
      simp [heq, ih hkeys hrest]

/-- A new key comes last. -/
theorem insert_tabulate_of_not_mem {keys : List String} (value : String → α) {key : String} (h : key ∉ keys) (new : α) :
    (tabulate keys value).insert key new = tabulate (keys ++ [key]) fun k => if k = key then new else value k := by
  simp only [insert, tabulate, mk.injEq]
  induction keys with
  | nil => simp [put]
  | cons first keys ih =>
    obtain ⟨hfirst, hrest⟩ := not_or.1 fun hor => h (List.mem_cons.2 hor)
    rw [List.map_cons, put, List.cons_append, List.map_cons]
    simp [Ne.symm hfirst, ih hrest]

/-! ### Maps as functions -/

theorem get?_insert (m : OrderedMap α) (key : String) (value : α) :
    (m.insert key value).get? = Function.update m.get? key (some value) := by
  funext k
  have hput : ∀ l : List (String × α), (put key value l).lookup k = if k = key then some value else l.lookup k := by
    intro l
    induction l with
    | nil =>
      by_cases h : k = key
      · simp [put, h]
      · simp [put, h, List.lookup_cons, beq_false_of_ne h]
    | cons first l ih =>
      obtain ⟨k', value'⟩ := first
      by_cases hfirst : k' = key
      · subst hfirst
        by_cases h : k = k'
        · simp [put, h]
        · simp [put, h, List.lookup_cons, beq_false_of_ne h]
      · by_cases h : k = k'
        · simp [put, h, hfirst]
        · simp [put, hfirst, List.lookup_cons, ih, beq_false_of_ne h]
  rw [Function.update_apply]
  exact hput m.toList

/-- Entries as a function of their keys. -/
theorem get?_foldl_insert (keyOf : β → String) (value : β → α) (l : List β) (m : OrderedMap α) :
    (l.foldl (fun m b => m.insert (keyOf b) (value b)) m).get? =
      l.foldl (fun f b => Function.update f (keyOf b) (some (value b))) m.get? := by
  induction l generalizing m with
  | nil => rfl
  | cons b l ih => rw [List.foldl_cons, List.foldl_cons, ih, get?_insert]

/-- A key that no entry is made for keeps its value. -/
theorem get?_foldl_insert_of_not_mem {keyOf : β → String} {value : β → α} {l : List β} {key : String}
    (h : ∀ b ∈ l, keyOf b ≠ key) (m : OrderedMap α) :
    (l.foldl (fun m b => m.insert (keyOf b) (value b)) m).get? key = m.get? key := by
  induction l generalizing m with
  | nil => rfl
  | cons b l ih =>
    rw [List.foldl_cons, ih fun b' hb' => h b' (List.mem_cons_of_mem b hb'), get?_insert,
      Function.update_of_ne (h b List.mem_cons_self).symm]

/-- Of several entries for a key the last counts. -/
theorem get?_foldl_insert_of_last {keyOf : β → String} {value : β → α} {before after : List β} {b : β}
    (h : ∀ b' ∈ after, keyOf b' ≠ keyOf b) (m : OrderedMap α) :
    ((before ++ b :: after).foldl (fun m b => m.insert (keyOf b) (value b)) m).get? (keyOf b) = some (value b) := by
  rw [List.foldl_append, List.foldl_cons, get?_foldl_insert_of_not_mem h, get?_insert, Function.update_self]

/-- Entries are made alike in maps with the same values. -/
theorem get?_foldl_insert_congr (keyOf : β → String) (value : β → α) (l : List β) {m m' : OrderedMap α} (hm : m.get? = m'.get?) :
    (l.foldl (fun m b => m.insert (keyOf b) (value b)) m).get? =
      (l.foldl (fun m b => m.insert (keyOf b) (value b)) m').get? := by
  rw [get?_foldl_insert, get?_foldl_insert, hm]

/-- Entries under different keys can be made in any order. -/
theorem get?_foldl_insert_perm (keyOf : β → String) (value : β → α) {l l' : List β} (h : l.Perm l')
    (hkeys : (l.map keyOf).Nodup) (m : OrderedMap α) :
    (l.foldl (fun m b => m.insert (keyOf b) (value b)) m).get? =
      (l'.foldl (fun m b => m.insert (keyOf b) (value b)) m).get? := by
  rw [get?_foldl_insert, get?_foldl_insert]
  refine h.foldl_eq' ?_ _
  intro x hx y hy f
  by_cases hxy : x = y
  · rw [hxy]
  · have hne : keyOf x ≠ keyOf y := fun hkey => hxy (List.inj_on_of_nodup_map hkeys hx hy hkey)
    exact Function.update_comm hne _ _ f

theorem toList_insert_of_not_mem {m : OrderedMap α} {key : String} (h : key ∉ m.keys) (value : α) :
    (m.insert key value).toList = m.toList ++ [(key, value)] := by
  have hput : ∀ l : List (String × α), key ∉ l.map (·.1) → put key value l = l ++ [(key, value)] := by
    intro l hl
    induction l with
    | nil => rfl
    | cons first l ih =>
      rw [List.map_cons, List.mem_cons, not_or] at hl
      simp [put, Ne.symm hl.1, ih hl.2]
  exact hput m.toList h

/-- Entries under new keys come after those that are there, in order. -/
theorem toList_foldl_insert_of_new {l : List (String × α)} {m : OrderedMap α} (hkeys : (m.keys ++ l.map (·.1)).Nodup) :
    (l.foldl (fun (m : OrderedMap α) entry => m.insert entry.1 entry.2) m).toList = m.toList ++ l := by
  induction l generalizing m with
  | nil => simp
  | cons entry l ih =>
    have hnew : entry.1 ∉ m.keys := fun hmem => (List.nodup_append.1 hkeys).2.2 _ hmem _ List.mem_cons_self rfl
    have hinsert := toList_insert_of_not_mem hnew entry.2
    have hlater : ((m.insert entry.1 entry.2).keys ++ l.map (·.1)).Nodup := by
      simpa [keys, hinsert] using hkeys
    rw [List.foldl_cons, ih hlater, hinsert]
    simp

/-- A map of some entries. -/
theorem toList_foldl_insert {l : List (String × α)} (hkeys : (l.map (·.1)).Nodup) :
    (l.foldl (fun (m : OrderedMap α) entry => m.insert entry.1 entry.2) ∅).toList = l := by
  have hnew : ((∅ : OrderedMap α).keys ++ l.map (·.1)).Nodup := hkeys
  rw [toList_foldl_insert_of_new hnew]
  rfl

/-- Maps with the same entries have the same values. -/
theorem get?_of_perm {m m' : OrderedMap α} (h : m.toList.Perm m'.toList) (hkeys : m.keys.Nodup) : m.get? = m'.get? := by
  have hmade : ∀ m : OrderedMap α, m.keys.Nodup → m.toList.foldl (fun m entry => m.insert entry.1 entry.2) ∅ = m :=
    fun m hm => congrArg OrderedMap.mk (toList_foldl_insert hm)
  have hperm : m.keys.Perm m'.keys := h.map Prod.fst
  have hkeys' : m'.keys.Nodup := hperm.nodup_iff.1 hkeys
  rw [← hmade m hkeys, ← hmade m' hkeys']
  exact get?_foldl_insert_perm Prod.fst Prod.snd h hkeys ∅

end OrderedMap

end ScriptGlue
