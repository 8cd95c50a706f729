import Mathlib.Data.List.Induction
import ScriptGlue.Proofs.CapturedSections
import ScriptGlue.Proofs.Documents
import ScriptGlue.Proofs.Respacing
import ScriptGlue.Proofs.SpelledNumbers

/-!
# The numbers of enumerators

An enumerator without initializer has the number that follows from the initializers up to its own: it is counted on from the
nearest literal before it. Reading an enumeration keeps just one number from one enumerator to the next, and
**`readEnumerators_numbering`** says that this is enough, and that the values read as literals are the numbers of the
language. A number with more than `maxDecimalDigits` digits has no spelling, and the enumeration ends before it.
-/

namespace ScriptGlue

open ScriptGlue.Text ScriptGlue.Cpp ScriptGlue.Xml

/-! ### Numbers and values -/

/-- The initializers of the enumerators of an enumeration, empty for an enumerator without one. -/
def initializersOf (e : Element) : List String := (e.named "enumvalue").map initializerOf

/-- The number reached after some initializers: that of the nearest literal, or `first` if there is none, and one more for each
enumerator without initializer since then. -/
def numberAfter (first : Int) (initializers : List String) : Int :=
  (initializers.reverse.findSome? readLiteral?).getD first +
    ((initializers.reverse.takeWhile fun text => (readLiteral? text).isNone).count "" : Nat)

/-- The number of the enumerator at a position, if it has no initializer. -/
def numberAt (first : Int) (initializers : List String) (i : Nat) : Int := numberAfter first (initializers.take (i + 1))

/-- The value of the enumerator at a position: its initializer, or the spelling of its number. -/
def valueAt (first : Int) (initializers : List String) (i : Nat) (initializer : String) : String :=
  if initializer.isEmpty then toString (numberAt first initializers i) else initializer

/-- The enumerator at a position has an initializer or a number that can be spelled. -/
def HasValue (first : Int) (initializers : List String) (i : Nat) : Prop :=
  initializers[i]? = some "" → (Nat.toDigits 10 (numberAt first initializers i).natAbs).length ≤ maxDecimalDigits

/-- The numbers that the language gives to enumerators with the given literals, or none: that of the literal, or one more
than the number before. -/
def numbering (before : Int) : List (Option Int) → List Int
  | [] => []
  | literal :: rest => literal.getD (before + 1) :: numbering (literal.getD (before + 1)) rest

/-! ### One enumerator after the other -/

/-- The number after one more initializer. -/
def countOn (last : Int) (initializer : String) : Int :=
  if initializer.isEmpty then last + 1 else (readLiteral? initializer).getD last

theorem readLiteral?_empty : readLiteral? "" = none := by decide

theorem numberAfter_concat (first : Int) (initializers : List String) (initializer : String) :
    numberAfter first (initializers ++ [initializer]) = countOn (numberAfter first initializers) initializer := by
  by_cases hempty : initializer = ""
  · subst hempty
    simp [numberAfter, countOn, readLiteral?_empty]
    omega
  · cases hread : readLiteral? initializer <;> simp [numberAfter, countOn, hread, hempty]

/-- The number after some initializers is counted on over them, one after the other. -/
theorem numberAfter_eq_foldl (first : Int) (initializers : List String) :
    numberAfter first initializers = initializers.foldl countOn first := by
  induction initializers using List.reverseRecOn with
  | nil => simp [numberAfter]
  | append_singleton initializers initializer ih => rw [numberAfter_concat, ih, List.foldl_append, List.foldl_cons, List.foldl_nil]

theorem numberAt_zero (first : Int) (initializer : String) (rest : List String) :
    numberAt first (initializer :: rest) 0 = countOn first initializer := by
  rw [numberAt, numberAfter_eq_foldl]
  rfl

theorem numberAt_succ (first : Int) (initializer : String) (rest : List String) (i : Nat) :
    numberAt first (initializer :: rest) (i + 1) = numberAt (countOn first initializer) rest i := by
  rw [numberAt, numberAt, numberAfter_eq_foldl, numberAfter_eq_foldl, List.take_succ_cons, List.foldl_cons]

theorem valueAt_succ (first : Int) (initializer : String) (rest : List String) (i : Nat) :
    valueAt first (initializer :: rest) (i + 1) = valueAt (countOn first initializer) rest i := by
  funext text
  rw [valueAt, valueAt, numberAt_succ]

theorem hasValue_zero (first : Int) (initializer : String) (rest : List String) :
    HasValue first (initializer :: rest) 0 ↔
      (initializer = "" → (Nat.toDigits 10 (countOn first initializer).natAbs).length ≤ maxDecimalDigits) := by
  rw [HasValue, numberAt_zero, List.getElem?_cons_zero, Option.some_inj]

theorem hasValue_succ (first : Int) (initializer : String) (rest : List String) (i : Nat) :
    HasValue first (initializer :: rest) (i + 1) ↔ HasValue (countOn first initializer) rest i := by
  rw [HasValue, HasValue, numberAt_succ, List.getElem?_cons_succ]

/-- All enumerators up to a position have a value if the first does and those after it do. -/
theorem forall_hasValue_succ (first : Int) (initializer : String) (rest : List String) (i : Nat) :
    (∀ j ≤ i + 1, HasValue first (initializer :: rest) j) ↔
      HasValue first (initializer :: rest) 0 ∧ ∀ j ≤ i, HasValue (countOn first initializer) rest j := by
  constructor
  · intro h
    exact ⟨h 0 (Nat.zero_le _), fun j hj => (hasValue_succ ..).1 (h (j + 1) (Nat.succ_le_succ hj))⟩
  · rintro ⟨hzero, hrest⟩ j hj
    cases j with
    | zero => exact hzero
    | succ j => exact (hasValue_succ ..).2 (hrest j (Nat.le_of_succ_le_succ hj))

/-- The enumerators end where the first has no value. -/
theorem enumeratorValues_of_not {first : Int} {initializer : String} {rest : List String}
    (h : ¬ HasValue first (initializer :: rest) 0) : enumeratorValues first (initializer :: rest) = [] := by
  rw [hasValue_zero, Classical.not_imp] at h
  obtain ⟨rfl, hlong⟩ := h
  have hspell : spell? (first + 1) = none := if_neg hlong
  simp [enumeratorValues, hspell]

/-- Where the first enumerator has a value, the number goes on to the next. -/
theorem enumeratorValues_of_hasValue {first : Int} {initializer : String} {rest : List String}
    (h : HasValue first (initializer :: rest) 0) :
    enumeratorValues first (initializer :: rest) =
      valueAt first (initializer :: rest) 0 initializer :: enumeratorValues (countOn first initializer) rest := by
  rw [hasValue_zero] at h
  rw [enumeratorValues, valueAt, numberAt_zero]
  by_cases hempty : initializer = ""
  · have hspell : spell? (first + 1) = some (toString (first + 1)) := if_pos (by simpa [countOn, hempty] using h hempty)
    simp [countOn, hempty, hspell]
  · simp [countOn, hempty]

/-- **One step after the other.** The enumerators before the first number that cannot be spelled have a value, and it is the one
that the initializers up to their own give. -/
theorem getElem?_enumeratorValues (first : Int) (initializers : List String) (i : Nat) (value : String) :
    (enumeratorValues first initializers)[i]? = some value ↔
      (∀ j ≤ i, HasValue first initializers j) ∧ initializers[i]?.map (valueAt first initializers i) = some value := by
  induction initializers generalizing first i with
  | nil => simp [enumeratorValues]
  | cons initializer rest ih =>
    by_cases hfirst : HasValue first (initializer :: rest) 0
    · rw [enumeratorValues_of_hasValue hfirst]
      cases i with
      | zero => simp [hfirst]
      | succ i =>
        rw [List.getElem?_cons_succ, ih, forall_hasValue_succ, List.getElem?_cons_succ, valueAt_succ, and_iff_right hfirst]
    · rw [enumeratorValues_of_not hfirst]
      simp only [List.getElem?_nil, reduceCtorEq, false_iff]
      exact fun h => hfirst (h.1 0 (Nat.zero_le i))

theorem length_enumeratorValues_le (first : Int) (initializers : List String) :
    (enumeratorValues first initializers).length ≤ initializers.length := by
  fun_induction enumeratorValues first initializers <;> simp <;> omega

/-- All enumerators have a value if all numbers can be spelled. -/
theorem length_enumeratorValues_iff (first : Int) (initializers : List String) :
    (enumeratorValues first initializers).length = initializers.length ↔ ∀ i, HasValue first initializers i := by
  induction initializers generalizing first with
  | nil => simp [enumeratorValues, HasValue]
  | cons initializer rest ih =>
    have hall : (∀ i, HasValue first (initializer :: rest) i) ↔
        HasValue first (initializer :: rest) 0 ∧ ∀ i, HasValue (countOn first initializer) rest i := by
      rw [← Nat.and_forall_add_one]
      simp only [hasValue_succ]
    by_cases hfirst : HasValue first (initializer :: rest) 0
    · rw [enumeratorValues_of_hasValue hfirst, hall, and_iff_right hfirst, ← ih, List.length_cons, List.length_cons,
        Nat.add_right_cancel_iff]
    · simp [enumeratorValues_of_not hfirst, hall, hfirst]

/-- Where no initializer is refused, each enumerator has the number of its literal or the one that follows. -/
theorem countOn_of_read {last : Int} {initializer : String}
    (h : initializer ≠ "" → (readLiteral? initializer).isSome = true) :
    countOn last initializer = (readLiteral? initializer).getD (last + 1) := by
  by_cases hempty : initializer = ""
  · simp [countOn, hempty, readLiteral?_empty]
  · obtain ⟨n, hn⟩ := Option.isSome_iff_exists.1 (h hempty)
    simp [countOn, hempty, hn]

/-- The value of the first enumerator, read as a literal. -/
theorem readLiteral?_valueAt_zero {first : Int} {initializer : String} {rest : List String}
    (hread : initializer ≠ "" → (readLiteral? initializer).isSome = true) (h : HasValue first (initializer :: rest) 0) :
    readLiteral? (valueAt first (initializer :: rest) 0 initializer) = some (countOn first initializer) := by
  rw [valueAt, numberAt_zero]
  by_cases hempty : initializer = ""
  · rw [if_pos (by rw [hempty]; rfl), readLiteral?_toString, if_pos ((hasValue_zero ..).1 h hempty)]
  · obtain ⟨n, hn⟩ := Option.isSome_iff_exists.1 (hread hempty)
    simp [countOn, hempty, hn]

/-- The values read as literals are the numbers of the language. -/
theorem map_readLiteral?_enumeratorValues {first : Int} {initializers : List String}
    (h : ∀ text ∈ initializers, text ≠ "" → (readLiteral? text).isSome = true) :
    (enumeratorValues first initializers).map readLiteral? =
      ((numbering first (initializers.map readLiteral?)).take (enumeratorValues first initializers).length).map some := by
  induction initializers generalizing first with
  | nil => rfl
  | cons initializer rest ih =>
    obtain ⟨hread, hrest⟩ := List.forall_mem_cons.1 h
    by_cases hfirst : HasValue first (initializer :: rest) 0
    · rw [enumeratorValues_of_hasValue hfirst, List.map_cons, readLiteral?_valueAt_zero hread hfirst, ih hrest, List.map_cons,
        numbering, ← countOn_of_read hread, List.length_cons, List.take_succ_cons, List.map_cons]
    · simp [enumeratorValues_of_not hfirst]

/-! ### Enumerations -/

theorem values_readEnumerators (owner : String) (e : Element) :
    (readEnumerators owner e).map (·.value) = enumeratorValues (-1) (initializersOf e) := by
  have hle : (enumeratorValues (-1) (initializersOf e)).length ≤ (e.named "enumvalue").length := by
    simpa [initializersOf] using length_enumeratorValues_le (-1) (initializersOf e)
  have hvalue (i : Nat) (item : Element × String) : (readEnumerator owner i item.1 item.2).value = item.2 :=
    Symbol.describe_value _ _
  refine List.ext_getElem? fun i => ?_
  calc ((readEnumerators owner e).map (·.value))[i]?
    _ = (((e.named "enumvalue").zip (enumeratorValues (-1) (initializersOf e)))[i]?).map Prod.snd := by
      rw [List.getElem?_map, readEnumerators, List.getElem?_mapIdx, Option.map_map]
      exact congrArg (Option.map · _) (funext (hvalue i))
    _ = (enumeratorValues (-1) (initializersOf e))[i]? := by rw [← List.getElem?_map, List.map_snd_zip hle]

theorem spellsEnumerators_iff (e : Element) :
    spellsEnumerators e = true ↔ ∀ i, HasValue (-1) (initializersOf e) i := by
  rw [← length_enumeratorValues_iff, spellsEnumerators, beq_iff_eq, initializersOf, List.length_map]

/-- Reading a compound fails for numbers that cannot be spelled only. -/
theorem eq_numberTooLong_of_addCompound {g : Graph} {e : Element} {failure : Failure}
    (h : (g.addCompound e).value.2 = some failure) : failure = .numberTooLong := by
  unfold Graph.addCompound at h
  dsimp only at h
  split at h <;> cases h
  rfl

/-- A compound is read unless a number of one of its enumerations cannot be spelled. -/
theorem addCompound_failure (g : Graph) (e : Element) :
    (g.addCompound e).value.2 = if isSpellable e then none else some .numberTooLong := by
  have hspec := g.addCompound_spec e
  unfold Graph.Adds at hspec
  cases hfailure : (g.addCompound e).value.2 with
  | none =>
    rw [hfailure] at hspec
    obtain ⟨cs, hfound, -⟩ := hspec
    cases hspell : isSpellable e with
    | true => rfl
    | false => simp [hspell] at hfound
  | some failure =>
    rw [hfailure] at hspec
    rw [eq_numberTooLong_of_addCompound hfailure]
    cases hspell : isSpellable e with
    | true => simp [hspell] at hspec
    | false => rfl

/-- A compound is not read if a number of one of its enumerations is too long. -/
theorem addCompound_of_not_hasValue (g : Graph) {compound e : Element} (hmember : e ∈ memberElements compound)
    (hkind : e.valueOf "kind" = "enum") (hname : startsWith (lineOf (e.find? "name")) "@" = false)
    (hlong : ¬ ∀ i, HasValue (-1) (initializersOf e) i) : (g.addCompound compound).value.2 = some .numberTooLong := by
  have hunspellable : isUnspellable e = true := by
    rw [← spellsEnumerators_iff] at hlong
    simp [isUnspellable, hkind, hname, hlong]
  have hspell : isSpellable compound = false := List.all_eq_false.2 ⟨e, hmember, by simp [hunspellable]⟩
  rw [addCompound_failure, hspell]
  rfl

/-- **Enumerators are numbered as in the language.** An enumerator has a value if no number up to its own is too long to be
spelled: its initializer, or the number counted on from the nearest literal before it, or from minus one. Where no initializer is
refused, the values read as literals are the numbers of the language. Where a number is too long, reading the compound fails. -/
theorem readEnumerators_numbering (owner : String) (e : Element) :
    (∀ i value, (readEnumerators owner e)[i]?.map (·.value) = some value ↔
      (∀ j ≤ i, HasValue (-1) (initializersOf e) j) ∧
        (initializersOf e)[i]?.map (valueAt (-1) (initializersOf e) i) = some value) ∧
    ((∀ text ∈ initializersOf e, text ≠ "" → (readLiteral? text).isSome = true) →
      ((readEnumerators owner e).map (·.value)).map readLiteral? =
        ((numbering (-1) ((initializersOf e).map readLiteral?)).take (readEnumerators owner e).length).map some) ∧
    (∀ g compound, e ∈ memberElements compound → e.valueOf "kind" = "enum" → startsWith (lineOf (e.find? "name")) "@" = false →
      ¬ (∀ i, HasValue (-1) (initializersOf e) i) → (Graph.addCompound g compound).value.2 = some .numberTooLong) := by
  have hvalues := values_readEnumerators owner e
  refine ⟨fun i value => ?_, fun hread => ?_, fun g _ hmember => addCompound_of_not_hasValue g hmember⟩
  · rw [← List.getElem?_map, hvalues]
    exact getElem?_enumeratorValues ..
  · have hlength : (readEnumerators owner e).length = (enumeratorValues (-1) (initializersOf e)).length := by
      rw [← hvalues, List.length_map]
    rw [hvalues, hlength]
    exact map_readLiteral?_enumeratorValues hread

example : enumeratorValues (-1) ["", "0x10", "", "first | last", "", "-3u", "", "010", ""] =
    ["0", "0x10", "17", "first | last", "18", "-3u", "-2", "010", "9"] := by
  decide +kernel

/-! ### The longest number -/

/-- A word after an equals sign and a space is on one line already. -/
theorem collapseChars_equals {s : List Char} (hne : s ≠ []) (h : ∀ c ∈ s, isBlank c = false) :
    collapseChars ('=' :: ' ' :: s) = '=' :: ' ' :: s := by
  have hwords : words ('=' :: ' ' :: s) = [['='], s] := by
    rw [words_eq, splitWords_keep (by decide), splitWords_blank (by decide), words_eq, splitWords_of_forall h]
    simp [hne]
  rw [collapseChars, hwords]
  simp [List.intercalate]

/-- An enumerator with a number for its initializer. -/
def enumeratorOf (n : Int) : Element :=
  ⟨"enumvalue", [], .element "initializer" [] (.text ("= " ++ toString n) .empty) .empty⟩

theorem initializerOf_enumeratorOf (n : Int) : initializerOf (enumeratorOf n) = toString n := by
  have hnumeric : ∀ c ∈ (toString n).toList, IsNumeric c := fun c => isNumeric_of_mem_toString
  have hchars : ("= " ++ toString n).toList = '=' :: ' ' :: (toString n).toList := String.toList_append ..
  have hline : lineOf ((enumeratorOf n).find? "initializer") = "= " ++ toString n := by
    have htext : lineOf ((enumeratorOf n).find? "initializer") = collapse ("= " ++ toString n ++ "") := rfl
    rw [htext, String.append_empty, collapse, hchars,
      collapseChars_equals (toList_toString_ne_nil n) fun c hc => (hnumeric c hc).isBlank, ← hchars, String.ofList_toList]
  have htrim : trimChars (' ' :: (toString n).toList) = (toString n).toList := trimChars_of_isNumeric hnumeric
  have hstart : startsWith ("= " ++ toString n) "=" = true := by
    rw [startsWith, hchars]
    rfl
  rw [initializerOf, hline, if_pos hstart, trim, dropStart, hchars, String.toList_ofList, List.drop_one, List.tail_cons, htrim,
    String.ofList_toList]

/-- The greatest number that can be spelled. -/
def longest : Nat := Nat.pow 10 maxDecimalDigits - 1

theorem length_toDigits_le_iff (n : Nat) : (Nat.toDigits 10 n).length ≤ maxDecimalDigits ↔ n ≤ longest := by
  have hlength (k : Nat) (hk : 0 < k) : (Nat.toDigits 10 n).length ≤ k ↔ n ≤ Nat.pow 10 k - 1 := by
    rw [Nat.length_toDigits_le_iff (by decide) hk, Nat.pow_eq]
    exact (Nat.le_sub_one_iff_lt (Nat.pow_pos (by decide))).symm
  rw [longest]
  exact hlength maxDecimalDigits (by decide)

/-- An enumeration that counts on from the greatest number that can be spelled. -/
def pastLongest : Element :=
  ⟨"memberdef", [("kind", "enum"), ("id", "big")],
    .element "name" [] (.text "Big" .empty) <|
    .element (enumeratorOf longest).tag [] (enumeratorOf longest).content <|
    .element "enumvalue" [] .empty .empty⟩

theorem initializersOf_pastLongest : initializersOf pastLongest = [toString (longest : Int), ""] := by
  have hnamed : pastLongest.named "enumvalue" = [enumeratorOf longest, ⟨"enumvalue", [], .empty⟩] := rfl
  rw [initializersOf, hnamed, List.map_cons, initializerOf_enumeratorOf]
  rfl

theorem numberAt_pastLongest : numberAt (-1) (initializersOf pastLongest) 1 = (longest + 1 : Nat) := by
  have hread : readLiteral? (toString (longest : Int)) = some (longest : Int) := by
    rw [readLiteral?_toString, if_pos]
    exact (length_toDigits_le_iff longest).2 (Nat.le_refl longest)
  have hempty : (toString (longest : Int)).isEmpty = false :=
    String.isEmpty_eq_false_iff.2 fun h => toList_toString_ne_nil longest (by rw [h]; rfl)
  rw [initializersOf_pastLongest, numberAt_succ, numberAt_zero, countOn, countOn, hempty, hread]
  rfl

theorem not_hasValue_pastLongest : ¬ HasValue (-1) (initializersOf pastLongest) 1 := by
  intro h
  have hshort := h (by rw [initializersOf_pastLongest]; rfl)
  rw [numberAt_pastLongest, Int.natAbs_natCast, length_toDigits_le_iff] at hshort
  omega

/-- A class with that enumeration. -/
def pastLongestClass : Element :=
  ⟨"compounddef", [("id", "c1"), ("kind", "class")],
    .element "compoundname" [] (.text "Scene" .empty) <|
    .element "sectiondef" [] (.element pastLongest.tag pastLongest.attributes pastLongest.content .empty) .empty⟩

/-- The number after the greatest that can be spelled is no value, so not every enumerator without initializer has the
spelling of its number, and the class cannot be read. -/
theorem readEnumerators_pastLongest :
    (initializersOf pastLongest)[1]? = some "" ∧
      (readEnumerators "big" pastLongest)[1]?.map (·.value) ≠ some (valueAt (-1) (initializersOf pastLongest) 1 "") ∧
      (Graph.addCompound {} pastLongestClass).value.2 = some .numberTooLong := by
  refine ⟨by rw [initializersOf_pastLongest]; rfl, fun h => ?_, ?_⟩
  · rw [← List.getElem?_map, values_readEnumerators, getElem?_enumeratorValues] at h
    exact not_hasValue_pastLongest (h.1 1 (Nat.le_refl 1))
  · have hmember : pastLongest ∈ memberElements pastLongestClass := List.mem_singleton_self _
    exact addCompound_of_not_hasValue {} hmember rfl (by decide +kernel) fun h => not_hasValue_pastLongest (h 1)

end ScriptGlue
