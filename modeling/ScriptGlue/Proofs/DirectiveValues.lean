import ScriptGlue.Proofs.DirectiveSpans

/-!
# Values of directives

What becomes of a description that is one directive, with a key in any letter case, a colon and a value. The value ends
at a colon of its own, and then it counts as none: a category becomes empty, and a title does not make a directive.
**`isStoredWhole_iff`** says that the values without a colon are those that are stored.
-/

namespace ScriptGlue.Directive

open ScriptGlue.Text

/-! ### A description that is one span -/

theorem nextSpan?_span {inner : List Char} (h : ']' ∉ inner) : nextSpan? ('[' :: inner ++ [']']) = some ([], inner, []) := by
  have hopen : cutFirst ['['] ('[' :: inner ++ [']']) = some ([], inner ++ [']']) :=
    cutFirst_append (s := []) List.not_mem_nil _
  have hclose : cutFirst [']'] (inner ++ [']']) = some (inner, []) := cutFirst_append h []
  rw [nextSpan?, hopen, Option.bind_some]
  simp only [hclose, Option.map_some]

theorem trimChars_span (inner : List Char) : trimChars ('[' :: inner ++ [']']) = '[' :: inner ++ [']'] := by
  rw [← List.singleton_append (l := inner), List.append_assoc, trimChars_append (by decide) (by decide),
    trimEndChars_concat (by decide) (by decide)]

theorem first?_span {inner : List Char} {d : Directive} (h : ']' ∉ inner) (hd : ofSpan? inner = some d) :
    first? ('[' :: inner ++ [']']) = some ([], d, []) := by
  unfold first?
  split
  · next hnone =>
    rw [nextSpan?_span h] at hnone
    cases hnone
  · next before span after hspan =>
    rw [nextSpan?_span h] at hspan
    cases hspan
    simp only [hd]

/-- Taking the first directive out. -/
theorem extractFrom_of_first? {s before after : List Char} {d : Directive} (h : first? s = some (before, d, after)) :
    extractFrom s = (d :: (extractFrom (joinAround before after)).1, (extractFrom (joinAround before after)).2) := by
  conv_lhs => unfold extractFrom
  split
  · next hnone =>
    rw [h] at hnone
    cases hnone
  · next hfound =>
    rw [h] at hfound
    cases hfound
    rfl

/-- A description that is a directive is consumed. -/
theorem extract_span {inner : List Char} {d : Directive} (h : ']' ∉ inner) (hd : ofSpan? inner = some d) :
    extract (String.ofList ('[' :: inner ++ [']'])) = ([d], "") := by
  have hempty : extractFrom (joinAround [] []) = ([], []) := by decide +kernel
  rw [extract, String.toList_ofList, trimChars_span, extractFrom_of_first? (first?_span h hd), hempty]

/-- A description that is another span in brackets is left as it is. -/
theorem extract_span_of_none {inner : List Char} (h : ']' ∉ inner) (hd : ofSpan? inner = none) :
    extract (String.ofList ('[' :: inner ++ [']'])) = ([], String.ofList ('[' :: inner ++ [']'])) := by
  refine extract_of_none ?_ fun span hspan => ?_
  · rw [trim, String.toList_ofList, trimChars_span]
  · have hscan : scan .outside ('[' :: inner ++ [']']) = (.outside, [inner]) := scan_span List.not_mem_nil h []
    rw [String.toList_ofList, spans, hscan] at hspan
    rw [List.mem_singleton.1 hspan, hd]

/-! ### Keys -/

/-- A key is the name of a directive in some letter case. -/
def IsKey (name key : String) : Prop := key.toList.map Char.toLower = name.toList

instance (name key : String) : Decidable (IsKey name key) := inferInstanceAs (Decidable (_ = _))

theorem toLower_of_blank {c : Char} (h : isBlank c = true) : c.toLower = c := by
  have hupper : ¬ ('A'.val ≤ c.val ∧ c.val ≤ 'Z'.val) := by
    intro hupper
    have hfrom : 65 ≤ c.toNat := UInt32.le_iff_toNat_le.1 hupper.1
    have hto : c.toNat ≤ 90 := UInt32.le_iff_toNat_le.1 hupper.2
    simp only [isBlank, Bool.or_eq_true, Bool.and_eq_true, decide_eq_true_eq, beq_iff_eq] at h
    omega
  exact dif_neg hupper

/-- A key has the characters of the name, but for their case. -/
theorem IsKey.not_mem {name key : String} (h : IsKey name key) {c : Char} (hc : c.toLower ∉ name.toList) : c ∉ key.toList := by
  intro hmem
  rw [← h] at hc
  exact hc (List.mem_map_of_mem hmem)

/-- A key is as solid as the name. -/
theorem IsKey.solid {name key : String} (h : IsKey name key) (hname : Solid name.toList) : Solid key.toList := by
  have hlower : ∀ c ∈ key.toList, c.toLower = c → isBlank c = false ∧ c ≠ '<' ∧ c ≠ '>' := by
    intro c hc hsame
    have hmem : c.toLower ∈ name.toList := h ▸ List.mem_map_of_mem hc
    rw [hsame] at hmem
    exact hname c hmem
  intro c hc
  refine ⟨?_, ?_, ?_⟩
  · by_contra hblank
    rw [Bool.not_eq_false] at hblank
    rw [(hlower c hc (toLower_of_blank hblank)).1] at hblank
    cases hblank
  · rintro rfl
    exact (hlower '<' hc rfl).2.1 rfl
  · rintro rfl
    exact (hlower '>' hc rfl).2.2 rfl

/-! ### Values -/

/-- What is between the brackets of a directive with a key and a value. -/
def between (key v : String) : List Char := key.toList ++ ':' :: v.toList

/-- A description that is one directive. -/
def spelled (key v : String) : String := String.ofList ('[' :: between key v ++ [']'])

/-- The part of a value that is read. -/
def readValue (v : String) : String := if ':' ∈ v.toList then "" else trim v

theorem trimChars_between {name key : String} (h : IsKey name key) (hname : Solid name.toList) (v : String) :
    trimChars (between key v) = key.toList ++ ':' :: trimEndChars v.toList := by
  have hcolon : Solid [':'] := by decide
  have hsolid : Solid (key.toList ++ [':']) := List.forall_mem_append.2 ⟨h.solid hname, hcolon⟩
  have hsplit : between key v = (key.toList ++ [':']) ++ v.toList := by simp [between]
  rw [hsplit, trimChars_append hsolid (by simp)]
  simp

theorem mem_trimEndChars {c : Char} (hc : isBlank c = false) (s : List Char) : c ∈ trimEndChars s ↔ c ∈ s := by
  obtain ⟨w, hw, hs⟩ := exists_blanks_end s
  conv_rhs => rw [hs, List.mem_append, or_iff_left (not_mem_of_blank hc hw)]

theorem valueOf_between {name key : String} (h : IsKey name key) (hname : Solid name.toList) (hcolon : ':' ∉ name.toList)
    (v : String) : valueOf (trimChars (between key v)) = readValue v := by
  have hkey : ':' ∉ key.toList := h.not_mem hcolon
  rw [trimChars_between h hname, valueOf, splitAtChar_append hkey, readValue]
  by_cases hv : ':' ∈ v.toList
  · obtain ⟨a, b, hab, ha⟩ := List.eq_append_cons_of_mem ((mem_trimEndChars (by decide) v.toList).2 hv)
    obtain ⟨piece, later, hlater⟩ := List.exists_cons_of_ne_nil (splitAtChar_ne_nil ':' b)
    rw [if_pos hv, hab, splitAtChar_append ha, hlater]
  · rw [if_neg hv, splitAtChar_of_not_mem (mt (mem_trimEndChars (by decide) _).1 hv)]
    simp only [trimChars_trimEndChars]
    rfl

theorem lower_between {name key : String} (h : IsKey name key) (hname : Solid name.toList) (v : String) :
    (trimChars (between key v)).map Char.toLower = name.toList ++ ':' :: (trimEndChars v.toList).map Char.toLower := by
  rw [trimChars_between h hname, List.map_append, h]
  rfl

theorem ofSpan?_category {key : String} (h : IsKey "category" key) (v : String) :
    ofSpan? (between key v) = some (.category (readValue v)) := by
  rw [ofSpan?, lower_between h (by decide), valueOf_between h (by decide) (by decide)]
  simp

/-- A title needs a value. -/
theorem ofSpan?_indexTitle {key : String} (h : IsKey "indextitle" key) (v : String) :
    ofSpan? (between key v) = if readValue v = "" then none else some (.indexTitle (readValue v)) := by
  rw [ofSpan?, lower_between h (by decide), valueOf_between h (by decide) (by decide)]
  by_cases hvalue : readValue v = "" <;> simp [hvalue]

theorem IsKey.not_mem_between {name key v : String} (h : IsKey name key) (hname : ']' ∉ name.toList) (hv : ']' ∉ v.toList) :
    ']' ∉ between key v := by
  have hkey : ']' ∉ key.toList := h.not_mem hname
  simp [between, hkey, hv]

section

variable (sibling? : String → Option String) (s : Symbol) (g : OverloadGroups) {key v : String}

theorem applyText_category (hkey : IsKey "category" key) (hv : ']' ∉ v.toList) :
    applyText sibling? (spelled key v) (s, g) = ("", { s with category := readValue v }, g) := by
  rw [applyText, spelled, extract_span (hkey.not_mem_between (by decide) hv) (ofSpan?_category hkey v)]
  rfl

theorem applyText_indexTitle (hkey : IsKey "indextitle" key) (hv : ']' ∉ v.toList) (hvalue : readValue v ≠ "") :
    applyText sibling? (spelled key v) (s, g) = ("", { s with indexTitle := some (readValue v) }, g) := by
  have hspan := ofSpan?_indexTitle hkey v
  rw [if_neg hvalue] at hspan
  rw [applyText, spelled, extract_span (hkey.not_mem_between (by decide) hv) hspan]
  rfl

theorem applyText_indexTitle_of_empty (hkey : IsKey "indextitle" key) (hv : ']' ∉ v.toList) (hvalue : readValue v = "") :
    applyText sibling? (spelled key v) (s, g) = (spelled key v, s, g) := by
  have hspan := ofSpan?_indexTitle hkey v
  rw [if_pos hvalue] at hspan
  rw [applyText, spelled, extract_span_of_none (hkey.not_mem_between (by decide) hv) hspan]
  rfl

end

/-- The directives with a category or a title store the value without the blanks around it and are consumed, whatever
symbol and groups they are applied to and in whatever case their keys are written. -/
def IsStoredWhole (v : String) : Prop :=
  ∀ (sibling? : String → Option String) (s : Symbol) (g : OverloadGroups) (key : String),
    (IsKey "category" key → applyText sibling? (spelled key v) (s, g) = ("", { s with category := trim v }, g)) ∧
    (IsKey "indextitle" key → applyText sibling? (spelled key v) (s, g) = ("", { s with indexTitle := some (trim v) }, g))

/-- A category loses the value though it is consumed, and a title is left in the description and not set. -/
def IsLost (v : String) : Prop :=
  ∀ (sibling? : String → Option String) (s : Symbol) (g : OverloadGroups) (key : String),
    (IsKey "category" key → applyText sibling? (spelled key v) (s, g) = ("", { s with category := "" }, g)) ∧
    (IsKey "indextitle" key → applyText sibling? (spelled key v) (s, g) = (spelled key v, s, g))

theorem isStoredWhole_of_not_mem {v : String} (hclosing : ']' ∉ v.toList) (hsaid : trim v ≠ "") (h : ':' ∉ v.toList) :
    IsStoredWhole v := by
  have hvalue : readValue v = trim v := if_neg h
  intro sibling? s g key
  constructor
  · intro hkey
    rw [applyText_category sibling? s g hkey hclosing, hvalue]
  · intro hkey
    rw [applyText_indexTitle sibling? s g hkey hclosing (by rwa [hvalue]), hvalue]

theorem isLost_of_mem {v : String} (hclosing : ']' ∉ v.toList) (h : ':' ∈ v.toList) : IsLost v := by
  have hvalue : readValue v = "" := if_pos h
  intro sibling? s g key
  constructor
  · intro hkey
    rw [applyText_category sibling? s g hkey hclosing, hvalue]
  · exact fun hkey => applyText_indexTitle_of_empty sibling? s g hkey hclosing hvalue

theorem IsLost.not_isStoredWhole {v : String} (h : IsLost v) (hsaid : trim v ≠ "") : ¬ IsStoredWhole v := by
  intro hwhole
  have hlost := (h (fun _ => none) {} {} "category").1 rfl
  rw [(hwhole (fun _ => none) {} {} "category").1 rfl] at hlost
  exact hsaid (congrArg (fun result => result.2.1.category) hlost)

/-- **A value is stored whole if it has no colon**, and is lost if it has one. -/
theorem isStoredWhole_iff {v : String} (hclosing : ']' ∉ v.toList) (hsaid : trim v ≠ "") :
    (IsStoredWhole v ↔ ':' ∉ v.toList) ∧ (IsLost v ↔ ':' ∈ v.toList) := by
  by_cases h : ':' ∈ v.toList
  · have hlost := isLost_of_mem hclosing h
    exact ⟨iff_of_false (hlost.not_isStoredWhole hsaid) (not_not.2 h), iff_of_true hlost h⟩
  · have hwhole := isStoredWhole_of_not_mem hclosing hsaid h
    exact ⟨iff_of_true hwhole h, iff_of_false (fun hlost => hlost.not_isStoredWhole hsaid hwhole) h⟩

/-- A value of two words is stored in both directives. -/
theorem isStoredWhole_soundEffects :
    ']' ∉ " Sound effects ".toList ∧ trim " Sound effects " ≠ "" ∧ IsStoredWhole " Sound effects " :=
  have hclosing : ']' ∉ " Sound effects ".toList := by decide
  have hsaid : trim " Sound effects " ≠ "" := by decide +kernel
  ⟨hclosing, hsaid, (isStoredWhole_iff hclosing hsaid).1.2 (by decide)⟩

/-- A qualified name is not stored, though it has no brackets. -/
theorem not_isStoredWhole_qualified :
    '[' ∉ "Math::Vectors".toList ∧ ']' ∉ "Math::Vectors".toList ∧ trim "Math::Vectors" ≠ "" ∧
      ¬ IsStoredWhole "Math::Vectors" :=
  have hclosing : ']' ∉ "Math::Vectors".toList := by decide
  have hsaid : trim "Math::Vectors" ≠ "" := by decide +kernel
  ⟨by decide, hclosing, hsaid, (isLost_of_mem hclosing (by decide)).not_isStoredWhole hsaid⟩

end ScriptGlue.Directive
