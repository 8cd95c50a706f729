import ScriptGlue.Symbol.Group

/-!
# Directives

Instructions that a description carries in brackets, as `[key]` or `[key: value]`. Those that are
recognized take effect on the symbol and are cut out of the description together with the period that
ends their sentence; what is left is searched again from its beginning until nothing is recognized.
-/

namespace ScriptGlue

open ScriptGlue.Text

/-- An instruction in a description. -/
inductive Directive where
  /-- Shown together with the member of the given name. -/
  | similarOverload (name : String)
  /-- Listed by the given title. -/
  | indexTitle (title : String)
  /-- Not listed. -/
  | hideIndex
  /-- Listed under the given category. -/
  | category (name : String)
  /-- Shown together with the overloads before it. -/
  | groupSyntax
  deriving DecidableEq, Repr

namespace Directive

/-- The value after the colon, empty unless there is exactly one colon. -/
def valueOf (span : List Char) : String :=
  match splitAtChar ':' span with
  | [_, value] => String.ofList (trimChars value)
  | _ => ""

/-- The directive between two brackets, if it is one. Only the beginning of the key counts, in either
case. -/
def ofSpan? (inner : List Char) : Option Directive :=
  let span := trimChars inner
  let hasKey (key : String) : Bool := key.toList.isPrefixOf (span.map Char.toLower)
  let value := valueOf span
  if hasKey "similaroverload" && !value.isEmpty then some (.similarOverload value)
  else if hasKey "indextitle" && !value.isEmpty then some (.indexTitle value)
  else if hasKey "hideindex" then some .hideIndex
  else if hasKey "category" then some (.category value)
  else if hasKey "groupsyntax" then some .groupSyntax
  else none

/-! ### Cutting -/

/-- What is left of a text when the span between two parts of it is taken out. The period that ends the
sentence of the span goes too: the one that follows it, or else the one that ends the text when there is
no other after the span. -/
def joinAround (before after : List Char) : List Char :=
  let before := trimEndChars before
  let after := trimStartChars after
  let after :=
    match after with
    | '.' :: rest => trimStartChars rest
    | _ =>
      if after.getLast? == some '.' && after.count '.' == 1 then trimEndChars after.dropLast else after
  if before.isEmpty then trimChars after
  else if after.isEmpty then trimChars before
  else before ++ ' ' :: after

/-- The place in a text that an index means; a negative index counts from the end. -/
def placeOf (text : String) (index : Int) : Nat :=
  (if index < 0 then text.length + index else index).toNat

/-- The text without the characters from `start` up to `stop`, and without the period that ends them. -/
def cut (text : String) (start stop : Nat) : String :=
  String.ofList (joinAround (text.toList.take start) (text.toList.drop stop))

theorem length_trimStartChars_le (s : List Char) : (trimStartChars s).length ≤ s.length :=
  (List.dropWhile_suffix _).length_le

theorem length_trimEndChars_le (s : List Char) : (trimEndChars s).length ≤ s.length := by
  simpa [trimEndChars] using (List.dropWhile_suffix (l := s.reverse) isBlank).length_le

theorem length_trimChars_le (s : List Char) : (trimChars s).length ≤ s.length :=
  Nat.le_trans (length_trimEndChars_le _) (length_trimStartChars_le s)

/-- At most one character is added. -/
theorem length_joinAround_le (before after : List Char) :
    (joinAround before after).length ≤ before.length + after.length + 1 := by
  have hb := length_trimEndChars_le before
  have ha := length_trimStartChars_le after
  have key : ∀ a : List Char, a.length ≤ after.length →
      (if (trimEndChars before).isEmpty then trimChars a
        else if a.isEmpty then trimChars (trimEndChars before)
        else trimEndChars before ++ ' ' :: a).length ≤ before.length + after.length + 1 := by
    intro a h
    have := length_trimChars_le a
    have := length_trimChars_le (trimEndChars before)
    split
    · omega
    · split
      · omega
      · simp only [List.length_append, List.length_cons]; omega
  unfold joinAround
  apply key
  split
  · next rest heq =>
    have := length_trimStartChars_le rest
    simp only [heq, List.length_cons] at ha
    omega
  · split
    · have := length_trimEndChars_le (trimStartChars after).dropLast
      simp only [List.length_dropLast] at this
      omega
    · exact ha

/-! ### Scanning -/

/-- The first span in brackets: what stands before it, inside it and after it. -/
def nextSpan? (s : List Char) : Option (List Char × List Char × List Char) :=
  (cutFirst ['['] s).bind fun (before, rest) =>
    (cutFirst [']'] rest).map fun (inner, after) => (before, inner, after)

theorem nextSpan?_length {s before inner after : List Char} (h : nextSpan? s = some (before, inner, after)) :
    before.length + inner.length + after.length + 2 = s.length := by
  simp only [nextSpan?, Option.bind_eq_some_iff, Option.map_eq_some_iff, Prod.exists, Prod.mk.injEq] at h
  obtain ⟨b, rest, hopen, i, a, hclose, rfl, rfl, rfl⟩ := h
  have h₁ := cutFirst_length hopen
  have h₂ := cutFirst_length hclose
  simp only [List.length_cons, List.length_nil] at h₁ h₂
  omega

/-- The first directive of a text: what stands before it and after it. -/
def first? (s : List Char) : Option (List Char × Directive × List Char) :=
  match h : nextSpan? s with
  | none => none
  | some (before, inner, after) =>
    have := nextSpan?_length h
    match ofSpan? inner with
    | some d => some (before, d, after)
    | none => (first? after).map fun (b, d, a) => (before ++ '[' :: inner ++ ']' :: b, d, a)
termination_by s.length
decreasing_by omega

theorem first?_length {s before after : List Char} {d : Directive} (h : first? s = some (before, d, after)) :
    before.length + after.length + 2 ≤ s.length := by
  fun_induction first? s generalizing before after d with
  | case1 => simp at h
  | case2 s b i a hspan hlen e he =>
    simp only [Option.some.injEq, Prod.mk.injEq] at h
    obtain ⟨rfl, -, rfl⟩ := h
    omega
  | case3 s b i a hspan hlen he ih =>
    simp only [Option.map_eq_some_iff, Prod.exists, Prod.mk.injEq] at h
    obtain ⟨b', d', a', hfirst, rfl, rfl, rfl⟩ := h
    have := ih hfirst
    simp only [List.length_append, List.length_cons]
    omega

/-- The directives of a text in the order in which they are found, and the text without them. -/
def extractFrom (s : List Char) : List Directive × List Char :=
  match h : first? s with
  | none => ([], s)
  | some (before, d, after) =>
    have := first?_length h
    have := length_joinAround_le before after
    let (later, rest) := extractFrom (joinAround before after)
    (d :: later, rest)
termination_by s.length
decreasing_by omega

/-- The directives of a description, and the description without them. -/
def extract (text : String) : List Directive × String :=
  let (found, rest) := extractFrom (trimChars text.toList)
  (found, String.ofList rest)

/-! ### Effects -/

/-- A symbol and the groups after a directive; `sibling?` finds another member of the same compound by
name. -/
def apply (sibling? : String → Option String) (state : Symbol × OverloadGroups) :
    Directive → Symbol × OverloadGroups
  | .similarOverload name =>
    match sibling? name with
    | some head => (state.1, state.2.link state.1.id head)
    | none => state
  | .indexTitle title => ({ state.1 with indexTitle := some title }, state.2)
  | .hideIndex => ({ state.1 with indexTitle := some "" }, state.2)
  | .category name => ({ state.1 with category := name }, state.2)
  | .groupSyntax => ({ state.1 with groupSyntax := true }, state.2)

/-- A symbol and the groups after the directives of a text, and the text without them. -/
def applyText (sibling? : String → Option String) (text : String) (state : Symbol × OverloadGroups) :
    String × Symbol × OverloadGroups :=
  let (found, rest) := extract text
  (rest, found.foldl (apply sibling?) state)

/-- A symbol and the groups after the directives of its three descriptions, which lose them. -/
def applyAll (sibling? : String → Option String) (state : Symbol × OverloadGroups) : Symbol × OverloadGroups :=
  let (brief, s, g) := applyText sibling? state.1.brief state
  let s := { s with brief }
  let (detailed, s, g) := applyText sibling? s.detailed (s, g)
  let s := { s with detailed }
  let (inbody, s, g) := applyText sibling? s.inbody (s, g)
  ({ s with inbody }, g)

/-- The first other member of the given name, the member at position `i` asking. -/
def siblingOf? (members : List Member) (i : Nat) (name : String) : Option String :=
  ((members.eraseIdx i).find? (·.name == name)).map (·.id)

/-- The members from position `i` on after the directives of their descriptions, and the groups. -/
def applyMembers (siblings : List Member) : Nat → List Member → OverloadGroups → List Member × OverloadGroups
  | _, [], g => ([], g)
  | i, m :: rest, g =>
    let (s, g) := applyAll (siblingOf? siblings i) (m.toSymbol, g)
    let (rest, g) := applyMembers siblings (i + 1) rest g
    ({ m with toSymbol := s } :: rest, g)

/-- A compound after the directives of its descriptions and of those of its members, and the groups. -/
def applyCompound (c : Compound) (g : OverloadGroups) : Compound × OverloadGroups :=
  let (s, g) := applyAll (fun _ => none) (c.toSymbol, g)
  let (members, g) := applyMembers c.members 0 c.members g
  ({ toSymbol := s, members }, g)

end Directive

end ScriptGlue
