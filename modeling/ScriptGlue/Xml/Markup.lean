import ScriptGlue.Xml.Reference

/-!
# Markup

The pieces that the text of a document is made of: tags, character data, references, and the asides that
are dropped (comments and processing instructions).
-/

namespace ScriptGlue.Xml

open ScriptGlue.Text

/-- A piece of a document as it is written. -/
inductive Piece where
  /-- Characters that stand for themselves. -/
  | text (s : List Char)
  /-- Characters of a marked section, where nothing is markup. -/
  | marked (s : List Char)
  /-- A reference. -/
  | reference (r : Reference)
  /-- A start tag with its attributes as written; `closed` if it ends its element too. -/
  | start (name : List Char) (attributes : List (List Char × List Char)) (closed : Bool)
  /-- An end tag. -/
  | stop (name : List Char)
  /-- A comment or a processing instruction. -/
  | aside
  deriving DecidableEq, Repr

/-- What follows a comment whose opening has been read; two hyphens end it. -/
def skipComment? (s : List Char) : Option (List Char) := do
  match ← cutFirst ['-', '-'] s with
  | (_, '>' :: rest) => some rest
  | _ => none

theorem skipComment?_length {s rest : List Char} (h : skipComment? s = some rest) : rest.length < s.length := by
  simp only [skipComment?, Option.bind_eq_bind, Option.bind_eq_some_iff, Prod.exists] at h
  obtain ⟨before, after, hcut, h⟩ := h
  have := cutFirst_length hcut
  split at h
  · next heq =>
    simp only [Option.some.injEq, Prod.mk.injEq] at h heq
    obtain ⟨-, rfl⟩ := heq
    subst h
    simp only [List.length_cons] at this
    omega
  · simp at h

/-- What follows a processing instruction whose opening has been read; its name is not `xml`. -/
def skipInstruction? (abc : Alphabet) (s : List Char) : Option (List Char) := do
  let (name, rest) ← takeName? abc s
  if name.map Char.toLower == "xml".toList then none
  match rest with
  | '?' :: '>' :: rest => some rest
  | c :: rest => if isSpace c then (← cutFirst ['?', '>'] rest).2 else none
  | [] => none

theorem skipInstruction?_length {abc : Alphabet} {s rest : List Char}
    (h : skipInstruction? abc s = some rest) : rest.length < s.length := by
  simp only [skipInstruction?, Option.bind_eq_bind, Option.bind_eq_some_iff, Prod.exists] at h
  obtain ⟨name, later, hname, h⟩ := h
  have := takeName?_length hname
  split at h
  · simp at h
  · split at h
    · simp only [Option.some.injEq] at h
      subst h
      simp only [List.length_cons] at this
      omega
    · split at h
      · simp only [Option.bind_eq_some_iff, Option.some.injEq, Prod.exists] at h
        obtain ⟨before, after, hcut, rfl⟩ := h
        have := cutFirst_length hcut
        simp only [List.length_cons] at *
        omega
      · simp at h
    · simp at h

/-- A literal between quotes of either kind, and what follows it. -/
def takeLiteral? : List Char → Option (List Char × List Char)
  | c :: s => if c == '"' || c == '\'' then cutFirst [c] s else none
  | [] => none

theorem takeLiteral?_length {s chars rest : List Char} (h : takeLiteral? s = some (chars, rest)) :
    rest.length < s.length := by
  unfold takeLiteral? at h
  split at h
  · split at h
    · have := cutFirst_length h
      simp only [List.length_cons] at *
      omega
    · simp at h
  · simp at h

/-- The value of an attribute after its name, and what follows it. -/
def takeValue? (s : List Char) : Option (List Char × List Char) :=
  match skipSpace s with
  | '=' :: rest => takeLiteral? (skipSpace rest)
  | _ => none

theorem takeValue?_length {s value rest : List Char} (h : takeValue? s = some (value, rest)) :
    rest.length < s.length := by
  unfold takeValue? at h
  split at h
  · next later heq =>
    have := takeLiteral?_length h
    have := length_skipSpace_le later
    have := length_skipSpace_le s
    simp only [heq, List.length_cons] at this
    omega
  · simp at h

/-- The name and value of an attribute after white space, and what follows it. -/
def takeAttribute? (abc : Alphabet) (s : List Char) : Option ((List Char × List Char) × List Char) :=
  if s.head?.any isSpace then do
    let (name, rest) ← takeQualified? abc (skipSpace s)
    let (value, rest) ← takeValue? rest
    some ((name, value), rest)
  else none

theorem takeAttribute?_length {abc : Alphabet} {s rest : List Char} {entry : List Char × List Char}
    (h : takeAttribute? abc s = some (entry, rest)) : rest.length < s.length := by
  unfold takeAttribute? at h
  split at h
  · simp only [Option.bind_eq_bind, Option.bind_eq_some_iff, Prod.exists, Option.some.injEq, Prod.mk.injEq] at h
    obtain ⟨name, after, hname, value, later, hvalue, -, rfl⟩ := h
    have := takeQualified?_length hname
    have := takeValue?_length hvalue
    have := length_skipSpace_le s
    omega
  · simp at h

/-- The attributes of a start tag, whether it ends its element too, and what follows it. -/
def takeAttributes? (abc : Alphabet) (s : List Char) :
    Option (List (List Char × List Char) × Bool × List Char) :=
  match skipSpace s with
  | '>' :: rest => some ([], false, rest)
  | '/' :: '>' :: rest => some ([], true, rest)
  | _ =>
    match h : takeAttribute? abc s with
    | none => none
    | some (entry, rest) =>
      have := takeAttribute?_length h
      (takeAttributes? abc rest).map fun (attributes, closed, rest) => (entry :: attributes, closed, rest)
termination_by s.length

theorem takeAttributes?_length {abc : Alphabet} {s rest : List Char}
    {attributes : List (List Char × List Char)} {closed : Bool}
    (h : takeAttributes? abc s = some (attributes, closed, rest)) : rest.length < s.length := by
  fun_induction takeAttributes? abc s generalizing attributes closed rest with
  | case1 s after heq =>
    have := length_skipSpace_le s
    simp only [Option.some.injEq, Prod.mk.injEq] at h
    simp only [heq, List.length_cons, h] at this
    omega
  | case2 s after heq =>
    have := length_skipSpace_le s
    simp only [Option.some.injEq, Prod.mk.injEq] at h
    simp only [heq, List.length_cons, h] at this
    omega
  | case3 => simp at h
  | case4 s _ _ entry later hlater hle ih =>
    simp only [Option.map_eq_some_iff, Prod.exists, Prod.mk.injEq] at h
    obtain ⟨others, c, after, hrest, -, -, rfl⟩ := h
    have := ih hrest
    omega

/-- The name of an end tag whose opening has been read, and what follows the tag. -/
def takeStop? (abc : Alphabet) (s : List Char) : Option (List Char × List Char) := do
  let (name, rest) ← takeQualified? abc s
  match skipSpace rest with
  | '>' :: rest => some (name, rest)
  | _ => none

theorem takeStop?_length {abc : Alphabet} {s name rest : List Char}
    (h : takeStop? abc s = some (name, rest)) : rest.length < s.length := by
  simp only [takeStop?, Option.bind_eq_bind, Option.bind_eq_some_iff, Prod.exists] at h
  obtain ⟨n, later, hname, h⟩ := h
  have := takeQualified?_length hname
  have := length_skipSpace_le later
  split at h
  · next heq =>
    simp only [Option.some.injEq, Prod.mk.injEq] at h
    simp only [heq, List.length_cons, h] at this
    omega
  · simp at h

/-- A character of plain character data. -/
def isPlain (c : Char) : Bool := c != '<' && c != '&'

/-- The piece that a text begins with, and what follows it. -/
def takePiece? (abc : Alphabet) (s : List Char) : Option (Piece × List Char) :=
  match s with
  | [] => none
  | '<' :: '!' :: '-' :: '-' :: rest => (skipComment? rest).map (.aside, ·)
  | '<' :: '!' :: rest =>
    if "[CDATA[".toList.isPrefixOf rest then
      (cutFirst "]]>".toList (rest.drop 7)).map fun (chars, rest) => (.marked chars, rest)
    else none
  | '<' :: '?' :: rest => (skipInstruction? abc rest).map (.aside, ·)
  | '<' :: '/' :: rest => (takeStop? abc rest).map fun (name, rest) => (.stop name, rest)
  | '<' :: rest => do
    let (name, rest) ← takeQualified? abc rest
    let (attributes, closed, rest) ← takeAttributes? abc rest
    some (.start name attributes closed, rest)
  | '&' :: rest => (takeReference? abc rest).map fun (r, rest) => (.reference r, rest)
  | _ =>
    let chars := s.takeWhile isPlain
    if (cutFirst "]]>".toList chars).isSome then none else some (.text chars, s.dropWhile isPlain)

theorem takePiece?_length {abc : Alphabet} {s rest : List Char} {piece : Piece}
    (h : takePiece? abc s = some (piece, rest)) : rest.length < s.length := by
  unfold takePiece? at h
  split at h
  · simp at h
  · simp only [Option.map_eq_some_iff, Prod.mk.injEq] at h
    obtain ⟨later, hskip, -, rfl⟩ := h
    have := skipComment?_length hskip
    simp only [List.length_cons]
    omega
  · next later =>
    split at h
    · simp only [Option.map_eq_some_iff, Prod.exists, Prod.mk.injEq] at h
      obtain ⟨chars, after, hcut, -, rfl⟩ := h
      have := cutFirst_length hcut
      simp only [List.length_cons, List.length_drop] at *
      omega
    · simp at h
  · simp only [Option.map_eq_some_iff, Prod.mk.injEq] at h
    obtain ⟨later, hskip, -, rfl⟩ := h
    have := skipInstruction?_length hskip
    simp only [List.length_cons]
    omega
  · simp only [Option.map_eq_some_iff, Prod.exists, Prod.mk.injEq] at h
    obtain ⟨name, later, hstop, -, rfl⟩ := h
    have := takeStop?_length hstop
    simp only [List.length_cons]
    omega
  · simp only [Option.bind_eq_bind, Option.bind_eq_some_iff, Prod.exists, Option.some.injEq, Prod.mk.injEq] at h
    obtain ⟨name, later, hname, attributes, closed, after, hattributes, -, rfl⟩ := h
    have := takeQualified?_length hname
    have := takeAttributes?_length hattributes
    simp only [List.length_cons]
    omega
  · simp only [Option.map_eq_some_iff, Prod.exists, Prod.mk.injEq] at h
    obtain ⟨r, later, hreference, -, rfl⟩ := h
    have := takeReference?_length hreference
    simp only [List.length_cons]
    omega
  · next hnil _ _ _ _ htag href =>
    match s with
    | [] => exact absurd rfl hnil
    | c :: s =>
      have hc : isPlain c = true := by
        simp only [isPlain, Bool.and_eq_true, bne_iff_ne]
        exact ⟨fun heq => htag s (by rw [heq]), fun heq => href s (by rw [heq])⟩
      simp only [] at h
      split at h
      · simp at h
      · simp only [Option.some.injEq, Prod.mk.injEq] at h
        obtain ⟨-, rfl⟩ := h
        have := (List.dropWhile_suffix (l := s) isPlain).length_le
        simp only [List.dropWhile_cons, hc, if_true, List.length_cons]
        omega

/-- All pieces of a text. -/
def pieces? (abc : Alphabet) (s : List Char) : Option (List Piece) :=
  if s.isEmpty then some []
  else
    match h : takePiece? abc s with
    | none => none
    | some (piece, rest) =>
      have := takePiece?_length h
      (pieces? abc rest).map (piece :: ·)
termination_by s.length

end ScriptGlue.Xml
