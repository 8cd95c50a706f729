import ScriptGlue.Xml.Growth

/-!
# Document type declarations

The declarations that a document carries in its internal subset. Entities and attribute defaults are
kept; element and notation declarations are read and dropped. Nothing outside the document is read, so
after a reference to a parameter entity further declarations have no effect.
-/

namespace ScriptGlue.Xml

open ScriptGlue.Text

/-- A token of a declaration; white space only separates tokens. -/
inductive DeclarationToken where
  /-- A name, a keyword or a word that begins with `#`. -/
  | word (s : List Char)
  /-- A literal without its quotes. -/
  | literal (s : List Char)
  /-- A mark on its own. -/
  | mark (c : Char)
  deriving DecidableEq, Repr

/-- A character of a word of a declaration. -/
def isWordOfDeclaration (abc : Alphabet) (c : Char) : Bool := isNameChar abc c || c == ':' || c == '#'

/-- What may follow a word directly. -/
def endsWord : List Char → Bool
  | c :: _ => isSpace c || ">)|,[%*+?".toList.contains c
  | [] => false

/-- What may follow a literal directly. -/
def endsLiteral : List Char → Bool
  | c :: _ => isSpace c || ">[%".toList.contains c
  | [] => false

/-- What may follow a mark directly: a percent sign stands alone, and a group ends before white space or
another mark. -/
def endsMark (c : Char) : List Char → Bool
  | d :: _ => if c == '%' then isSpace d else c != ')' || isSpace d || "*?+>,|)".toList.contains d
  | [] => false

/-- The token that a text begins with, and what follows it. -/
def takeDeclarationToken? (abc : Alphabet) : List Char → Option (DeclarationToken × List Char)
  | [] => none
  | c :: s =>
    if c == '"' || c == '\'' then
      ((cutFirst [c] s).filter (endsLiteral ·.2)).map fun (chars, rest) => (.literal chars, rest)
    else if "()|,%".toList.contains c then
      if endsMark c s then some (.mark c, s) else none
    else if isWordOfDeclaration abc c then
      let rest := s.dropWhile (isWordOfDeclaration abc)
      if endsWord rest then some (.word (c :: s.takeWhile (isWordOfDeclaration abc)), rest) else none
    else none

theorem takeDeclarationToken?_length {abc : Alphabet} {s rest : List Char} {token : DeclarationToken}
    (h : takeDeclarationToken? abc s = some (token, rest)) : rest.length < s.length := by
  unfold takeDeclarationToken? at h
  split at h
  · simp at h
  · next c s =>
    simp only [List.length_cons]
    split at h
    · simp only [Option.map_eq_some_iff, Option.filter_eq_some_iff, Prod.exists, Prod.mk.injEq] at h
      obtain ⟨chars, after, ⟨hcut, -⟩, -, rfl⟩ := h
      have := cutFirst_length hcut
      omega
    · split at h
      · split at h
        · simp only [Option.some.injEq, Prod.mk.injEq] at h
          obtain ⟨-, rfl⟩ := h
          omega
        · simp at h
      · split at h
        · simp only [] at h
          split at h
          · simp only [Option.some.injEq, Prod.mk.injEq] at h
            obtain ⟨-, rfl⟩ := h
            have := (List.dropWhile_suffix (l := s) (isWordOfDeclaration abc)).length_le
            omega
          · simp at h
        · simp at h

/-- The mark directly after a token that says how often it may come, if there is one, and what follows
it. Only words and groups are counted. -/
def takeOccurrence (token : DeclarationToken) (s : List Char) : List DeclarationToken × List Char :=
  match token, s with
  | .word _, c :: rest | .mark ')', c :: rest => if "?*+".toList.contains c then ([.mark c], rest) else ([], s)
  | _, _ => ([], s)

theorem length_takeOccurrence_le (token : DeclarationToken) (s : List Char) :
    (takeOccurrence token s).2.length ≤ s.length := by
  unfold takeOccurrence
  split
  · split <;> simp
  · split <;> simp
  · simp

/-- The tokens up to the end of a declaration, each with the text after it, and what follows the declaration. -/
def declarationTokens? (abc : Alphabet) (s : List Char) :
    Option (List (DeclarationToken × List Char) × List Char) :=
  match skipSpace s with
  | '>' :: rest => some ([], rest)
  | _ =>
    match h : takeDeclarationToken? abc (skipSpace s) with
    | none => none
    | some (token, rest) =>
      have := takeDeclarationToken?_length h
      have := length_skipSpace_le s
      have := length_takeOccurrence_le token rest
      (declarationTokens? abc (takeOccurrence token rest).2).map fun (tokens, after) =>
        ((token, rest) :: ((takeOccurrence token rest).1.map (·, rest) ++ tokens), after)
termination_by s.length

theorem declarationTokens?_length {abc : Alphabet} {s rest : List Char}
    {tokens : List (DeclarationToken × List Char)}
    (h : declarationTokens? abc s = some (tokens, rest)) : rest.length < s.length := by
  fun_induction declarationTokens? abc s generalizing tokens rest with
  | case1 s after heq =>
    have := length_skipSpace_le s
    simp only [Option.some.injEq, Prod.mk.injEq] at h
    simp only [heq, List.length_cons, h] at this
    omega
  | case2 => simp at h
  | case3 s _ token later _ _ _ _ ih =>
    simp only [Option.map_eq_some_iff, Prod.exists, Prod.mk.injEq] at h
    obtain ⟨others, after, hrest, -, rfl⟩ := h
    have := ih hrest
    omega

/-- The word is the given keyword. -/
def isKeyword (s : List Char) (keyword : String) : Bool := s == keyword.toList

/-- A name without a colon and nothing else. -/
def isName (abc : Alphabet) (s : List Char) : Bool := (takeName? abc s).any (·.2.isEmpty)

/-- A name of an element or attribute as declarations have it: after its colon any character of a name may come
first. -/
def isQualifiedName (abc : Alphabet) (s : List Char) : Bool :=
  match cutFirst [':'] s with
  | none => isName abc s
  | some (start, rest) => isName abc start && !rest.isEmpty && rest.all (isNameChar abc)

/-- Characters of a name, in any order. -/
def isNameToken (abc : Alphabet) (s : List Char) : Bool := s.all fun c => isNameChar abc c || c == ':'

/-- The text that an entity literal declares: references to characters are replaced, those to entities
stay as they are. -/
def entityText? (abc : Alphabet) (s : List Char) : Option (List Char) :=
  match s with
  | [] => some []
  | '%' :: _ => none
  | '&' :: rest =>
    match h : takeReference? abc rest with
    | none => none
    | some (r, later) =>
      have := takeReference?_length h
      (entityText? abc later).map fun text =>
        match r with
        | .char c => c :: text
        | .entity name => '&' :: name ++ ';' :: text
  | c :: rest => (entityText? abc rest).map (c :: ·)
termination_by s.length
decreasing_by all_goals simp_all; try omega

/-- A character of a public identifier. -/
def isPublicChar (c : Char) : Bool :=
  c.isAlphanum || " \n-'()+,./:=?;!*#@$_%".toList.contains c

/-- Where something outside the document is found, and the tokens after that. -/
def skipExternal? : List DeclarationToken → Option (List DeclarationToken)
  | .word w :: .literal identifier :: .literal s :: rest =>
    if isKeyword w "PUBLIC" && identifier.all isPublicChar then some rest
    else if isKeyword w "SYSTEM" then some (.literal s :: rest) else none
  | .word w :: .literal _ :: rest => if isKeyword w "SYSTEM" then some rest else none
  | _ => none

/-- The name and meaning of an entity declaration; a parameter entity has none. The text is read only
while declarations are `active`. -/
def entityDeclaration? (abc : Alphabet) (active : Bool) :
    List DeclarationToken → Option (Option (List Char × Entity))
  | [.mark '%', .word name, .literal text] =>
    if isName abc name && (!active || (entityText? abc text).isSome) then some none else none
  | .mark '%' :: .word name :: rest =>
    if isName abc name && skipExternal? rest == some [] then some none else none
  | [.word name, .literal text] =>
    if !isName abc name then none
    else if active then (entityText? abc text).map fun text => some (name, .internal text) else some none
  | .word name :: rest =>
    match skipExternal? rest with
    | some [] => if isName abc name then some (some (name, .external)) else none
    | some [.word ndata, .word format] =>
      if isName abc name && isKeyword ndata "NDATA" && isName abc format then some (some (name, .external))
      else none
    | _ => none
  | _ => none

/-- The tokens after a mark that says how often an item may come. -/
def skipOccurrence : List DeclarationToken → List DeclarationToken
  | .mark c :: rest => if "?*+".toList.contains c then rest else .mark c :: rest
  | rest => rest

theorem length_skipOccurrence_le (tokens : List DeclarationToken) :
    (skipOccurrence tokens).length ≤ tokens.length := by
  unfold skipOccurrence
  split
  · split <;> simp
  · simp

/-- What an element may hold is spelled correctly. Each open group has the mark between its items, once
that is known; `atItem` if an item comes next. -/
def isContentModel (abc : Alphabet) (groups : List (Option Char)) (atItem : Bool)
    (tokens : List DeclarationToken) : Bool :=
  match tokens with
  | [] => groups.isEmpty && !atItem
  | .word name :: rest =>
    have := length_skipOccurrence_le rest
    atItem && isQualifiedName abc name && !groups.isEmpty &&
      isContentModel abc groups false (skipOccurrence rest)
  | .mark '(' :: rest => atItem && isContentModel abc (none :: groups) true rest
  | .mark ')' :: rest =>
    have := length_skipOccurrence_le rest
    !atItem && !groups.isEmpty && isContentModel abc groups.tail false (skipOccurrence rest)
  | .mark c :: rest =>
    match groups with
    | separator? :: outer =>
      !atItem && (c == '|' || c == ',') && separator?.all (· == c) &&
        isContentModel abc (some c :: outer) true rest
    | [] => false
  | .literal _ :: _ => false
termination_by tokens.length
decreasing_by all_goals simp_all; try omega

/-- The names after the word for text in a mixed group, up to its end. -/
def isMixedModel (abc : Alphabet) (named : Bool) : List DeclarationToken → Bool
  | [.mark ')'] => !named
  | [.mark ')', .mark '*'] => true
  | .mark '|' :: .word name :: rest => isQualifiedName abc name && isMixedModel abc true rest
  | _ => false

/-- The tokens after a list of alternatives whose opening has been read, each of the given form. -/
def skipAlternatives? (form : List Char → Bool) : List DeclarationToken → Option (List DeclarationToken)
  | .word w :: .mark ')' :: rest => if form w then some rest else none
  | .word w :: .mark '|' :: rest => if form w then skipAlternatives? form rest else none
  | _ => none

theorem skipAlternatives?_length {form : List Char → Bool} {tokens rest : List DeclarationToken}
    (h : skipAlternatives? form tokens = some rest) : rest.length < tokens.length := by
  fun_induction skipAlternatives? form tokens with
  | case1 =>
    simp only [Option.some.injEq] at h
    simp only [h, List.length_cons]
    omega
  | case2 => simp at h
  | case3 w later hw ih =>
    have := ih h
    simp only [List.length_cons]
    omega
  | case4 => simp at h
  | case5 => simp at h

/-- Whether the type of an attribute is a list of tokens, and the tokens after the type. -/
def attributeType? (abc : Alphabet) : List DeclarationToken → Option (Bool × List DeclarationToken)
  | .mark '(' :: rest => (skipAlternatives? (isNameToken abc) rest).map (true, ·)
  | .word w :: rest =>
    if isKeyword w "CDATA" then some (false, rest)
    else if ["ID", "IDREF", "IDREFS", "ENTITY", "ENTITIES", "NMTOKEN", "NMTOKENS"].any (isKeyword w) then
      some (true, rest)
    else if isKeyword w "NOTATION" then
      match rest with
      | .mark '(' :: rest => (skipAlternatives? (isName abc) rest).map (true, ·)
      | _ => none
    else none
  | _ => none

theorem attributeType?_length {abc : Alphabet} {tokens rest : List DeclarationToken} {isList : Bool}
    (h : attributeType? abc tokens = some (isList, rest)) : rest.length < tokens.length := by
  unfold attributeType? at h
  split at h
  · simp only [Option.map_eq_some_iff, Prod.mk.injEq] at h
    obtain ⟨after, hskip, -, rfl⟩ := h
    have := skipAlternatives?_length hskip
    simp only [List.length_cons]
    omega
  · simp only [List.length_cons]
    split at h
    · simp only [Option.some.injEq, Prod.mk.injEq] at h
      obtain ⟨-, rfl⟩ := h
      omega
    · split at h
      · simp only [Option.some.injEq, Prod.mk.injEq] at h
        obtain ⟨-, rfl⟩ := h
        omega
      · split at h
        · split at h
          · simp only [Option.map_eq_some_iff, Prod.mk.injEq] at h
            obtain ⟨after, hskip, -, rfl⟩ := h
            have := skipAlternatives?_length hskip
            simp only [List.length_cons]
            omega
          · simp at h
        · simp at h
  · simp at h

/-- The value that an attribute has by default, and the tokens after it. The value is read only while
declarations are `active`. -/
def attributeDefault? (abc : Alphabet) (d : Declarations) (active : Bool) :
    List DeclarationToken → Option (Option (List Char) × List DeclarationToken)
  | .literal value :: rest => (valueOf? value).map (·, rest)
  | .word w :: .literal value :: rest => if isKeyword w "#FIXED" then (valueOf? value).map (·, rest) else none
  | .word w :: rest => if isKeyword w "#REQUIRED" || isKeyword w "#IMPLIED" then some (none, rest) else none
  | _ => none
where
  /-- The value of a literal, if it is read. -/
  valueOf? (s : List Char) : Option (Option (List Char)) :=
    if active then (attributeValue? abc d s).map some else some none

theorem attributeDefault?_length {abc : Alphabet} {d : Declarations} {active : Bool}
    {tokens rest : List DeclarationToken} {value? : Option (List Char)}
    (h : attributeDefault? abc d active tokens = some (value?, rest)) :
    rest.length < tokens.length := by
  unfold attributeDefault? at h
  split at h
  · simp only [Option.map_eq_some_iff, Prod.mk.injEq] at h
    obtain ⟨_, _, -, rfl⟩ := h
    simp only [List.length_cons]
    omega
  · split at h
    · simp only [Option.map_eq_some_iff, Prod.mk.injEq] at h
      obtain ⟨_, _, -, rfl⟩ := h
      simp only [List.length_cons]
      omega
    · simp at h
  · split at h
    · simp only [Option.some.injEq, Prod.mk.injEq] at h
      obtain ⟨-, rfl⟩ := h
      simp only [List.length_cons]
      omega
    · simp at h
  · simp at h

/-- The attributes that a declaration lists for an element. -/
def attributeDeclarations? (abc : Alphabet) (d : Declarations) (active : Bool) (element : List Char)
    (tokens : List DeclarationToken) :
    Option (List (List Char × List Char × Bool × Option (List Char))) :=
  match tokens with
  | [] => some []
  | .word name :: rest =>
    if !isQualifiedName abc name then none
    else
      match htype : attributeType? abc rest with
      | none => none
      | some (isList, afterType) =>
        match hdefault : attributeDefault? abc d active afterType with
        | none => none
        | some (value?, later) =>
          have := attributeType?_length htype
          have := attributeDefault?_length hdefault
          (attributeDeclarations? abc d active element later).map
            ((element, name, isList, if isList then value?.map tokenize else value?) :: ·)
  | _ => none
termination_by tokens.length
decreasing_by simp_all; omega

/-- The declarations once the tokens of one of them are read, if what has been read stays tolerable; a literal is
a `valued` one if references in it are followed. -/
def Declarations.countAll? (abc : Alphabet) (d : Declarations) (valued : Bool)
    (tokens : List (DeclarationToken × List Char)) : Option Declarations :=
  tokens.foldlM (fun d (token, rest) =>
    match valued, token with
    | true, .literal value => d.count? abc value rest
    | _, _ => d.count? abc [] rest) d

/-- The declarations with one more, which has an effect only while `active`. -/
def declare? (abc : Alphabet) (d : Declarations) (active : Bool) (keyword : List Char)
    (tokens : List DeclarationToken) : Option Declarations :=
  if isKeyword keyword "ENTITY" then
    (entityDeclaration? abc active tokens).map fun
      | some (name, entity) =>
        if active && (d.entities.lookup name).isNone then { d with entities := d.entities ++ [(name, entity)] }
        else d
      | none => d
  else if isKeyword keyword "ATTLIST" then
    match tokens with
    | .word element :: rest =>
      if isQualifiedName abc element then
        (attributeDeclarations? abc d active element rest).map fun found =>
          if active then { d with attributes := d.attributes ++ found } else d
      else none
    | _ => none
  else if isKeyword keyword "ELEMENT" then
    match tokens with
    | [.word element, .word w] =>
      if isQualifiedName abc element && (isKeyword w "EMPTY" || isKeyword w "ANY") then some d else none
    | .word element :: .mark '(' :: rest =>
      let correct := match rest with
        | .word w :: rest => if isKeyword w "#PCDATA" then isMixedModel abc false rest
          else isContentModel abc [none] true (.word w :: rest)
        | _ => isContentModel abc [none] true rest
      if isQualifiedName abc element && correct then some d else none
    | _ => none
  else if isKeyword keyword "NOTATION" then
    match tokens with
    | [.word name, .word w, .literal identifier] =>
      if isName abc name &&
          (isKeyword w "PUBLIC" && identifier.all isPublicChar || isKeyword w "SYSTEM") then some d
      else none
    | .word name :: rest => if isName abc name && skipExternal? rest == some [] then some d else none
    | _ => none
  else none

/-- The declarations after the one that a text begins with, whether later ones have an effect, and what
follows it. -/
def takeDeclaration? (abc : Alphabet) (d : Declarations) (active : Bool) (s : List Char) :
    Option (Declarations × Bool × List Char) :=
  match s with
  | '%' :: rest => do
    match ← takeName? abc rest with
    | (_, ';' :: rest) => some ({ d with incomplete := !d.standalone }, active && d.standalone, rest)
    | _ => none
  | '<' :: '!' :: '-' :: '-' :: rest => (skipComment? rest).map (d, active, ·)
  | '<' :: '?' :: rest => (skipInstruction? abc rest).map (d, active, ·)
  | '<' :: '!' :: rest => do
    let (keyword, rest) ← takeName? abc rest
    if rest.head?.any isSpace then
      let (tokens, rest) ← declarationTokens? abc rest
      let d ← d.countAll? abc (active && isKeyword keyword "ATTLIST") tokens
      some (← declare? abc d active keyword (tokens.map (·.1)), active, rest)
    else none
  | _ => none

theorem takeDeclaration?_length {abc : Alphabet} {active active' : Bool} {d d' : Declarations}
    {s rest : List Char}
    (h : takeDeclaration? abc d active s = some (d', active', rest)) : rest.length < s.length := by
  unfold takeDeclaration? at h
  split at h
  · simp only [Option.bind_eq_bind, Option.bind_eq_some_iff, Prod.exists] at h
    obtain ⟨name, after, hname, h⟩ := h
    have := takeName?_length hname
    split at h
    · next heq =>
      simp only [Option.some.injEq, Prod.mk.injEq] at h heq
      obtain ⟨-, rfl⟩ := heq
      obtain ⟨-, -, rfl⟩ := h
      simp only [List.length_cons] at *
      omega
    · simp at h
  · simp only [Option.map_eq_some_iff, Prod.mk.injEq] at h
    obtain ⟨after, hskip, -, -, rfl⟩ := h
    have := skipComment?_length hskip
    simp only [List.length_cons]
    omega
  · simp only [Option.map_eq_some_iff, Prod.mk.injEq] at h
    obtain ⟨after, hskip, -, -, rfl⟩ := h
    have := skipInstruction?_length hskip
    simp only [List.length_cons]
    omega
  · simp only [Option.bind_eq_bind, Option.bind_eq_some_iff, Prod.exists] at h
    obtain ⟨name, after, hname, h⟩ := h
    have := takeName?_length hname
    split at h
    · simp only [Option.bind_eq_some_iff, Prod.exists, Option.some.injEq, Prod.mk.injEq] at h
      obtain ⟨tokens, later, htokens, _, _, _, _, -, -, rfl⟩ := h
      have := declarationTokens?_length htokens
      simp only [List.length_cons]
      omega
    · simp at h
  · simp at h

/-- The declarations of an internal subset whose opening has been read, and what follows it, if what has been
read stays tolerable. Unless the document stands alone, they have no effect after a reference to a parameter
entity. -/
def takeSubset? (abc : Alphabet) (d : Declarations) (active : Bool) (s : List Char) :
    Option (Declarations × List Char) :=
  match skipSpace s with
  | ']' :: rest => some (d, rest)
  | _ =>
    match h : takeDeclaration? abc d active (skipSpace s) with
    | none => none
    | some (d, active, rest) =>
      have := takeDeclaration?_length h
      have := length_skipSpace_le s
      if d.isTolerableBefore rest then takeSubset? abc d active rest else none
termination_by s.length

theorem takeSubset?_length {abc : Alphabet} {active : Bool} {d d' : Declarations} {s rest : List Char}
    (h : takeSubset? abc d active s = some (d', rest)) : rest.length < s.length := by
  fun_induction takeSubset? abc d active s with
  | case1 d active s after heq =>
    have := length_skipSpace_le s
    simp only [Option.some.injEq, Prod.mk.injEq] at h
    simp only [heq, List.length_cons, h] at this
    omega
  | case2 => simp at h
  | case3 d active s _ d'' active' later _ _ _ _ ih =>
    have := ih h
    omega
  | case4 => simp at h

/-- A literal after white space, and what follows it. -/
def takeSpacedLiteral? (s : List Char) : Option (List Char × List Char) :=
  if s.head?.any isSpace then (takeLiteral? (skipSpace s)).filter (endsLiteral ·.2) else none

theorem takeSpacedLiteral?_length {s chars rest : List Char} (h : takeSpacedLiteral? s = some (chars, rest)) :
    rest.length < s.length := by
  unfold takeSpacedLiteral? at h
  split at h
  · have := takeLiteral?_length (Option.filter_eq_some_iff.1 h).1
    have := length_skipSpace_le s
    omega
  · simp at h

/-- What follows the place where the external part of the document type is found, and whether there is
such a part. -/
def skipExternalSubset? (s : List Char) : Option (Bool × List Char) :=
  let source := skipSpace s
  if "SYSTEM".toList.isPrefixOf source then
    (takeSpacedLiteral? (source.drop 6)).map fun (_, rest) => (true, rest)
  else if "PUBLIC".toList.isPrefixOf source then do
    let (identifier, rest) ← takeSpacedLiteral? (source.drop 6)
    let (_, rest) ← takeSpacedLiteral? rest
    if identifier.all isPublicChar then some (true, rest) else none
  else some (false, s)

theorem skipExternalSubset?_length {s rest : List Char} {outside : Bool}
    (h : skipExternalSubset? s = some (outside, rest)) : rest.length ≤ s.length := by
  have := length_skipSpace_le s
  simp only [skipExternalSubset?] at h
  split at h
  · simp only [Option.map_eq_some_iff, Prod.exists, Prod.mk.injEq] at h
    obtain ⟨_, after, hliteral, -, rfl⟩ := h
    have := takeSpacedLiteral?_length hliteral
    simp only [List.length_drop] at this
    omega
  · split at h
    · simp only [Option.bind_eq_bind, Option.bind_eq_some_iff, Prod.exists] at h
      obtain ⟨_, after, hfirst, _, later, hsecond, h⟩ := h
      have := takeSpacedLiteral?_length hfirst
      have := takeSpacedLiteral?_length hsecond
      simp only [List.length_drop] at *
      split at h
      · simp only [Option.some.injEq, Prod.mk.injEq] at h
        obtain ⟨-, rfl⟩ := h
        omega
      · simp at h
    · simp only [Option.some.injEq, Prod.mk.injEq] at h
      obtain ⟨-, rfl⟩ := h
      exact Nat.le_refl _

/-- The declarations of the internal subset, if there is one, and what follows it. -/
def takeInternalSubset? (abc : Alphabet) (d : Declarations) (s : List Char) :
    Option (Declarations × List Char) :=
  match skipSpace s with
  | '[' :: rest => takeSubset? abc d true rest
  | rest => some (d, rest)

theorem takeInternalSubset?_length {abc : Alphabet} {d d' : Declarations} {s rest : List Char}
    (h : takeInternalSubset? abc d s = some (d', rest)) : rest.length ≤ s.length := by
  have := length_skipSpace_le s
  unfold takeInternalSubset? at h
  split at h
  · next heq =>
    have := takeSubset?_length h
    simp only [heq, List.length_cons] at *
    omega
  · simp only [Option.some.injEq, Prod.mk.injEq] at h
    obtain ⟨-, rfl⟩ := h
    exact this

/-- The declarations of a document type whose opening has been read, and what follows it. -/
def takeDoctype? (abc : Alphabet) (d : Declarations) (s : List Char) : Option (Declarations × List Char) :=
  let named := skipSpace s
  if s.head?.any isSpace && isQualifiedName abc (named.takeWhile (isWordOfDeclaration abc)) then do
    let (outside, rest) ← skipExternalSubset? (named.dropWhile (isWordOfDeclaration abc))
    let (d, rest) ← takeInternalSubset? abc { d with incomplete := outside && !d.standalone } rest
    match skipSpace rest with
    | '>' :: rest => some (d, rest)
    | _ => none
  else none

theorem takeDoctype?_length {abc : Alphabet} {d d' : Declarations} {s rest : List Char}
    (h : takeDoctype? abc d s = some (d', rest)) : rest.length < s.length := by
  simp only [takeDoctype?] at h
  split at h
  · simp only [Option.bind_eq_bind, Option.bind_eq_some_iff, Prod.exists] at h
    obtain ⟨_, afterOutside, houtside, _, afterInside, hinside, h⟩ := h
    have := length_skipSpace_le s
    have := (List.dropWhile_suffix (l := skipSpace s) (isWordOfDeclaration abc)).length_le
    have := skipExternalSubset?_length houtside
    have := takeInternalSubset?_length hinside
    have := length_skipSpace_le afterInside
    split at h
    · next heq =>
      simp only [Option.some.injEq, Prod.mk.injEq] at h
      simp only [heq, List.length_cons, h] at this
      omega
    · simp at h
  · simp at h

end ScriptGlue.Xml
