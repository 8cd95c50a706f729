import ScriptGlue.Cpp.Category
import ScriptGlue.Text.Replacement

/-!
# Qualified names in declarations

The spelling of a type in a declaration of generated code. Names lose their qualification, and the names
that the configuration lists are qualified again with their class. A name is a run of word characters;
names joined by `::` make up a qualified name.
-/

namespace ScriptGlue.Cpp

open ScriptGlue.Text

/-- The characters before and after some place in a text are not both of a word. -/
def isBoundary (before after : Option Char) : Bool := before.any isWordChar != after.any isWordChar

/-! ### Dropping qualifications -/

/-- The words after a word that are joined to it by `::`, and what follows them. -/
def takeChain (s : List Char) : List (List Char) × List Char :=
  match s with
  | ':' :: ':' :: rest =>
    let word := rest.takeWhile isWordChar
    if word.isEmpty then ([], s)
    else
      have := (List.dropWhile_suffix (l := rest) isWordChar).length_le
      let (words, after) := takeChain (rest.dropWhile isWordChar)
      (word :: words, after)
  | _ => ([], s)
termination_by s.length
decreasing_by simp_all; omega

theorem length_takeChain_le (s : List Char) : (takeChain s).2.length ≤ s.length := by
  fun_induction takeChain s with
  | case1 => simp
  | case2 rest word h hle words after heq ih =>
    simp only [heq] at ih
    simp only [List.length_cons]
    omega
  | case3 => simp

/-- What is written for a qualified name: its last word, unless the name keeps its qualification. -/
def unqualified (words : List (List Char)) : List Char :=
  let whole := ("::".toList).intercalate words
  if scopedNames.any (startsWith (String.ofList whole)) then whole else words.getLastD []

/-- The text with every qualified name made unqualified. -/
def dropQualifications (s : List Char) : List Char :=
  match s with
  | [] => []
  | c :: rest =>
    if isWordChar c then
      let word := c :: rest.takeWhile isWordChar
      let chain := takeChain (rest.dropWhile isWordChar)
      have := length_takeChain_le (rest.dropWhile isWordChar)
      have := (List.dropWhile_suffix (l := rest) isWordChar).length_le
      unqualified (word :: chain.1) ++ dropQualifications chain.2
    else c :: dropQualifications rest
termination_by s.length
decreasing_by all_goals simp_all; try omega

/-! ### Replacing names -/

/-- The text with `replacement` for every occurrence of `name` that ends a word and before which `opens`
holds of the preceding character; `before` is the character that precedes the text. -/
def replaceName (opens : Option Char → Bool) (name replacement : List Char) (before : Option Char)
    (s : List Char) : List Char :=
  let last? := if name.isEmpty then before else name.getLast?
  let here := opens before && name.isPrefixOf s && isBoundary last? (s.drop name.length).head?
  match s, name with
  | [], _ => if here then replacement else []
  | c :: rest, [] =>
    if here then replacement ++ c :: replaceName opens name replacement (some c) rest
    else c :: replaceName opens name replacement (some c) rest
  | c :: rest, _ :: others =>
    if here then replacement ++ replaceName opens name replacement last? (rest.drop others.length)
    else c :: replaceName opens name replacement (some c) rest
termination_by s.length
decreasing_by all_goals simp_all; try omega

/-- The text with `replacement` for every occurrence of `name` that ends a word and is neither inside a
word nor qualified. -/
def qualifyName (name replacement s : List Char) : List Char :=
  replaceName (fun before => !before.any fun c => isWordChar c || c == ':') name replacement none s

/-- The text without the occurrences of a word. -/
def removeWord (word s : List Char) : List Char :=
  if word.isEmpty then s else replaceName (isBoundary · word.head?) word [] none s

/-- The spelling of a type in a declaration of generated code, if the configuration says it with escapes that
can be read. -/
def Vocabulary.declaration (v : Vocabulary) (text : String) : Except BadEscape String := do
  let bare := dropQualifications (collapseChars text.toList)
  let spelled ← v.config.returnTypeQualifications.toList.foldlM (fun s (name, qualified) =>
    (replacementOf name.toList qualified).map fun replacement => qualifyName name.toList replacement s) bare
  pure (if spelled == "vec".toList then "float3" else String.ofList spelled)

end ScriptGlue.Cpp
