import ScriptGlue.Symbol.Basic
import ScriptGlue.Xml.Content

/-!
# Descriptions

The prose of a documentation element. Sections that say something of a fixed kind (parameters, returned
value, notes and the like) are taken out first; what is left becomes one line for each paragraph.
-/

namespace ScriptGlue

open ScriptGlue.Text ScriptGlue.Xml

/-! ### Text -/

/-- All text of an element on one line, with single blanks; empty if the element is missing. -/
def lineOf (e : Option Element) : String := (e.map fun e => collapse e.content.allText).getD ""

/-- The prose of some content: a line for each paragraph that says something, or all text on one line
where there are no paragraphs. -/
def proseOf (c : Content) : String :=
  let paragraphs := c.named "para"
  if paragraphs.isEmpty then collapse c.allText
  else "\n".intercalate ((paragraphs.map fun p => collapse p.content.allText).filter (!·.isEmpty))

/-- The prose of an element, empty if the element is missing. -/
def descriptionOf (e : Option Element) : String := (e.map fun e => proseOf e.content).getD ""

/-! ### Sections -/

/-- A section of a fixed kind. -/
inductive DocSection where
  /-- Comments on parameters, by name. -/
  | parameters (comments : List (String × String))
  /-- Something that remains to be done. -/
  | todo (text : String)
  /-- A known fault. -/
  | bug (text : String)
  /-- A note. -/
  | note (text : String)
  /-- What is returned. -/
  | returned (text : String)
  /-- What is referred to. -/
  | see (text : String)
  /-- Who is named as the author. -/
  | author (text : String)
  deriving DecidableEq, Repr

namespace DocSection

/-- The comments of a list of parameters: each item comments on every name that it lists. -/
def parameterComments (inner : Content) : List (String × String) :=
  (inner.named "parameteritem").flatMap fun item =>
    let comment := descriptionOf (item.find? "parameterdescription")
    ((item.named "parameternamelist").flatMap (·.named "parametername")).map fun name =>
      (lineOf (some name), comment)

/-- The section that an element is, if it is one. -/
def ofElement? (e : Element) : Option DocSection :=
  if e.tag == "parameterlist" then
    if e.valueOf? "kind" == some "param" then some (.parameters (parameterComments e.content)) else none
  else if e.tag == "xrefsect" then
    let text := descriptionOf (e.find? "xrefdescription")
    match lineOf (e.find? "xreftitle") with
    | "Todo" => some (.todo text)
    | "Bug" => some (.bug text)
    | _ => none
  else if e.tag == "simplesect" then
    match e.valueOf? "kind" with
    | some "note" => some (.note (proseOf e.content))
    | some "return" => some (.returned (proseOf e.content))
    | some "see" => some (.see (proseOf e.content))
    | some "author" => some (.author (proseOf e.content))
    | _ => none
  else none

/-- The sections of some content that stand inside no other, in document order, and the content without
them. -/
def extract : Content → List DocSection × Content
  | .empty => ([], .empty)
  | .text chars rest => ((extract rest).1, .text chars (extract rest).2)
  | .element tag attributes inner rest =>
    match ofElement? ⟨tag, attributes, inner⟩ with
    | some s => (s :: (extract rest).1, (extract rest).2)
    | none => ((extract inner).1 ++ (extract rest).1, .element tag attributes (extract inner).2 (extract rest).2)

/-- The parameters with a comment on the first of the given name. -/
def commentOn (name comment : String) : List Parameter → List Parameter
  | [] => []
  | p :: rest => if p.name == name then { p with comment } :: rest else p :: commentOn name comment rest

/-- The first text that says something. -/
def orElse (present text : String) : String := if present.isEmpty then text else present

/-- The symbol with what the section says. -/
def apply (s : Symbol) : DocSection → Symbol
  | parameters comments =>
    { s with parameters := comments.foldl (fun ps (name, comment) => commentOn name comment ps) s.parameters }
  | todo text => { s with todos := s.todos ++ [text] }
  | bug text => { s with bugs := s.bugs ++ [text] }
  | note text => { s with notes := s.notes ++ [text] }
  | returned text => { s with returnComment := orElse s.returnComment text }
  | see text => { s with seeAlso := orElse s.seeAlso text }
  | author text => { s with author := orElse s.author text }

end DocSection

/-! ### Documentation of a symbol -/

/-- The sections of a description and what is left of it, nothing if the description is missing. -/
def extractDescription (e : Element) (tag : String) : List DocSection × Content :=
  match e.find? tag with
  | some d => DocSection.extract d.content
  | none => ([], .empty)

/-- The symbol with the sections and the prose of its three descriptions. -/
def Symbol.describe (s : Symbol) (e : Element) : Symbol :=
  let brief := extractDescription e "briefdescription"
  let detailed := extractDescription e "detaileddescription"
  let inbody := extractDescription e "inbodydescription"
  let s := (brief.1 ++ detailed.1 ++ inbody.1).foldl DocSection.apply s
  { s with brief := proseOf brief.2, detailed := proseOf detailed.2, inbody := proseOf inbody.2 }

end ScriptGlue
