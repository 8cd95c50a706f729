import ScriptGlue.Xml.Content
import ScriptGlue.Text.Search

/-!
# Namespaces

Names of elements and attributes in their namespaces. A prefix is bound by an attribute `xmlns:p` of the
element or of one around it; the name `p:x` is then written with the namespace in braces before `x`.
-/

namespace ScriptGlue.Xml

open ScriptGlue.Text

/-- The namespace of the prefix `xml`, which no other prefix may have. -/
def xmlNamespace : String := "http:" ++ "//www.w3.org/XML/1998/namespace"

/-- The namespace of declarations, which no prefix may have. -/
def declarationNamespace : String := "http:" ++ "//www.w3.org/2000/xmlns/"

/-- The bindings in force: prefixes, the empty one for names without, and their namespaces. -/
abbrev Scope := List (String × String)

/-- The bindings outside every element. -/
def Scope.initial : Scope := [("xml", xmlNamespace)]

/-- The prefix that an attribute binds. -/
def boundPrefix? (name : String) : Option String :=
  if name == "xmlns" then some ""
  else if startsWith name "xmlns:" then some (dropStart name 6) else none

/-- The binding of a prefix to a namespace is allowed. -/
def isAllowedBinding (key uri : String) : Bool :=
  key != "xmlns" && (key != "" → uri != "") && (key == "xml") == (uri == xmlNamespace) &&
    uri != declarationNamespace && !uri.toList.contains '}'

/-- The bindings inside an element with the given attributes. -/
def Scope.enter? (scope : Scope) (attributes : List (String × String)) : Option Scope := do
  let bindings := attributes.filterMap fun (name, uri) => (boundPrefix? name).map (·, uri)
  if bindings.all fun (key, uri) => isAllowedBinding key uri then some (bindings ++ scope) else none

/-- A local name in a namespace. -/
def inNamespace (uri name : String) : String := "\x7b" ++ uri ++ "\x7d" ++ name

/-- A name written with its namespace; `ofElement` if names without a prefix have one too. -/
def Scope.expand? (scope : Scope) (ofElement : Bool) (name : String) : Option String :=
  match cutFirst [':'] name.toList with
  | some (key, rest) => (scope.lookup (String.ofList key)).map (inNamespace · (String.ofList rest))
  | none =>
    match if ofElement then scope.lookup "" else none with
    | some "" | none => some name
    | some uri => some (inNamespace uri name)

/-- The attributes that are no bindings, with their names written out; no two have one name. -/
def Scope.expandAttributes? (scope : Scope) (attributes : List (String × String)) :
    Option (List (String × String)) := do
  let plain := attributes.filter fun (name, _) => (boundPrefix? name).isNone
  let expanded ← plain.mapM fun (name, value) => (scope.expand? false name).map (·, value)
  if (expanded.map (·.1)).Nodup then some expanded else none

/-- Content with all names written out. -/
def Content.expand? (scope : Scope) : Content → Option Content
  | .empty => some .empty
  | .text chars rest => (rest.expand? scope).map (.text chars ·)
  | .element tag attributes inner rest => do
    let innerScope ← scope.enter? attributes
    some (.element (← innerScope.expand? true tag) (← innerScope.expandAttributes? attributes)
      (← inner.expand? innerScope) (← rest.expand? scope))

end ScriptGlue.Xml
