import ScriptGlue.Config.Basic
import ScriptGlue.Text.Blank
import ScriptGlue.Text.Case
import ScriptGlue.Xml.Encoding

/-!
# Reading a configuration

A configuration document extends the built-in tables: each kind of element adds to one table, in document
order. The kinds are read one after the other, so the first kind with a faulty element decides the error.
-/

namespace ScriptGlue

open ScriptGlue.Text ScriptGlue.Xml

/-- What can be wrong with a configuration document. -/
inductive ConfigError where
  /-- The document is not well-formed. -/
  | malformed
  /-- The encoding of the document cannot be used. -/
  | coding (fault : CodingFault)
  /-- The root element has another name. -/
  | wrongRoot (tag : String)
  /-- An element lacks an attribute, or has a blank one. -/
  | missingAttribute (element name : String)
  /-- A way of matching that does not exist. -/
  | unknownMode (mode : String)
  /-- An excluded member without its class. -/
  | unqualifiedMember (member : String)
  deriving DecidableEq, Repr

namespace ConfigError

/-- The name with a capital at its beginning. -/
def capitalized (name : String) : String :=
  match name.toList with
  | [] => ""
  | c :: rest => String.ofList (c.toUpper :: rest)

/-- What is said about the error. -/
def message : ConfigError → String
  | malformed => "XML parsing error"
  | coding fault => fault.message
  | wrongRoot tag => "Expected root element 'bindings', got '" ++ tag ++ "'"
  | missingAttribute element name => capitalized element ++ " element missing '" ++ name ++ "' attribute"
  | unknownMode mode => "Invalid bad_type match '" ++ mode ++ "'. Must be 'contains' or 'endswith'."
  | unqualifiedMember member => "Exclude member '" ++ member ++ "' must be written as 'Class::member'"

end ConfigError

namespace Config

/-- The trimmed value of an attribute that must not be blank. -/
def required (e : Element) (name : String) : Except ConfigError String :=
  let value := trim (e.valueOf name)
  if value.isEmpty then .error (.missingAttribute e.tag name) else .ok value

/-- The values that the elements of one kind give for an attribute. -/
def requiredOfAll (root : Element) (tag name : String) : Except ConfigError (List String) :=
  (root.named tag).mapM (required · name)

/-- The pairs that the elements of one kind give for two attributes; of two missing ones the value is
reported. -/
def pairsOfAll (root : Element) (tag key value : String) : Except ConfigError (List (String × String)) :=
  (root.named tag).mapM fun e => do
    let v ← required e value
    let k ← required e key
    pure (k, v)

/-- The denied type that an element describes. -/
def readDeniedType (e : Element) : Except ConfigError DeniedType := do
  let pattern := e.valueOf "pattern"
  if pattern.isEmpty then throw (.missingAttribute e.tag "pattern")
  let mode := lower (trim ((e.valueOf? "match").getD "contains"))
  if mode != "contains" && mode != "endswith" then throw (.unknownMode mode)
  pure { pattern, mode }

/-- The parameter types in a list with commas. -/
def readParameters (s : String) : List String :=
  ((splitAtChar ',' s.toList).map (String.ofList ∘ trimChars)).filter (!·.isEmpty)

/-- The exclusion that an element describes. -/
def readExclusion (e : Element) : Except ConfigError Exclusion := do
  let member ← required e "member"
  if !occursIn "::" member then throw (.unqualifiedMember member)
  pure { member, parameters := (e.valueOf? "params").map readParameters }

/-- The map with the pairs added in order. -/
def addAll (m : OrderedMap String) (pairs : List (String × String)) : OrderedMap String :=
  pairs.foldl (fun m (key, value) => m.insert key value) m

/-- The built-in tables extended by the children of the root element. -/
def ofElement (root : Element) : Except ConfigError Config := do
  if root.tag != "bindings" then throw (.wrongRoot root.tag)
  let numberTypes ← requiredOfAll root "number_type" "name"
  let bases ← requiredOfAll root "refcounted" "name"
  let fragments ← requiredOfAll root "refcounted_fragment" "name"
  let markers ← requiredOfAll root "refcounted_marker" "name"
  let namespaces ← requiredOfAll root "bad_namespace" "name"
  let deniedTypes ← (root.named "bad_type").mapM readDeniedType
  let substitutions ← pairsOfAll root "template_substitution" "from" "to"
  let aliases ← pairsOfAll root "header_alias" "class" "header"
  let fallbacks ← pairsOfAll root "fallback_include" "class" "header"
  let prefixes ← requiredOfAll root "header_prefix" "path"
  let exclusions ← (root.named "exclude").mapM readExclusion
  let skipped ← requiredOfAll root "skip_properties" "class"
  let base := Config.default
  pure { base with
    numberTypes := base.numberTypes ++ numberTypes
    refcountedBases := base.refcountedBases ++ bases
    refcountedFragments := base.refcountedFragments ++ fragments
    refcountedMarkers := base.refcountedMarkers ++ markers
    deniedNamespaces := base.deniedNamespaces ++ namespaces
    deniedTypes := base.deniedTypes ++ deniedTypes
    templateSubstitutions := addAll base.templateSubstitutions substitutions
    headerAliases := addAll base.headerAliases aliases
    fallbackIncludes := addAll base.fallbackIncludes fallbacks
    headerPrefixes := base.headerPrefixes ++ prefixes
    exclusions := base.exclusions ++ exclusions
    skipPropertyClasses := base.skipPropertyClasses ++ skipped }

/-- The configuration that the text of a file describes. -/
def ofText (text : String) : Except ConfigError Config :=
  match readFile text with
  | .ok root => ofElement root
  | .error .malformed => .error .malformed
  | .error (.coding fault) => .error (.coding fault)

end Config

end ScriptGlue
