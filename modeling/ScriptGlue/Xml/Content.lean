/-!
# Document content

What stands inside an element of a document: text and elements in order. Comments and processing
instructions are not part of it.
-/

namespace ScriptGlue.Xml

/-- Text and elements in document order. -/
inductive Content where
  /-- Nothing more. -/
  | empty
  /-- Some text, then the rest. -/
  | text (chars : String) (rest : Content)
  /-- An element with its attributes and what it holds, then the rest. -/
  | element (tag : String) (attributes : List (String × String)) (inner rest : Content)
  deriving DecidableEq, Repr

instance : Inhabited Content := ⟨.empty⟩

/-- An element of a document. -/
structure Element where
  /-- The name, with the namespace in braces before it if it has one. -/
  tag : String
  /-- The attributes in document order. -/
  attributes : List (String × String)
  /-- What the element holds. -/
  content : Content
  deriving DecidableEq, Repr

namespace Content

/-- All text, that of the elements included, in document order. -/
def allText : Content → String
  | empty => ""
  | text chars rest => chars ++ rest.allText
  | element _ _ inner rest => inner.allText ++ rest.allText

/-- The elements at the top. -/
def elements : Content → List Element
  | empty => []
  | text _ rest => rest.elements
  | element tag attributes inner rest => ⟨tag, attributes, inner⟩ :: rest.elements

/-- The elements at the top that have the given name. -/
def named (c : Content) (tag : String) : List Element := c.elements.filter (·.tag == tag)

/-- The first element at the top that has the given name. -/
def find? (c : Content) (tag : String) : Option Element := c.elements.find? (·.tag == tag)

/-- The elements of the given name at any depth, each before those inside it. -/
def everyNamed (tag : String) : Content → List Element
  | empty => []
  | text _ rest => rest.everyNamed tag
  | element t attributes inner rest =>
    (if t == tag then [⟨t, attributes, inner⟩] else []) ++ inner.everyNamed tag ++ rest.everyNamed tag

end Content

namespace Element

/-- The value of an attribute. -/
def valueOf? (e : Element) (name : String) : Option String := e.attributes.lookup name

/-- The value of an attribute, empty if it is missing. -/
def valueOf (e : Element) (name : String) : String := (e.valueOf? name).getD ""

/-- The child elements that have the given name. -/
def named (e : Element) (tag : String) : List Element := e.content.named tag

/-- The first child element that has the given name. -/
def find? (e : Element) (tag : String) : Option Element := e.content.find? tag

end Element

end ScriptGlue.Xml
