import ScriptGlue.Documentation.Description

/-!
# Captured sections

The sections of a description are those of its elements that are captured and stand inside no other that is. All that a
description holds is listed in document order, each text and each element with the elements around it (`Content.items`);
what stands inside no section is what an extraction meets (`outside`). **`extract_captures`** says that the texts of the
sections are taken out once, that all other text stays where it is, and what the symbol is told; `Symbol.describe_tells`
follows a symbol through its three descriptions.
-/

namespace ScriptGlue

open ScriptGlue.Text ScriptGlue.Xml

/-! ### Kinds of sections -/

/-- What a section says about the symbol. -/
inductive SectionKind where
  | todo
  | bug
  | note
  | returned
  | see
  | author
  deriving DecidableEq, Repr

namespace SectionKind

/-- The kinds in order. -/
def all : List SectionKind := [todo, bug, note, returned, see, author]

/-- The section stands in a list of references, by its title. -/
def isReference : SectionKind → Bool
  | todo | bug => true
  | _ => false

/-- The title or the kind of the sections in a document. -/
def name : SectionKind → String
  | todo => "Todo"
  | bug => "Bug"
  | note => "note"
  | returned => "return"
  | see => "see"
  | author => "author"

/-- The element is a section of the kind. -/
def marks (k : SectionKind) (e : Element) : Bool :=
  if k.isReference then e.tag == "xrefsect" && lineOf (e.find? "xreftitle") == k.name
  else e.tag == "simplesect" && e.valueOf? "kind" == some k.name

/-- What an element of the kind says. -/
def textOf (k : SectionKind) (e : Element) : String :=
  if k.isReference then descriptionOf (e.find? "xrefdescription") else proseOf e.content

end SectionKind

/-- The element comments on parameters. -/
def isParameterList (e : Element) : Bool := e.tag == "parameterlist" && e.valueOf? "kind" == some "param"

/-- The element is a section of some kind. -/
def isCaptured (e : Element) : Bool := isParameterList e || SectionKind.all.any (·.marks e)

/-- The section of the kind that says a text. -/
def SectionKind.sectionOf : SectionKind → String → DocSection
  | todo => .todo
  | bug => .bug
  | note => .note
  | returned => .returned
  | see => .see
  | author => .author

/-- What a section of the kind says, if it is one. -/
def DocSection.said? : SectionKind → DocSection → Option String
  | .todo, todo text | .bug, bug text | .note, note text | .returned, returned text | .see, see text
  | .author, author text => some text
  | _, _ => none

theorem DocSection.said?_sectionOf (k k' : SectionKind) (text : String) :
    (k'.sectionOf text).said? k = if k = k' then some text else none := by
  cases k <;> cases k' <;> rfl

theorem ofElement?_eq (e : Element) :
    DocSection.ofElement? e =
      if isParameterList e then some (.parameters (DocSection.parameterComments e.content))
      else (SectionKind.all.find? (·.marks e)).map fun k => k.sectionOf (k.textOf e) := by
  unfold DocSection.ofElement?
  split
  · next h =>
    rw [beq_iff_eq] at h
    simp [isParameterList, SectionKind.all, SectionKind.marks, h]
  split
  · next h =>
    rw [beq_iff_eq] at h
    simp only [isParameterList, SectionKind.all, SectionKind.marks, SectionKind.textOf, h]
    generalize lineOf (e.find? "xreftitle") = title
    split <;> simp_all [SectionKind.isReference, SectionKind.name, SectionKind.sectionOf]
  split
  · next h =>
    rw [beq_iff_eq] at h
    simp only [isParameterList, SectionKind.all, SectionKind.marks, SectionKind.textOf, h]
    generalize e.valueOf? "kind" = kind
    split <;> simp_all [SectionKind.isReference, SectionKind.name, SectionKind.sectionOf]
  · simp_all [isParameterList, SectionKind.all, SectionKind.marks, SectionKind.isReference]

namespace SectionKind

theorem mem_all (k : SectionKind) : k ∈ all := by
  cases k <;> decide

theorem name_injective {k k' : SectionKind} (h : k.name = k'.name) : k = k' := by
  cases k <;> cases k' <;> first | rfl | exact absurd h (by decide)

theorem tag_of_marks {k : SectionKind} {e : Element} (h : k.marks e = true) :
    e.tag = if k.isReference then "xrefsect" else "simplesect" := by
  unfold marks at h
  split at h <;> simp_all

/-- An element is of one kind at most. -/
theorem marks_unique {k k' : SectionKind} {e : Element} (h : k.marks e = true) (h' : k'.marks e = true) : k = k' := by
  have htag := tag_of_marks h
  rw [tag_of_marks h'] at htag
  refine name_injective ?_
  cases hk : k.isReference <;> cases hk' : k'.isReference <;> simp_all [marks]

end SectionKind

theorem isSome_ofElement? (e : Element) : (DocSection.ofElement? e).isSome = isCaptured e := by
  have hfind : (SectionKind.all.find? (·.marks e)).isSome = SectionKind.all.any (·.marks e) := by
    rw [Bool.eq_iff_iff, List.find?_isSome, List.any_eq_true]
  rw [ofElement?_eq, isCaptured]
  cases isParameterList e with
  | true => rfl
  | false => rw [if_neg Bool.false_ne_true, Option.isSome_map, hfind, Bool.false_or]

/-- What an element says as a section of a kind. -/
theorem bind_said? (k : SectionKind) (e : Element) :
    (DocSection.ofElement? e).bind (·.said? k) = if k.marks e then some (k.textOf e) else none := by
  rw [ofElement?_eq]
  split
  · next hlist =>
    have hmarks : ¬ k.marks e = true := by
      intro h
      have htag := k.tag_of_marks h
      simp only [isParameterList, Bool.and_eq_true, beq_iff_eq] at hlist
      rw [hlist.1] at htag
      split at htag <;> exact absurd htag (by decide)
    rw [if_neg hmarks]
    cases k <;> rfl
  · cases hfind : SectionKind.all.find? (·.marks e) with
    | none =>
      rw [if_neg (List.find?_eq_none.1 hfind k k.mem_all)]
      rfl
    | some k' =>
      have hmarks' : k'.marks e = true := List.find?_some (p := fun k : SectionKind => k.marks e) hfind
      rw [Option.map_some, Option.bind_some, DocSection.said?_sectionOf]
      by_cases hmarks : k.marks e = true
      · rw [if_pos hmarks, SectionKind.marks_unique hmarks hmarks', if_pos rfl]
      · rw [if_neg hmarks, if_neg]
        rintro rfl
        exact hmarks hmarks'

/-! ### What a symbol is told -/

namespace DocSection

/-- The first text that says something, empty if there is none. -/
def firstSaid (texts : List String) : String := (texts.find? (!·.isEmpty)).getD ""

/-- What the sections of one kind say, in order. -/
def saidBy (k : SectionKind) (sections : List DocSection) : List String := sections.filterMap (·.said? k)

/-- Texts of one kind are added to those that are there. -/
theorem foldl_apply_of_append {told : Symbol → List String} {k : SectionKind}
    (h : ∀ s d, told (apply s d) = told s ++ (said? k d).toList) (sections : List DocSection) (s : Symbol) :
    told (sections.foldl apply s) = told s ++ saidBy k sections := by
  induction sections generalizing s with
  | nil => simp [saidBy]
  | cons d sections ih =>
    rw [List.foldl_cons, ih, h, saidBy, saidBy, List.filterMap_cons]
    cases said? k d <;> simp

theorem firstSaid_cons (text : String) (texts : List String) : firstSaid (text :: texts) = orElse text (firstSaid texts) := by
  cases h : text.isEmpty <;> simp [firstSaid, orElse, h]

theorem orElse_empty (text : String) : orElse text "" = text := by
  by_cases h : text = "" <;> simp [orElse, h]

theorem orElse_assoc (a b c : String) : orElse (orElse a b) c = orElse a (orElse b c) := by
  cases h : a.isEmpty <;> simp [orElse, h]

/-- Of the texts of one kind the first counts that says something. -/
theorem foldl_apply_of_orElse {told : Symbol → String} {k : SectionKind}
    (h : ∀ s d, told (apply s d) = ((said? k d).map (orElse (told s))).getD (told s)) (sections : List DocSection) (s : Symbol) :
    told (sections.foldl apply s) = firstSaid (told s :: saidBy k sections) := by
  induction sections generalizing s with
  | nil =>
    rw [saidBy, List.filterMap_nil, firstSaid_cons]
    exact (orElse_empty _).symm
  | cons d sections ih =>
    rw [List.foldl_cons, ih, h, saidBy, saidBy, List.filterMap_cons, firstSaid_cons, firstSaid_cons]
    cases said? k d with
    | none => rfl
    | some text => rw [Option.map_some, Option.getD_some, orElse_assoc, firstSaid_cons]

/-- What no section speaks of stays as it is. -/
theorem foldl_apply_of_same {α : Type} {told : Symbol → α} (h : ∀ s d, told (apply s d) = told s)
    (sections : List DocSection) (s : Symbol) : told (sections.foldl apply s) = told s := by
  induction sections generalizing s with
  | nil => rfl
  | cons d sections ih => rw [List.foldl_cons, ih, h]

end DocSection

/-! ### Document order -/

/-- A text or an element of some content. -/
inductive Item where
  | text (chars : String)
  | element (e : Element)
  deriving DecidableEq, Repr

/-- The texts and elements of some content in document order, each with the elements around it, the innermost first. -/
def Xml.Content.items (around : List Element) : Content → List (List Element × Item)
  | .empty => []
  | .text chars rest => (around, .text chars) :: rest.items around
  | .element tag attributes inner rest =>
    (around, .element ⟨tag, attributes, inner⟩) :: inner.items (⟨tag, attributes, inner⟩ :: around) ++ rest.items around

/-- What stands inside no section. -/
def outside (around : List Element) (c : Content) : List Item :=
  ((c.items around).filter fun item => item.1.all fun e => !isCaptured e).map (·.2)

namespace Item

/-- The section that the item is, if it is one. -/
def section? : Item → Option Element
  | text _ => none
  | element e => if isCaptured e then some e else none

/-- The text that the item holds: its own, or all text of a section. -/
def held : Item → String
  | text chars => chars
  | element e => if isCaptured e then e.content.allText else ""

/-- The text that is left of the item when sections are taken out. -/
def left : Item → String
  | text chars => chars
  | element _ => ""

end Item

/-- The sections of some content that stand inside no other, in document order. -/
def outermost (c : Content) : List Element := (outside [] c).filterMap Item.section?

/-- What the outermost sections of a kind say, in document order. -/
def captured (k : SectionKind) (c : Content) : List String := ((outermost c).filter k.marks).map k.textOf

/-- Nothing inside a section is outside of sections. -/
theorem outside_of_captured {around : List Element} {e : Element} (he : e ∈ around) (hcaptured : isCaptured e = true)
    (c : Content) : outside around c = [] := by
  have haround : (around.all fun e => !isCaptured e) = false := List.all_eq_false.2 ⟨e, he, by simp [hcaptured]⟩
  induction c generalizing around with
  | empty => rfl
  | text chars rest ih =>
    have hrest := ih he haround
    rw [outside, List.map_eq_nil_iff] at hrest ⊢
    rw [Content.items, List.filter_cons_of_neg (by simp [haround]), hrest]
  | element tag attributes inner rest ihInner ihRest =>
    have hinner := ihInner (List.mem_cons_of_mem ⟨tag, attributes, inner⟩ he) (by rw [List.all_cons, haround, Bool.and_false])
    have hrest := ihRest he haround
    rw [outside, List.map_eq_nil_iff] at hinner hrest ⊢
    rw [Content.items, List.cons_append, List.filter_cons_of_neg (by simp [haround]), List.filter_append, hinner, hrest]
    rfl

section

variable {around : List Element} (h : ∀ e ∈ around, isCaptured e = false)

include h

theorem all_of_forall : (around.all fun e => !isCaptured e) = true := by
  rw [List.all_eq_true]
  intro e he
  rw [h e he]
  rfl

theorem outside_text (chars : String) (rest : Content) :
    outside around (.text chars rest) = .text chars :: outside around rest := by
  have haround := all_of_forall h
  rw [outside, Content.items, List.filter_cons_of_pos (by exact haround), List.map_cons]
  rfl

theorem outside_element (tag : String) (attributes : List (String × String)) (inner rest : Content) :
    outside around (.element tag attributes inner rest) =
      .element ⟨tag, attributes, inner⟩ :: outside (⟨tag, attributes, inner⟩ :: around) inner ++ outside around rest := by
  have haround := all_of_forall h
  rw [outside, Content.items, List.cons_append, List.filter_cons_of_pos (by exact haround), List.map_cons, List.filter_append,
    List.map_append]
  rfl

end

/-- An extraction meets what is outside the sections. -/
theorem extract_spec {around : List Element} (h : ∀ e ∈ around, isCaptured e = false) (c : Content) :
    (DocSection.extract c).1 = ((outside around c).filterMap Item.section?).filterMap DocSection.ofElement? ∧
      c.allText = String.join ((outside around c).map Item.held) ∧
      (DocSection.extract c).2.allText = String.join ((outside around c).map Item.left) := by
  induction c generalizing around with
  | empty => exact ⟨rfl, rfl, rfl⟩
  | text chars rest ih =>
    obtain ⟨hsections, hall, hleft⟩ := ih h
    rw [outside_text h]
    refine ⟨hsections, ?_, ?_⟩
    · rw [Content.allText, hall, List.map_cons, String.join_cons]
      rfl
    · rw [DocSection.extract, Content.allText, hleft, List.map_cons, String.join_cons]
      rfl
  | element tag attributes inner rest ihInner ihRest =>
    obtain ⟨hsections, hall, hleft⟩ := ihRest h
    have hcaptured := isSome_ofElement? ⟨tag, attributes, inner⟩
    rw [outside_element h]
    cases hsection : DocSection.ofElement? ⟨tag, attributes, inner⟩ with
    | some d =>
      -- A section is met, and nothing inside it.
      rw [hsection, Option.isSome_some] at hcaptured
      rw [outside_of_captured List.mem_cons_self hcaptured.symm, DocSection.extract, hsection]
      refine ⟨?_, ?_, ?_⟩
      · simp [Item.section?, ← hcaptured, hsection, hsections]
      · simp [Content.allText, Item.held, ← hcaptured, hall]
      · simp [Item.left, hleft]
    | none =>
      -- No section is met, but those inside the element.
      rw [hsection, Option.isSome_none] at hcaptured
      obtain ⟨hsectionsInner, hallInner, hleftInner⟩ := ihInner (List.forall_mem_cons.2 ⟨hcaptured.symm, h⟩)
      rw [DocSection.extract, hsection]
      refine ⟨?_, ?_, ?_⟩
      · simp [Item.section?, ← hcaptured, hsections, hsectionsInner]
      · simp [Content.allText, Item.held, ← hcaptured, hall, ← hallInner]
      · simp [Content.allText, Item.left, hleft, ← hleftInner]

/-! ### A symbol and its descriptions -/

/-- The symbol `s'` is `s` with what a description says. -/
structure Tells (c : Content) (s s' : Symbol) : Prop where
  /-- Each note is added once. -/
  notes : s'.notes = s.notes ++ captured .note c
  /-- Each thing that remains to be done is added once. -/
  todos : s'.todos = s.todos ++ captured .todo c
  /-- Each known fault is added once. -/
  bugs : s'.bugs = s.bugs ++ captured .bug c
  /-- What the symbol says about the returned value, or else the first section that says something. -/
  returned : s'.returnComment = DocSection.firstSaid (s.returnComment :: captured .returned c)
  /-- What the symbol refers to, or else the first section that says something. -/
  see : s'.seeAlso = DocSection.firstSaid (s.seeAlso :: captured .see c)
  /-- The author of the symbol, or else the first section that says something. -/
  author : s'.author = DocSection.firstSaid (s.author :: captured .author c)

/-- The sections of a kind that an extraction gives are the outermost ones of that kind. -/
theorem saidBy_extract (k : SectionKind) (c : Content) : DocSection.saidBy k (DocSection.extract c).1 = captured k c := by
  have hsaid : (fun e => (DocSection.ofElement? e).bind (·.said? k)) = fun e => if k.marks e then some (k.textOf e) else none :=
    funext (bind_said? k)
  rw [(extract_spec (List.forall_mem_nil _) c).1, DocSection.saidBy, List.filterMap_filterMap, hsaid, captured,
    ← List.filterMap_eq_map, List.filterMap_filter]
  rfl

/-- What a description adds to texts of a kind. -/
theorem foldl_extract_of_append {told : Symbol → List String} {k : SectionKind}
    (h : ∀ s d, told (DocSection.apply s d) = told s ++ (d.said? k).toList) (c : Content) (s : Symbol) :
    told ((DocSection.extract c).1.foldl DocSection.apply s) = told s ++ captured k c := by
  rw [DocSection.foldl_apply_of_append h, saidBy_extract]

/-- What a description says where one text of a kind counts. -/
theorem foldl_extract_of_orElse {told : Symbol → String} {k : SectionKind}
    (h : ∀ s d, told (DocSection.apply s d) = ((d.said? k).map (DocSection.orElse (told s))).getD (told s))
    (c : Content) (s : Symbol) :
    told ((DocSection.extract c).1.foldl DocSection.apply s) = DocSection.firstSaid (told s :: captured k c) := by
  rw [DocSection.foldl_apply_of_orElse h, saidBy_extract]

theorem tells_extract (c : Content) (s : Symbol) : Tells c s ((DocSection.extract c).1.foldl DocSection.apply s) where
  notes := foldl_extract_of_append (fun s d => by cases d <;> simp [DocSection.apply, DocSection.said?]) c s
  todos := foldl_extract_of_append (fun s d => by cases d <;> simp [DocSection.apply, DocSection.said?]) c s
  bugs := foldl_extract_of_append (fun s d => by cases d <;> simp [DocSection.apply, DocSection.said?]) c s
  returned := foldl_extract_of_orElse (fun s d => by cases d <;> rfl) c s
  see := foldl_extract_of_orElse (fun s d => by cases d <;> rfl) c s
  author := foldl_extract_of_orElse (fun s d => by cases d <;> rfl) c s

/-- The content of the description with the given tag, empty if it is missing. -/
def descriptionContent (e : Element) (tag : String) : Content := ((e.find? tag).map (·.content)).getD .empty

theorem extractDescription_eq (e : Element) (tag : String) :
    extractDescription e tag = DocSection.extract (descriptionContent e tag) := by
  unfold extractDescription descriptionContent
  cases e.find? tag <;> rfl

/-- A symbol is told what its three descriptions say, one after the other, and keeps what is left of their prose. -/
theorem Symbol.describe_tells (s : Symbol) (e : Element) :
    ∃ s₁ s₂ s₃, Tells (descriptionContent e "briefdescription") s s₁ ∧
      Tells (descriptionContent e "detaileddescription") s₁ s₂ ∧
      Tells (descriptionContent e "inbodydescription") s₂ s₃ ∧
      s.describe e = { s₃ with
        brief := proseOf (DocSection.extract (descriptionContent e "briefdescription")).2
        detailed := proseOf (DocSection.extract (descriptionContent e "detaileddescription")).2
        inbody := proseOf (DocSection.extract (descriptionContent e "inbodydescription")).2 } := by
  refine ⟨_, _, _, tells_extract _ _, tells_extract _ _, tells_extract _ _, ?_⟩
  simp only [Symbol.describe, extractDescription_eq, List.foldl_append]

/-- What no section speaks of stays as it is when a symbol is described. -/
theorem Symbol.describe_value (s : Symbol) (e : Element) : (s.describe e).value = s.value := by
  have hsame (s : Symbol) (d : DocSection) : (DocSection.apply s d).value = s.value := by cases d <;> rfl
  exact DocSection.foldl_apply_of_same hsame _ s

/-- **A description is its sections and the rest.** The text of a description is that of what stands outside its sections
together with that of the outermost sections, in document order, and an extraction leaves just the former. Any symbol is told
what the outermost sections say, each once. -/
theorem extract_captures (c : Content) :
    c.allText = String.join ((outside [] c).map Item.held) ∧
      (DocSection.extract c).2.allText = String.join ((outside [] c).map Item.left) ∧
      ∀ s, Tells c s ((DocSection.extract c).1.foldl DocSection.apply s) :=
  have ⟨_, hall, hleft⟩ := extract_spec (List.forall_mem_nil _) c
  ⟨hall, hleft, tells_extract c⟩

-- A section inside a section counts for that one only; one inside a reference of another kind counts for itself.
example :
    let c : Content :=
      .text "Adds " <|
      .element "simplesect" [("kind", "note")]
        (.text "Slow. " <| .element "simplesect" [("kind", "return")] (.text "Nothing." .empty) .empty) <|
      .text "and " <|
      .element "xrefsect" []
        (.element "xreftitle" [] (.text "Test" .empty) <|
         .element "simplesect" [("kind", "note")] (.text "Tested." .empty) <| .text "checks." .empty) .empty
    captured .note c = ["Slow. Nothing.", "Tested."] ∧ captured .returned c = [] ∧
      (DocSection.extract c).2.allText = "Adds and Testchecks." := by
  decide +kernel

end ScriptGlue
