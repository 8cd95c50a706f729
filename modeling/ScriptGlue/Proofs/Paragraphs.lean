import ScriptGlue.Proofs.CapturedSections
import ScriptGlue.Proofs.ParameterTypes
import ScriptGlue.Proofs.Respacing
import ScriptGlue.Proofs.Snippets

/-!
# Text and paragraphs

The prose of a description is the text of its paragraphs, each on a line, or else all of its text where no paragraph
stands at the top. Only blanks are made anew: the prose has the characters of these texts (`visible_proseOf`) and their
marks (`occursIn_proseOf`). What stands beside the paragraphs (`Content.textBeside`) gets into no line. So a description
is kept whole just if it has no paragraphs, or nothing but blanks beside them: **`keepsText_iff`**.
-/

namespace ScriptGlue

open ScriptGlue.Text ScriptGlue.Xml

/-! ### Characters that are no blanks -/

namespace Text

/-- The characters of a text that are no blanks. -/
def visible (s : String) : List Char := s.toList.filter fun c => !isBlank c

/-- A mark in a text is a word: it is not empty and has no blanks. -/
structure IsMark (w : String) : Prop where
  ne_nil : w.toList ≠ []
  solid : ∀ c ∈ w.toList, isBlank c = false

theorem visible_append (s t : String) : visible (s ++ t) = visible s ++ visible t := by
  rw [visible, String.toList_append, List.filter_append, visible, visible]

section

variable {w : List Char} (hw : ∀ c ∈ w, isBlank c = false) (hne : w ≠ [])

include hw hne

/-- No word stands where a blank does. -/
theorem not_prefix_of_blank {s : List Char} (hs : ∀ d ∈ s.head?, isBlank d = true) : ¬ w <+: s := by
  rintro ⟨r, rfl⟩
  obtain ⟨c, w, rfl⟩ := List.exists_cons_of_ne_nil hne
  have hblank := hs c rfl
  rw [hw c List.mem_cons_self] at hblank
  cases hblank

end

namespace Respaced

variable {s t : List Char}

theorem filter_eq (h : Respaced s t) : (s.filter fun c => !isBlank c) = t.filter fun c => !isBlank c := by
  induction h with
  | nil => rfl
  | keep hc _ ih => simp [hc, ih]
  | blank hc hd _ ih => simp [hc, hd, ih]
  | skip hc _ _ ih => simpa [hc] using ih

theorem prefix_iff {w : List Char} (hw : ∀ c ∈ w, isBlank c = false) (h : Respaced s t) : w <+: s ↔ w <+: t := by
  induction h generalizing w with
  | nil => exact Iff.rfl
  | keep hc _ ih =>
    cases w with
    | nil => exact iff_of_true List.nil_prefix List.nil_prefix
    | cons e w => rw [List.cons_prefix_cons, List.cons_prefix_cons, ih fun c hc => hw c (List.mem_cons_of_mem e hc)]
  | blank hc hd _ _ =>
    by_cases hne : w = []
    · rw [hne]
      exact iff_of_true List.nil_prefix List.nil_prefix
    · exact iff_of_false (not_prefix_of_blank hw hne (by simpa using hc)) (not_prefix_of_blank hw hne (by simpa using hd))
  | skip hc hs _ ih =>
    by_cases hne : w = []
    · rw [hne]
      exact iff_of_true List.nil_prefix List.nil_prefix
    · rw [← ih hw]
      exact iff_of_false (not_prefix_of_blank hw hne (by simpa using hc)) (not_prefix_of_blank hw hne hs)

/-- A word stands in a text or in its respacing. -/
theorem infix_iff {w : List Char} (hw : ∀ c ∈ w, isBlank c = false) (hne : w ≠ []) (h : Respaced s t) :
    w <:+: s ↔ w <:+: t := by
  induction h with
  | nil => exact Iff.rfl
  | keep hc h ih => rw [List.infix_cons_iff, List.infix_cons_iff, ih, (keep hc h).prefix_iff hw]
  | blank hc hd h ih => rw [List.infix_cons_iff, List.infix_cons_iff, ih, (blank hc hd h).prefix_iff hw]
  | skip hc _ _ ih => rw [List.infix_cons_iff, ih, or_iff_right (not_prefix_of_blank hw hne (by simpa using hc))]

end Respaced

theorem visible_collapse (s : String) : visible (collapse s) = visible s := by
  rw [visible, visible, collapse, String.toList_ofList, (respaced_spaced s.toList).filter_eq]
  rcases spaced_splitWords s.toList with h | h <;> rw [h]
  rfl

theorem IsMark.occursIn_collapse {w : String} (hw : IsMark w) (s : String) :
    occursIn w (collapse s) = true ↔ occursIn w s = true := by
  rw [occursIn_iff, occursIn_iff, collapse, String.toList_ofList, (respaced_spaced s.toList).infix_iff hw.solid hw.ne_nil]
  rcases spaced_splitWords s.toList with h | h <;> rw [h]
  rw [List.infix_cons_iff, or_iff_right (not_prefix_of_blank hw.solid hw.ne_nil _)]
  rintro d ⟨⟩
  rfl

/-! ### Lines -/

theorem visible_lines (lines : List String) : visible ("\n".intercalate lines) = lines.flatMap visible := by
  rw [visible, String.toList_intercalate]
  induction lines with
  | nil => rfl
  | cons line lines ih =>
    cases lines with
    | nil => simp [visible]
    | cons next lines =>
      have hbreak : "\n".toList.filter (fun c => !isBlank c) = [] := by decide
      rw [List.map_cons, List.map_cons, List.intercalate_cons_cons, List.filter_append, List.filter_append, hbreak,
        ← List.map_cons, ih, List.append_nil, ← visible, List.flatMap_cons, List.flatMap_cons, List.flatMap_cons]

theorem IsMark.occursIn_lines {w : String} (hw : IsMark w) (lines : List String) :
    occursIn w ("\n".intercalate lines) = true ↔ ∃ line ∈ lines, occursIn w line = true := by
  have hbreak : '\n' ∉ w.toList := fun hc => absurd (hw.solid _ hc) (by decide)
  simp only [occursIn_iff, String.toList_intercalate]
  rw [show "\n".toList = ['\n'] from rfl, infix_intercalate_iff hbreak hw.ne_nil]
  simp only [List.mem_map, exists_exists_and_eq_and]

/-- Lines that say nothing have no characters and no marks. -/
theorem flatMap_visible_filter (lines : List String) :
    (lines.filter (!·.isEmpty)).flatMap visible = lines.flatMap visible := by
  induction lines with
  | nil => rfl
  | cons line lines ih =>
    by_cases h : line = ""
    · subst h
      simpa [visible] using ih
    · simp [h, ih]

theorem IsMark.exists_mem_filter {w : String} (hw : IsMark w) (lines : List String) :
    (∃ line ∈ lines.filter (!·.isEmpty), occursIn w line = true) ↔ ∃ line ∈ lines, occursIn w line = true := by
  have hne : ∀ {line}, occursIn w line = true → line ≠ "" := by
    rintro line h rfl
    rw [occursIn_iff] at h
    exact hw.ne_nil (List.infix_nil.1 h)
  constructor
  · rintro ⟨line, hline, h⟩
    exact ⟨line, (List.mem_filter.1 hline).1, h⟩
  · rintro ⟨line, hline, h⟩
    exact ⟨line, List.mem_filter.2 ⟨hline, by simpa using hne h⟩, h⟩

end Text

/-! ### Prose -/

/-- The texts that make up the prose of some content, each for a line. -/
def proseTexts (c : Content) : List String :=
  if (c.named "para").isEmpty then [c.allText] else (c.named "para").map (·.content.allText)

/-- Prose has the characters of its texts. -/
theorem visible_proseOf (c : Content) : visible (proseOf c) = (proseTexts c).flatMap visible := by
  rw [proseOf, proseTexts]
  split
  · rw [visible_collapse, List.flatMap_singleton]
  · rw [visible_lines, flatMap_visible_filter, List.flatMap_map, List.flatMap_map]
    simp only [visible_collapse]

/-- Prose has the marks of its texts. -/
theorem occursIn_proseOf {w : String} (hw : IsMark w) (c : Content) :
    occursIn w (proseOf c) = true ↔ ∃ text ∈ proseTexts c, occursIn w text = true := by
  rw [proseOf, proseTexts]
  split
  · rw [hw.occursIn_collapse]
    simp
  · rw [hw.occursIn_lines, hw.exists_mem_filter]
    simp only [List.mem_map, exists_exists_and_eq_and, hw.occursIn_collapse]

/-! ### What stands beside paragraphs -/

/-- The text that stands beside the elements at the top that have the given name. -/
def Xml.Content.textBeside (tag : String) : Content → String
  | .empty => ""
  | .text chars rest => chars ++ rest.textBeside tag
  | .element t _ inner rest => (if t == tag then "" else inner.allText) ++ rest.textBeside tag

theorem Xml.Content.named_text (tag chars : String) (rest : Content) : (Content.text chars rest).named tag = rest.named tag :=
  rfl

theorem Xml.Content.named_element (tag t : String) (attributes : List (String × String)) (inner rest : Content) :
    (Content.element t attributes inner rest).named tag =
      (if t == tag then [⟨t, attributes, inner⟩] else []) ++ rest.named tag := by
  cases h : t == tag <;> simp [Content.named, Content.elements, h]

/-- All characters are in the elements with the name or beside them. -/
theorem visible_allText (tag : String) (c : Content) :
    ((c.named tag).flatMap fun e => visible e.content.allText).Sublist (visible c.allText) ∧
      (visible c.allText).length =
        ((c.named tag).flatMap fun e => visible e.content.allText).length + (visible (c.textBeside tag)).length := by
  induction c with
  | empty => exact ⟨List.Sublist.refl _, rfl⟩
  | text chars rest ih =>
    obtain ⟨hsub, hlen⟩ := ih
    rw [Content.named_text, Content.allText, Content.textBeside, visible_append, visible_append, List.length_append,
      List.length_append]
    exact ⟨hsub.trans (List.sublist_append_right _ _), by omega⟩
  | element t attributes inner rest _ ih =>
    obtain ⟨hsub, hlen⟩ := ih
    rw [Content.named_element, Content.allText, Content.textBeside, visible_append, visible_append, List.length_append,
      List.length_append, List.flatMap_append]
    cases t == tag with
    | true =>
      simp only [if_true, List.flatMap_singleton, List.length_append]
      exact ⟨hsub.append_left _, by rw [hlen]; simp [visible]; omega⟩
    | false =>
      simp only [Bool.false_eq_true, if_false, List.flatMap_nil, List.nil_append]
      exact ⟨hsub.trans (List.sublist_append_right _ _), by omega⟩

/-- The prose of some content and its text differ in blanks only. -/
def KeepsText (c : Content) : Prop := visible (proseOf c) = visible c.allText

instance (c : Content) : Decidable (KeepsText c) := inferInstanceAs (Decidable (_ = _))

theorem keepsText_iff_beside (c : Content) :
    KeepsText c ↔ c.named "para" = [] ∨ visible (c.textBeside "para") = [] := by
  obtain ⟨hsub, hlen⟩ := visible_allText "para" c
  rw [KeepsText, visible_proseOf, proseTexts]
  by_cases h : c.named "para" = []
  · rw [h]
    exact iff_of_true (by simp) (.inl rfl)
  · rw [if_neg (by simpa using h), List.flatMap_map, or_iff_right h, ← List.length_eq_zero_iff]
    constructor
    · intro heq
      rw [heq] at hlen
      omega
    · intro hnone
      exact hsub.eq_of_length (by omega)

/-! ### Descriptions of a symbol -/

/-- The elements that describe a symbol. -/
def descriptionTags : List String := ["briefdescription", "detaileddescription", "inbodydescription"]

/-- The prose of a symbol in its three descriptions. -/
def Symbol.proses (s : Symbol) : List String := [s.brief, s.detailed, s.inbody]

/-- What is left of a description when its sections are taken out. -/
def leftOf (e : Element) (tag : String) : Content := (DocSection.extract (descriptionContent e tag)).2

theorem Symbol.proses_describe (s : Symbol) (e : Element) :
    (s.describe e).proses = descriptionTags.map fun tag => proseOf (leftOf e tag) := by
  simp only [describe, proses, descriptionTags, List.map_cons, List.map_nil, leftOf, extractDescription_eq]

/-- **Prose is whole unless something stands beside its paragraphs.** A symbol gets the prose of what is left of its
descriptions, which is all text outside their sections. That prose has all characters just if there are no paragraphs or
only blanks beside them, and it has a mark just if one of its texts has. -/
theorem keepsText_iff (s : Symbol) (e : Element) :
    (s.describe e).proses = descriptionTags.map (fun tag => proseOf (leftOf e tag)) ∧
      (∀ tag, (leftOf e tag).allText = String.join ((outside [] (descriptionContent e tag)).map Item.left)) ∧
      ∀ c : Content, (KeepsText c ↔ c.named "para" = [] ∨ visible (c.textBeside "para") = []) ∧
        ∀ w, IsMark w → (occursIn w (proseOf c) = true ↔ ∃ text ∈ proseTexts c, occursIn w text = true) := by
  refine ⟨s.proses_describe e, fun tag => ?_, fun c => ⟨keepsText_iff_beside c, fun w hw => occursIn_proseOf hw c⟩⟩
  exact (extract_spec (List.forall_mem_nil _) _).2.2

theorem isMark_hiddenMark : IsMark hiddenMark :=
  have hsolid : Solid hiddenMark.toList := by decide
  ⟨by decide, fun c hc => (hsolid c hc).1⟩

/-- A description with a note beside its paragraph, and a mark behind the note. -/
def notedDescription : Content :=
  .element "para" [] (.text "Adds a child." .empty) <|
  .element "simplesect" [("kind", "note")] (.element "para" [] (.text "Slow." .empty) .empty) <|
  .text "[noscript]" .empty

/-- The text behind a section is kept, and lost beside a paragraph: no mark is found in the prose. -/
theorem not_keepsText_noted :
    let left := (DocSection.extract notedDescription).2
    occursIn hiddenMark left.allText = true ∧ ¬ KeepsText left ∧ occursIn hiddenMark (proseOf left) = false := by
  decide +kernel

/-- A mark in a paragraph is found, whatever stands beside it. -/
theorem keepsText_iff_marked :
    let c : Content := .element "para" [] (.text "Adds a child\n [noscript]." .empty) (.text "Slow." .empty)
    IsMark hiddenMark ∧ occursIn hiddenMark (proseOf c) = true ∧ ¬ KeepsText c :=
  have h := (keepsText_iff {} ⟨"memberdef", [], .empty⟩).2.2
    (.element "para" [] (.text "Adds a child\n [noscript]." .empty) (.text "Slow." .empty))
  ⟨isMark_hiddenMark, (h.2 hiddenMark isMark_hiddenMark).2 ⟨_, List.mem_singleton.2 rfl, by decide +kernel⟩,
    mt h.1.1 (by decide +kernel)⟩

end ScriptGlue
