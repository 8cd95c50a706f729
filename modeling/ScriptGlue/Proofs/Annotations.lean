import ScriptGlue.Proofs.ParameterTypes
import ScriptGlue.Proofs.Respacing
import ScriptGlue.Text.Identifier

/-!
# Annotated types of signals

A signal type lists the types of its parameters, some with an annotation behind, and blanks around (`SignalEntry`). Taking the
annotations out leaves the list as it would be without them (`removeAnnotationChars_of_annotated`), and splitting it gives the
types back: **`templateArguments_removeAnnotations`**. Whatever text annotations are taken out of, none is left that is closed.
-/

namespace ScriptGlue.Cpp

open ScriptGlue.Text

/-! ### Cutting -/

/-- A cut is made at an occurrence, and nothing behind another occurrence is lost. -/
theorem cutFirst_spec {p s before after : List Char} (hne : p ≠ []) (h : cutFirst p s = some (before, after)) :
    s = before ++ p ++ after ∧ ∀ x y, s = x ++ p ++ y → y <:+ after := by
  induction s generalizing before with
  | nil => simp [cutFirst, hne] at h
  | cons c s ih =>
    rw [cutFirst] at h
    split at h
    · next hp =>
      obtain ⟨r, hr⟩ := List.isPrefixOf_iff_prefix.1 hp
      cases h
      rw [← hr, List.drop_left]
      refine ⟨rfl, fun x y hs => ?_⟩
      rw [List.append_assoc] at hs
      have hy : y <:+ p ++ r := hs ▸ (List.suffix_append p y).trans (List.suffix_append x _)
      have hlen := congrArg List.length hs
      simp only [List.length_append] at hlen
      exact List.suffix_of_suffix_length_le hy (List.suffix_append p r) (by omega)
    · next hp =>
      obtain ⟨⟨b, a⟩, hcut, hpair⟩ := Option.map_eq_some_iff.1 h
      cases hpair
      obtain ⟨hs, hafter⟩ := ih hcut
      refine ⟨by rw [hs]; rfl, fun x y hxy => ?_⟩
      cases x with
      | nil => exact absurd (List.isPrefixOf_iff_prefix.2 ⟨y, hxy.symm⟩) hp
      | cons d x => exact hafter x y (List.cons.inj hxy).2

theorem not_mem_of_cutFirst_eq_none {c : Char} {s : List Char} (h : cutFirst [c] s = none) : c ∉ s := by
  intro hc
  have hinfix : [c] <:+: s := by
    obtain ⟨u, v, rfl⟩ := List.append_of_mem hc
    exact ⟨u, v, by simp⟩
  rw [← isSome_cutFirst_iff, h] at hinfix
  cases hinfix

/-! ### Annotations -/

/-- What an annotation begins with. -/
def annotationStart : List Char := "ARG(".toList

theorem annotationStart_ne_nil : annotationStart ≠ [] := by decide

theorem removeAnnotationChars_eq (s : List Char) :
    removeAnnotationChars s =
      match cutFirst annotationStart s with
      | none => s
      | some (before, rest) =>
        match cutFirst [')'] rest with
        | none => s
        | some (_, after) => removeAnnotationChars (before ++ after) := by
  rw [removeAnnotationChars]
  split
  · next h => simp only [annotationStart, h]
  · next h => split <;> next h' => simp only [annotationStart, h, h']

/-- No annotation is left that is closed. -/
def IsSpent (s : List Char) : Prop := ∀ x y, s = x ++ annotationStart ++ y → ')' ∉ y

theorem isSpent_of_no_start {s : List Char} (h : ¬ annotationStart <:+: s) : IsSpent s := by
  intro x y hs
  exact absurd ⟨x, y, hs.symm⟩ h

theorem isSpent_removeAnnotationChars (s : List Char) : IsSpent (removeAnnotationChars s) := by
  fun_induction removeAnnotationChars s with
  | case1 s h =>
    refine isSpent_of_no_start ?_
    rw [← isSome_cutFirst_iff, annotationStart, h]
    simp
  | case2 s before rest h h' =>
    intro x y hs hy
    have hsuffix := (cutFirst_spec annotationStart_ne_nil h).2 x y hs
    exact not_mem_of_cutFirst_eq_none h' (hsuffix.subset hy)
  | case3 s before rest h name after h' _ _ ih => exact ih

/-- A text without closed annotations stays as it is. -/
theorem IsSpent.removeAnnotationChars_eq_self {s : List Char} (h : IsSpent s) : removeAnnotationChars s = s := by
  rw [removeAnnotationChars_eq]
  cases hcut : cutFirst annotationStart s with
  | none => rfl
  | some parts =>
    obtain ⟨before, rest⟩ := parts
    have hrest := h before rest (cutFirst_spec annotationStart_ne_nil hcut).1
    cases hclose : cutFirst [')'] rest with
    | none => simp only [hclose]
    | some parts =>
      obtain ⟨hmem, -⟩ := cutFirst_spec (by decide) hclose
      exact absurd (by rw [hmem]; simp) hrest

/-- The second text is the first without some annotations. -/
inductive Annotated : List Char → List Char → Prop
  | nil : Annotated [] []
  /-- A character that belongs to no annotation. -/
  | char (c : Char) {s t : List Char} : Annotated s t → Annotated (c :: s) (c :: t)
  /-- An annotation is left out. -/
  | skip {name s t : List Char} : ')' ∉ name → Annotated s t → Annotated (annotationStart ++ name ++ ')' :: s) t

namespace Annotated

theorem refl (s : List Char) : Annotated s s := by
  induction s with
  | nil => exact .nil
  | cons c s ih => exact .char c ih

theorem append {s t s' t' : List Char} (h : Annotated s t) (h' : Annotated s' t') : Annotated (s ++ s') (t ++ t') := by
  induction h with
  | nil => exact h'
  | char c _ ih => exact .char c ih
  | skip hname _ ih =>
    rw [List.append_assoc]
    exact .skip hname ih

end Annotated

/-- The beginning of an annotation does not overlap with itself. -/
theorem not_prefix_annotationStart {s : List Char} (hne : s ≠ []) (h : ¬ annotationStart <+: s) (t : List Char) :
    ¬ annotationStart <+: s ++ (annotationStart ++ t) := by
  rcases s with _ | ⟨c, _ | ⟨d, _ | ⟨e, _ | ⟨f, s⟩⟩⟩⟩
  · exact absurd rfl hne
  · simp [annotationStart]
  · simp [annotationStart]
  · simp [annotationStart]
  · simpa [annotationStart] using h

/-- The first annotation behind a text that has none begins where the text ends. -/
theorem cutFirst_annotationStart {s : List Char} (h : ¬ annotationStart <:+: s) (t : List Char) :
    cutFirst annotationStart (s ++ (annotationStart ++ t)) = some (s, t) := by
  induction s with
  | nil => exact if_pos (List.isPrefixOf_iff_prefix.2 (List.prefix_append annotationStart t))
  | cons c s ih =>
    rw [List.infix_cons_iff, not_or] at h
    have hprefix := not_prefix_annotationStart (List.cons_ne_nil c s) h.1 t
    rw [List.cons_append] at hprefix ⊢
    rw [cutFirst, if_neg (mt List.isPrefixOf_iff_prefix.1 hprefix), ih h.2]
    rfl

/-- Annotations are taken out of a text that has no others. -/
theorem removeAnnotationChars_of_annotated {s t : List Char} (h : Annotated s t) {u : List Char}
    (hu : ¬ annotationStart <:+: u ++ t) : removeAnnotationChars (u ++ s) = u ++ t := by
  -- a removal starts over, so the text `u` read so far stays in front and has to be free of annotations with what follows
  induction h generalizing u with
  | nil => exact (isSpent_of_no_start hu).removeAnnotationChars_eq_self
  | char c _ ih =>
    rw [← List.singleton_append, ← List.append_assoc] at hu ⊢
    rw [ih hu, List.append_assoc, List.singleton_append]
  | @skip name s t hname _ ih =>
    have hstart : ¬ annotationStart <:+: u := fun hc => hu (hc.trans (List.prefix_append _ _).isInfix)
    rw [removeAnnotationChars_eq, List.append_assoc, cutFirst_annotationStart hstart]
    simp only [cutFirst_append hname]
    exact ih hu

/-! ### Arguments -/

/-- The text has balanced angle brackets, `depth` being open before it, and no comma outside them. -/
def isWhole : Nat → List Char → Bool
  | depth, [] => depth == 0
  | depth, c :: s =>
    if c == '<' then isWhole (depth + 1) s
    else if c == '>' then depth != 0 && isWhole (depth - 1) s
    else (c != ',' || depth != 0) && isWhole depth s

theorem isWhole_append {s t : List Char} {depth : Nat} (hs : isWhole depth s = true) (ht : isWhole 0 t = true) :
    isWhole depth (s ++ t) = true := by
  fun_induction isWhole depth s with
  | case1 depth => rwa [beq_iff_eq.1 hs]
  | case2 depth c s hc ih => simpa [isWhole, hc] using ih hs
  | case3 depth c s hc hc' ih =>
    rw [Bool.and_eq_true] at hs
    simpa [isWhole, hc, hc', hs.1] using ih hs.2
  | case4 depth c s hc hc' ih =>
    rw [Bool.and_eq_true] at hs
    rw [List.cons_append, isWhole, if_neg hc, if_neg hc', hs.1, Bool.true_and]
    exact ih hs.2

theorem isWhole_of_blank {s : List Char} (h : ∀ c ∈ s, isBlank c = true) : isWhole 0 s = true := by
  induction s with
  | nil => rfl
  | cons c s ih =>
    obtain ⟨hc, hs⟩ := List.forall_mem_cons.1 h
    have hne : ∀ {d}, isBlank d = false → c ≠ d := ne_of_isBlank hc
    simpa [isWhole, hne (d := '<') (by decide), hne (d := '>') (by decide), hne (d := ',') (by decide)] using ih hs

theorem splitArguments_keep {depth next : Nat} {c : Char} {s piece : List Char} {later : List (List Char)}
    (hnext : depthAfter depth c = next) (hc : c = ',' → depth ≠ 0) (hs : splitArguments next s = piece :: later) :
    splitArguments depth (c :: s) = (c :: piece) :: later := by
  obtain ⟨first, others, hfirst, hcons⟩ := splitArguments_cons depth c s
  rw [hnext, hs] at hfirst
  cases hfirst
  rw [hcons, if_neg]
  simpa using hc

/-- A whole text goes to one piece. -/
theorem splitArguments_append {s : List Char} {depth : Nat} (h : isWhole depth s = true) {t piece : List Char}
    {later : List (List Char)} (ht : splitArguments 0 t = piece :: later) :
    splitArguments depth (s ++ t) = (s ++ piece) :: later := by
  fun_induction isWhole depth s with
  | case1 depth => rwa [beq_iff_eq.1 h]
  | case2 depth c s hc ih => exact splitArguments_keep (by simp [depthAfter, hc]) (by rintro rfl; simp at hc) (ih h)
  | case3 depth c s hc hc' ih =>
    rw [Bool.and_eq_true, bne_iff_ne] at h
    have hpos : ((depth - 1 : Nat) : Int) = depth - 1 := by omega
    exact splitArguments_keep (by simp [depthAfter, hc, hc', hpos]) (by rintro rfl; simp at hc') (ih h.2)
  | case4 depth c s hc hc' ih =>
    rw [Bool.and_eq_true] at h
    exact splitArguments_keep (by simp [depthAfter, hc, hc']) (by rintro rfl; simpa using h.1) (ih h.2)

theorem splitArguments_intercalate {pieces : List (List Char)} (hne : pieces ≠ [])
    (h : ∀ p ∈ pieces, isWhole 0 p = true) : splitArguments 0 ([','].intercalate pieces) = pieces := by
  induction pieces with
  | nil => exact absurd rfl hne
  | cons first pieces ih =>
    obtain ⟨hfirst, hpieces⟩ := List.forall_mem_cons.1 h
    cases pieces with
    | nil => simpa using splitArguments_append hfirst (t := []) rfl
    | cons second pieces =>
      have hcomma : splitArguments 0 (',' :: [','].intercalate (second :: pieces)) = [] :: second :: pieces := by
        rw [splitArguments, ih (List.cons_ne_nil _ _) hpieces]
        rfl
      have hsplit := splitArguments_append hfirst hcomma
      rwa [List.append_nil, ← List.singleton_append, ← List.append_assoc, ← List.intercalate_cons_cons] at hsplit

/-! ### Identifiers -/

theorem isIdentifierChar_of_mem {s : List Char} (h : isIdentifier s = true) {c : Char} (hc : c ∈ s) :
    isIdentifierChar c = true := by
  cases s with
  | nil => cases hc
  | cons d s =>
    rw [isIdentifier, Bool.and_eq_true, List.all_eq_true] at h
    rcases List.mem_cons.1 hc with rfl | hc
    · simp only [isIdentifierStart, Bool.and_eq_true] at h
      exact h.1.1.1.1
    · exact h.2 c hc

/-- No punctuation of a type stands in an identifier. -/
theorem not_mem_of_isIdentifier {s : List Char} (h : isIdentifier s = true) : '(' ∉ s ∧ ')' ∉ s ∧ '<' ∉ s := by
  have hnone : ∀ {c}, isIdentifierChar c = false → c ∉ s :=
    fun hc hmem => Bool.false_ne_true (hc.symm.trans (isIdentifierChar_of_mem h hmem))
  exact ⟨hnone (by decide +kernel), hnone (by decide +kernel), hnone (by decide +kernel)⟩

/-! ### Signals -/

/-- The text of a type as an argument should be written: single spaces, none just inside angle brackets, the brackets
balanced, no comma outside them and no annotation. -/
structure IsTypeText (text : String) : Prop where
  collapsed : collapse text = text
  opening : ¬ ['<', ' '] <:+: text.toList
  closing : ¬ [' ', '>'] <:+: text.toList
  whole : isWhole 0 text.toList = true
  unannotated : ¬ annotationStart <:+: text.toList

instance (text : String) : Decidable (IsTypeText text) :=
  decidable_of_iff (collapse text = text ∧ ¬ ['<', ' '] <:+: text.toList ∧ ¬ [' ', '>'] <:+: text.toList ∧
      isWhole 0 text.toList = true ∧ ¬ annotationStart <:+: text.toList)
    ⟨fun ⟨hcollapse, hopen, hclose, hwhole, hnone⟩ => ⟨hcollapse, hopen, hclose, hwhole, hnone⟩,
      fun ⟨hcollapse, hopen, hclose, hwhole, hnone⟩ => ⟨hcollapse, hopen, hclose, hwhole, hnone⟩⟩

/-- What stands in the list of a signal type for one parameter. -/
structure SignalEntry where
  type : String
  /-- The name in the annotation, if there is one. -/
  label : Option String
  /-- The blanks before the type. -/
  before : String
  /-- The blanks between the type and its annotation. -/
  between : String
  /-- The blanks behind both. -/
  after : String

namespace SignalEntry

/-- The entry without its annotation. -/
def bare (e : SignalEntry) : String := e.before ++ e.type ++ (e.between ++ e.after)

/-- The entry as it is written. -/
def spelling (e : SignalEntry) : String :=
  match e.label with
  | none => e.bare
  | some name => e.before ++ e.type ++ e.between ++ ("ARG(" ++ name ++ ")") ++ e.after

/-- The parts of an entry are what they should be. -/
structure IsWritten (e : SignalEntry) : Prop where
  type : IsTypeText e.type
  label : ∀ name ∈ e.label, isIdentifier name.toList = true
  before : ∀ c ∈ e.before.toList, isBlank c = true
  between : ∀ c ∈ e.between.toList, isBlank c = true
  after : ∀ c ∈ e.after.toList, isBlank c = true

instance (e : SignalEntry) : Decidable e.IsWritten :=
  decidable_of_iff (IsTypeText e.type ∧ (∀ name ∈ e.label, isIdentifier name.toList = true) ∧
      e.before.toList.all isBlank = true ∧ e.between.toList.all isBlank = true ∧ e.after.toList.all isBlank = true)
    ⟨fun ⟨htype, hname, hbefore, hbetween, hafter⟩ =>
        ⟨htype, hname, List.all_eq_true.1 hbefore, List.all_eq_true.1 hbetween, List.all_eq_true.1 hafter⟩,
      fun ⟨htype, hname, hbefore, hbetween, hafter⟩ =>
        ⟨htype, hname, List.all_eq_true.2 hbefore, List.all_eq_true.2 hbetween, List.all_eq_true.2 hafter⟩⟩

end SignalEntry

/-- The type of a signal with the entries in its list. -/
def signalType (name : String) (entries : List String) : String := name ++ "<" ++ ",".intercalate entries ++ ">"

theorem toList_signalType (name : String) (entries : List String) :
    (signalType name entries).toList = name.toList ++ '<' :: ([','].intercalate (entries.map String.toList) ++ ['>']) := by
  simp [signalType, String.toList_intercalate]

theorem IsTypeText.tighten_eq {text : String} (h : IsTypeText text) : tighten text.toList = text.toList := by
  rw [Cpp.tighten_eq, squeeze_eq_self h.opening, squeeze_eq_self h.closing]

namespace SignalEntry

theorem toList_bare (e : SignalEntry) :
    e.bare.toList = e.before.toList ++ e.type.toList ++ (e.between ++ e.after).toList := by
  simp [bare]

namespace IsWritten

variable {e : SignalEntry} (h : e.IsWritten)

include h

theorem annotated : Annotated e.spelling.toList e.bare.toList := by
  cases hname : e.label with
  | none =>
    rw [spelling, hname]
    exact .refl _
  | some name =>
    have hclose := (not_mem_of_isIdentifier (h.label name hname)).2.1
    have hspelling : e.spelling.toList =
        (e.before ++ e.type ++ e.between).toList ++ (annotationStart ++ name.toList ++ ')' :: e.after.toList) := by
      simp [spelling, hname, annotationStart]
    have hbare : e.bare.toList = (e.before ++ e.type ++ e.between).toList ++ e.after.toList := by
      simp [bare]
    rw [hspelling, hbare]
    exact (Annotated.refl _).append (.skip hclose (.refl _))

theorem blanks_behind : ∀ c ∈ (e.between ++ e.after).toList, isBlank c = true := by
  intro c hc
  rw [String.toList_append] at hc
  exact (List.mem_append.1 hc).elim (h.between c) (h.after c)

theorem unannotated : ¬ annotationStart <:+: e.bare.toList := by
  have hsolid : Solid annotationStart := by decide
  rw [toList_bare, infix_between_iff (fun c hc => hsolid.not_mem_of_blank (h.before c hc))
    (fun c hc => hsolid.not_mem_of_blank (h.blanks_behind c hc)) annotationStart_ne_nil]
  exact h.type.unannotated

theorem isWhole_bare : isWhole 0 e.bare.toList = true := by
  rw [toList_bare]
  exact isWhole_append (isWhole_append (isWhole_of_blank h.before) h.type.whole) (isWhole_of_blank h.blanks_behind)

/-- The blanks around a type do not count. -/
theorem tighten_collapse_bare : String.ofList (tighten (collapseChars e.bare.toList)) = e.type := by
  have hcollapse : collapseChars e.type.toList = e.type.toList := by
    rw [← String.toList_ofList (l := collapseChars _), ← collapse, h.type.collapsed]
  rw [toList_bare, collapseChars_around h.before h.blanks_behind, hcollapse, h.type.tighten_eq, String.ofList_toList]

end IsWritten

end SignalEntry

/-- Texts joined by commas, each with annotations. -/
theorem annotated_intercalate {entries : List SignalEntry} (h : ∀ e ∈ entries, e.IsWritten) :
    Annotated ([','].intercalate (entries.map fun e => e.spelling.toList))
      ([','].intercalate (entries.map fun e => e.bare.toList)) := by
  induction entries with
  | nil => exact .nil
  | cons e entries ih =>
    obtain ⟨he, hentries⟩ := List.forall_mem_cons.1 h
    cases entries with
    | nil => simpa using he.annotated
    | cons next entries =>
      simp only [List.map_cons, List.intercalate_cons_cons] at ih ⊢
      exact (he.annotated.append (.refl _)).append (ih hentries)

/-- The annotations are taken out of a signal type, and nothing else is. -/
theorem removeAnnotations_signalType {name : String} (hname : isIdentifier name.toList = true) {entries : List SignalEntry}
    (h : ∀ e ∈ entries, e.IsWritten) :
    removeAnnotations (signalType name (entries.map SignalEntry.spelling)) =
      signalType name (entries.map SignalEntry.bare) := by
  have hmark : ∀ {s : List Char}, '(' ∉ s → ¬ annotationStart <:+: s := fun hs hc => hs (hc.subset (by decide))
  have hnone : ¬ annotationStart <:+: [] ++ (signalType name (entries.map SignalEntry.bare)).toList := by
    rw [List.nil_append, toList_signalType, infix_append_cons_iff (by decide) annotationStart_ne_nil,
      infix_append_cons_iff (by decide) annotationStart_ne_nil,
      infix_intercalate_iff (by decide) annotationStart_ne_nil]
    rintro (hc | ⟨piece, hpiece, hc⟩ | hc)
    · exact hmark (not_mem_of_isIdentifier hname).1 hc
    · rw [List.map_map, List.mem_map] at hpiece
      obtain ⟨e, he, rfl⟩ := hpiece
      exact (h e he).unannotated hc
    · exact hmark List.not_mem_nil hc
  have hannotated : Annotated (signalType name (entries.map SignalEntry.spelling)).toList
      (signalType name (entries.map SignalEntry.bare)).toList := by
    rw [toList_signalType, toList_signalType, List.map_map, List.map_map]
    exact (Annotated.refl _).append (.char _ ((annotated_intercalate h).append (.refl _)))
  rw [← String.toList_inj, removeAnnotations, String.toList_ofList]
  exact removeAnnotationChars_of_annotated hannotated hnone

theorem betweenBrackets?_signalType {name : String} (hname : '<' ∉ name.toList) (entries : List String) :
    betweenBrackets? (signalType name entries).toList = some ([','].intercalate (entries.map String.toList)) := by
  rw [betweenBrackets?, toList_signalType, cutFirst_append hname, Option.bind_some]
  simp only [cutLast_concat (List.cons_ne_nil _ _), Option.map_some]

/-- The entries of a signal are read back as types, but for a sole `void`. -/
theorem templateArguments_signalType {name : String} (hname : isIdentifier name.toList = true) {entries : List SignalEntry}
    (h : ∀ e ∈ entries, e.IsWritten) (hvoid : entries.map (·.type) ≠ ["void"]) (hempty : entries.map (·.type) ≠ [""]) :
    templateArguments (signalType name (entries.map SignalEntry.bare)) = entries.map (·.type) := by
  have hbetween := betweenBrackets?_signalType (not_mem_of_isIdentifier hname).2.2 (entries.map SignalEntry.bare)
  rw [List.map_map] at hbetween
  simp only [templateArguments, hbetween]
  by_cases hnil : entries = []
  · subst hnil
    rfl
  have hpieces : splitArguments 0 ([','].intercalate (entries.map (String.toList ∘ SignalEntry.bare))) =
      entries.map (String.toList ∘ SignalEntry.bare) := by
    refine splitArguments_intercalate (by simpa using hnil) fun piece hpiece => ?_
    obtain ⟨e, he, rfl⟩ := List.mem_map.1 hpiece
    exact (h e he).isWhole_bare
  have htypes : (entries.map (String.toList ∘ SignalEntry.bare)).map (fun a => String.ofList (tighten (collapseChars a))) =
      entries.map (·.type) := by
    rw [List.map_map]
    exact List.map_congr_left fun e he => (h e he).tighten_collapse_bare
  rw [hpieces, htypes, if_neg]
  simp only [Bool.or_eq_true, beq_iff_eq, not_or]
  exact ⟨hvoid, hempty⟩

/-- **The types of a signal are read back from their annotated spelling.** Taking annotations out of any text leaves none
that is closed, and doing it again changes nothing. -/
theorem templateArguments_removeAnnotations :
    (∀ (name : String) (entries : List SignalEntry), isIdentifier name.toList = true → (∀ e ∈ entries, e.IsWritten) →
      entries.map (·.type) ≠ ["void"] → entries.map (·.type) ≠ [""] →
      templateArguments (removeAnnotations (signalType name (entries.map SignalEntry.spelling))) = entries.map (·.type)) ∧
    ∀ text : String, IsSpent (removeAnnotations text).toList ∧
      removeAnnotations (removeAnnotations text) = removeAnnotations text := by
  constructor
  · intro name entries hname h hvoid hempty
    rw [removeAnnotations_signalType hname h, templateArguments_signalType hname h hvoid hempty]
  · intro text
    have hspent : IsSpent (removeAnnotations text).toList := by
      rw [removeAnnotations, String.toList_ofList]
      exact isSpent_removeAnnotationChars text.toList
    refine ⟨hspent, ?_⟩
    rw [removeAnnotations, hspent.removeAnnotationChars_eq_self, String.ofList_toList]

theorem templateArguments_removeAnnotations_signal2 :
    templateArguments (removeAnnotations "Signal2< Entity *ARG(entity), HashMap<int, float> >") =
      ["Entity *", "HashMap<int, float>"] := by
  have hspelling : signalType "Signal2" ([⟨"Entity *", some "entity", " ", "", ""⟩,
      ⟨"HashMap<int, float>", none, " ", "", " "⟩].map SignalEntry.spelling) =
        "Signal2< Entity *ARG(entity), HashMap<int, float> >" := by decide +kernel
  rw [← hspelling]
  exact templateArguments_removeAnnotations.1 "Signal2" _ (by decide +kernel) (by decide +kernel) (by decide) (by decide)

end ScriptGlue.Cpp
