import ScriptGlue.Proofs.DeclaredNames

/-!
# Types in declarations

The generated code keeps a result in a variable, whose type is declared in one spelling while the way to push it was chosen
by another. **`declaration_agrees_iff`** says for which types the two have the same descriptor: for all but those whose
innermost name begins with the letters of `const` and has none before it, since the rule for `const` does not look whether
the word ends there.
-/

namespace ScriptGlue.Cpp

open ScriptGlue.Text

/-! ### Types of results -/

/-- A qualified name that a result may have. -/
structure ResultName where
  qualifiers : List String
  name : String
  words : ∀ w ∈ qualifiers ++ [name], IsWord w
  notConst : ¬ constWord <+: qualifiedChars qualifiers name
  notScoped : ¬ "AttributeChange".toList <+: qualifiedChars qualifiers name
  notMarked : ¬ constWord <:+ name.toList
  notVector : name ≠ "vec"

namespace ResultName

variable (q : ResultName)

/-- The characters of the name. -/
def chars : List Char := qualifiedChars q.qualifiers q.name

/-- The characters of the name in a declaration. -/
def declared : List Char := qualifiedChars (ownersOf q.name) q.name

end ResultName

/-- The type of a result with what stands around it. -/
inductive ResultType where
  | name (decor : Decor) (q : ResultName)
  | container (decor : Decor) (c : Container) (argument : ResultType)

namespace ResultType

/-- What stands around the type. -/
def decor : ResultType → Decor
  | name d _ => d
  | container d _ _ => d

/-- The innermost name with what stands around it. -/
def innermost : ResultType → Decor × ResultName
  | name d q => (d, q)
  | container _ _ argument => argument.innermost

/-- A spelling of a type whose names are written in some way. -/
inductive Spells (write : ResultName → List Char) : ResultType → List Char → Prop
  | name {d : Decor} {q : ResultName} {s : List Char} : d.Spells true (write q) s → Spells write (.name d q) s
  | container {d : Decor} {c : Container} {argument : ResultType} {inner s : List Char} : Spells write argument inner →
      d.Spells false (c.chars inner) s → Spells write (.container d c argument) s

/-- Names are written without blanks and brackets, and end as names do. -/
def IsWriting (write : ResultName → List Char) : Prop := ∀ q, IsBody (write q) ∧ Solid (write q)

end ResultType

/-! ### Respaced spellings -/

theorem LeadingConst.respaced {leading : Bool} {lead type t : List Char} {c : Char} (h : LeadingConst leading lead)
    (hc : isBlank c = false) (ht : Respaced (lead ++ c :: type) t) :
    ∃ lead' type', LeadingConst leading lead' ∧ Respaced (c :: type) (c :: type') ∧ t = lead' ++ c :: type' := by
  cases h with
  | none =>
    cases ht with
    | keep _ ht => exact ⟨[], _, .none, .keep hc ht, rfl⟩
    | blank hblank => exact absurd hblank (by simp [hc])
    | skip hblank => exact absurd hblank (by simp [hc])
  | const hb hne =>
    rw [List.append_assoc] at ht
    obtain ⟨word, u, hword, hu, rfl⟩ := ht.exists_append
    obtain ⟨b', type', hb', hne', htype, rfl⟩ := hu.exists_blanks hb hc
    rw [hword.eq_of_forall fun e he => (solid_constWord e he).1, ← List.append_assoc]
    exact ⟨constWord ++ b', type', .const hb' (hne' hne), htype, rfl⟩

theorem TrailingConst.respaced {endsInWord trailing : Bool} {trail t : List Char}
    (h : TrailingConst endsInWord trailing trail) (ht : Respaced trail t) : TrailingConst endsInWord trailing t := by
  cases h with
  | none =>
    cases ht
    exact .none
  | const hb hne =>
    obtain ⟨b', word, hb', hne', hword, rfl⟩ := ht.exists_blanks hb (c := 'c') (by decide)
    rw [hword.eq_of_forall fun e he => (solid_constWord e he).1]
    exact .const hb' fun hends => hne' (hne hends)

/-- A spelling is respaced with the type in it. -/
theorem Decor.Spells.respaced {d : Decor} {endsInWord : Bool} {c : Char} {type s t : List Char}
    (h : d.Spells endsInWord (c :: type) s) (hc : isBlank c = false) (ht : Respaced s t) :
    ∃ type', Respaced (c :: type) (c :: type') ∧ d.Spells endsInWord (c :: type') t := by
  obtain @⟨lead, trail, before, between, after, hbefore, hlead, htrail, hbetween, hafter, rfl⟩ := h
  obtain ⟨u, after', hu, hafter', rfl⟩ := ht.exists_append
  obtain ⟨before', v, hbefore', hv, rfl⟩ := hu.exists_append
  obtain ⟨x, y, hx, hy, rfl⟩ := hv.exists_append
  obtain ⟨z, mark', hz, hmark, rfl⟩ := hy.exists_append
  obtain ⟨trail', between', htrail', hbetween', rfl⟩ := hz.exists_append
  obtain ⟨lead', type', hlead', htype', rfl⟩ := hlead.respaced hc hx
  rw [hmark.eq_of_forall fun e he => (d.mark.chars_spec.1 e he).1]
  exact ⟨type', htype', .intro before' between' after' (hbefore'.forall_isBlank hbefore) hlead' (htrail.respaced htrail')
    (hbetween'.forall_isBlank hbetween) (hafter'.forall_isBlank hafter) rfl⟩

/-- An outer blank can be left out. -/
theorem Decor.Spells.of_blank {d : Decor} {endsInWord : Bool} {b c : Char} {type s : List Char}
    (h : d.Spells endsInWord (c :: type) (b :: s)) (hb : isBlank b = true) (hc : isBlank c = false) :
    d.Spells endsInWord (c :: type) s := by
  obtain @⟨lead, trail, before, between, after, hbefore, hlead, htrail, hbetween, hafter, heq⟩ := h
  cases before with
  | nil =>
    generalize d.leading = leading at hlead
    cases hlead with
    | none =>
      rw [List.nil_append, List.nil_append] at heq
      rw [(List.cons.inj heq).1, hc] at hb
      cases hb
    | const =>
      rw [(List.cons.inj heq).1] at hb
      exact absurd hb (by decide)
  | cons e before =>
    exact .intro before between after (List.forall_mem_cons.1 hbefore).2 hlead htrail hbetween hafter (List.cons.inj heq).2

theorem Container.respaced {c : Container} {inner t : List Char} (h : Respaced (c.chars inner) t) :
    ∃ inner', Respaced inner inner' ∧ t = c.chars inner' := by
  have hopen : ∀ e ∈ ['<'], isBlank e = false := List.forall_mem_singleton.2 (by decide)
  have hclose : ∀ e ∈ ['>'], isBlank e = false := List.forall_mem_singleton.2 (by decide)
  obtain ⟨keyword, x, hkeyword, hx, rfl⟩ := h.exists_append
  obtain ⟨y, z, hy, hz, rfl⟩ := hx.exists_append
  obtain ⟨start, inner', hstart, hinner, rfl⟩ := Respaced.exists_append (s := ['<']) hy
  refine ⟨inner', hinner, ?_⟩
  rw [hkeyword.eq_of_forall fun e he => (c.solid_keyword e he).1, hstart.eq_of_forall hopen, hz.eq_of_forall hclose,
    chars, List.singleton_append]

theorem Container.exists_chars (c : Container) (inner : List Char) :
    ∃ k type, c.chars inner = k :: type ∧ isBlank k = false := by
  cases c <;> exact ⟨_, _, rfl, by decide⟩

namespace ResultType.Spells

variable {write : ResultName → List Char} (hwrite : IsWriting write) {tree : ResultType} {s t : List Char}
  (h : Spells write tree s)

include hwrite h

theorem respaced (ht : Respaced s t) : Spells write tree t := by
  induction h generalizing t with
  | @name d q s h =>
    have hsolid : ∀ c ∈ write q, isBlank c = false := fun c hc => ((hwrite q).2 c hc).1
    obtain ⟨c, rest, hrest⟩ := List.exists_cons_of_ne_nil (hwrite q).1.ne_nil
    rw [hrest] at h hsolid
    obtain ⟨rest', htype, h'⟩ := h.respaced (hsolid c List.mem_cons_self) ht
    rw [htype.eq_of_forall hsolid, ← hrest] at h'
    exact .name h'
  | @container d c argument inner s hargument h ih =>
    obtain ⟨k, type, htype, hk⟩ := c.exists_chars inner
    rw [htype] at h
    obtain ⟨type', htype', h'⟩ := h.respaced hk ht
    rw [← htype] at htype'
    obtain ⟨inner', hinner, heq⟩ := Container.respaced htype'
    rw [heq] at h'
    exact .container (ih hinner) h'

theorem of_blank {b : Char} (hb : isBlank b = true) (heq : s = b :: t) : Spells write tree t := by
  cases h with
  | @name d q s h =>
    obtain ⟨c, rest, hrest⟩ := List.exists_cons_of_ne_nil (hwrite q).1.ne_nil
    have hc : isBlank c = false := ((hwrite q).2 c (by simp [hrest])).1
    rw [hrest, heq] at h
    have h' := h.of_blank hb hc
    rw [← hrest] at h'
    exact .name h'
  | @container d c argument inner s hargument h =>
    obtain ⟨k, type, htype, hk⟩ := c.exists_chars inner
    rw [htype, heq] at h
    have h' := h.of_blank hb hk
    rw [← htype] at h'
    exact .container hargument h'

/-- A spelling can be collapsed. -/
theorem collapse : Spells write tree (collapseChars s) := by
  have hspaced := h.respaced hwrite (respaced_spaced s)
  rcases spaced_splitWords s with heq | heq
  · rwa [heq] at hspaced
  · exact hspaced.of_blank hwrite (by decide) heq

end ResultType.Spells

/-! ### Spellings with other names -/

/-- No blank is a part of a name. -/
theorem isNamePart_of_isBlank {c : Char} (h : isBlank c = true) : isNamePart c = false := by
  have hranges : ∀ r ∈ alphanumericRanges, 0xA0 < r.1 ∧
      (r.2 < 0x1680 ∨ 0x1680 < r.1 ∧ r.2 < 0x2000 ∨ 0x205F < r.1 ∧ r.2 < 0x3000 ∨ 0x3000 < r.1) := by decide +kernel
  have hlow : ∀ n < 0x80, isBlank (Char.ofNat n) = true → (Char.ofNat n).isAlphanum = false := by decide +kernel
  have hletter : isAlphanumeric c = false := by
    rw [isAlphanumeric]
    split
    · next hascii =>
      rw [← Char.ofNat_toNat c]
      exact hlow _ hascii (by rwa [Char.ofNat_toNat])
    · refine List.any_eq_false.2 fun r hr => ?_
      have hr := hranges r hr
      simp only [isBlank, Bool.or_eq_true, Bool.and_eq_true, decide_eq_true_eq, beq_iff_eq] at h ⊢
      omega
  rw [isNamePart, isWordChar, hletter, beq_eq_false_iff_ne.2 (ne_of_isBlank h (by decide)),
    beq_eq_false_iff_ne.2 (ne_of_isBlank h (by decide))]
  rfl

/-- The words that belong to no name of a type are left alone. -/
def KeepsKeywords (f : List Char → List Char) : Prop := ∀ w ∈ ["const", "Vector", "SharedPtr"], f w.toList = w.toList

theorem KeepsKeywords.map_constWord {f : List Char → List Char} (hkeep : KeepsKeywords f) : f constWord = constWord :=
  hkeep "const" List.mem_cons_self

section Renaming

variable {f : List Char → List Char} (hf : IsNamewise f) (hkeep : KeepsKeywords f)

include hf hkeep

theorem LeadingConst.map {leading : Bool} {lead : List Char} (h : LeadingConst leading lead) (s : List Char) :
    f (lead ++ s) = lead ++ f s := by
  cases h with
  | none => rfl
  | @const b hb hne =>
    have hgaps : ∀ c ∈ b, isNamePart c = false := fun c hc => isNamePart_of_isBlank (hb c hc)
    have hparted : Parted (constWord ++ b) s := by
      refine .inl fun c hc => hgaps c (List.mem_of_getLast? ?_)
      rwa [List.getLast?_append_of_ne_nil _ hne] at hc
    rw [hf.append hparted, hf.append_gaps hgaps, hkeep.map_constWord]

theorem TrailingConst.map {endsInWord trailing : Bool} {trail type : List Char}
    (h : TrailingConst endsInWord trailing trail)
    (htype : endsInWord = false → ∀ c ∈ type.getLast?, isNamePart c = false) : f (type ++ trail) = f type ++ trail := by
  cases h with
  | none => rw [List.append_nil, List.append_nil]
  | @const b hb hne =>
    have hgaps : ∀ c ∈ b, isNamePart c = false := fun c hc => isNamePart_of_isBlank (hb c hc)
    have hparted : Parted (type ++ b) constWord := by
      refine .inl fun c hc => ?_
      by_cases hempty : b = []
      · rw [hempty, List.append_nil] at hc
        exact htype (Bool.eq_false_iff.2 fun hword => hne hword hempty) c hc
      · rw [List.getLast?_append_of_ne_nil _ hempty] at hc
        exact hgaps c (List.mem_of_getLast? hc)
    rw [← List.append_assoc, hf.append hparted, hf.append_gaps hgaps, hkeep.map_constWord, List.append_assoc]

/-- The change reaches the type in a spelling and leaves alone what stands around it. -/
theorem Decor.Spells.map {d : Decor} {endsInWord : Bool} {type s : List Char} (h : d.Spells endsInWord type s)
    (htype : endsInWord = false → ∀ c ∈ type.getLast?, isNamePart c = false) : d.Spells endsInWord (f type) (f s) := by
  have hblanks {b : List Char} (hb : ∀ c ∈ b, isBlank c = true) : ∀ c ∈ b, isNamePart c = false :=
    fun c hc => isNamePart_of_isBlank (hb c hc)
  have hmark : ∀ c ∈ d.mark.chars, isNamePart c = false := by
    cases d.mark with
    | none => exact nofun
    | reference | pointer => exact List.forall_mem_singleton.2 (by decide)
  obtain @⟨lead, trail, before, between, after, hbefore, hlead, htrail, hbetween, hafter, rfl⟩ := h
  refine .intro before between after hbefore hlead htrail hbetween hafter ?_
  calc f (before ++ (lead ++ type ++ (trail ++ between ++ d.mark.chars)) ++ after)
      = before ++ f (lead ++ (type ++ trail) ++ (between ++ d.mark.chars)) ++ after := by
        rw [hf.append_gaps (hblanks hafter), hf.gaps_append (hblanks hbefore)]
        simp only [List.append_assoc]
    _ = before ++ (lead ++ f (type ++ trail) ++ (between ++ d.mark.chars)) ++ after := by
        rw [hf.append_gaps (List.forall_mem_append.2 ⟨hblanks hbetween, hmark⟩), hlead.map hf hkeep]
    _ = before ++ (lead ++ f type ++ (trail ++ between ++ d.mark.chars)) ++ after := by
        rw [htrail.map hf hkeep htype]
        simp only [List.append_assoc]

theorem Container.map (c : Container) (inner : List Char) : f (c.chars inner) = c.chars (f inner) := by
  have hopen : ∀ e ∈ ['<'], isNamePart e = false := List.forall_mem_singleton.2 (by decide)
  have hclose : ∀ e ∈ ['>'], isNamePart e = false := List.forall_mem_singleton.2 (by decide)
  have hkeyword : f c.keyword.toList = c.keyword.toList := by cases c <;> exact hkeep _ (by simp [keyword])
  have hparted : Parted c.keyword.toList ('<' :: inner ++ ['>']) := .inr fun e he => by cases he; decide
  rw [chars, hf.append hparted, hkeyword, hf.append_gaps hclose, ← List.singleton_append, hf.gaps_append hopen, chars]
  rfl

/-- A change to single names changes the names in a spelling. -/
theorem ResultType.Spells.map {write : ResultName → List Char} {tree : ResultType} {s : List Char}
    (h : Spells write tree s) : Spells (f ∘ write) tree (f s) := by
  induction h with
  | name h => exact .name (h.map hf hkeep nofun)
  | @container d c argument inner s hargument h ih =>
    have hlast : ∀ e ∈ (c.chars inner).getLast?, isNamePart e = false := by
      rw [Container.chars, ← List.append_assoc, List.getLast?_concat]
      rintro e ⟨⟩
      decide
    have h' := h.map hf hkeep fun _ => hlast
    rw [c.map hf hkeep] at h'
    exact .container ih h'

end Renaming

/-! ### Names of types -/

namespace ResultType

/-- The name that a type gets if its names are written in some way. -/
def named (write : ResultName → List Char) : ResultType → String
  | name d q => Descriptor.finish (String.ofList (d.afterConst (write q)))
  | container _ c argument => argument.named write ++ c.suffix

/-- The type is taken for a constant one. -/
def isConst (write : ResultName → List Char) : ResultType → Bool
  | name d q => d.leading || constWord.isPrefixOf (write q)
  | container d _ _ => d.leading

namespace Spells

variable {write : ResultName → List Char} (hwrite : IsWriting write) {tree : ResultType}

include hwrite

theorem nameOf_iterate_tighten {s : List Char} (h : Spells write tree s) (n : Nat) :
    Descriptor.nameOf (String.ofList (tighten^[n] s)) = tree.named write := by
  induction h generalizing n with
  | @name d q s h => exact h.nameOf_word (hwrite q).1 (hwrite q).2 n
  | container _ h ih => rw [h.nameOf_container, ih, named]

theorem exists_behind {s : List Char} (h : Spells write tree s) :
    ∃ endsInWord k behind, IsBody k ∧ tree.decor.Behind endsInWord behind ∧
      withoutStart constWord (trimChars s) = k ++ behind ∧ (constWord <+: trimChars s ↔ tree.isConst write = true) := by
  cases h with
  | @name d q s h =>
    obtain ⟨behind, hbehind, hstart, hconst⟩ :=
      h.exists_behind_of (hwrite q).1 fun hbehind => hbehind.const_prefix_iff rfl
    refine ⟨true, _, behind, (hwrite q).1.afterConst d, hbehind, hstart, ?_⟩
    rw [hconst, isConst, Bool.or_eq_true, List.isPrefixOf_iff_prefix]
  | @container d c argument inner s hargument h =>
    obtain ⟨behind, hbehind, hstart, hconst⟩ := h.exists_behind (c.isCore inner)
    exact ⟨false, _, behind, (c.isCore inner).toIsBody, hbehind, hstart, hconst⟩

/-- The descriptor of a spelling. -/
theorem ofText_eq {text : String} (h : Spells write tree text.toList) :
    Descriptor.ofText text =
      { raw := text
        name := tree.named write
        isConst := tree.isConst write
        isPointer := tree.decor.mark == .pointer
        isReference := tree.decor.mark == .reference } := by
  obtain ⟨endsInWord, k, behind, hk, hbehind, hstart, hconst⟩ := h.exists_behind hwrite
  obtain ⟨hreference, hpointer⟩ := hk.suffix_mark_iff hbehind
  have hname : Descriptor.finish (String.ofList (core text)) = tree.named write := by
    rw [← Descriptor.nameOf_eq_finish, ← h.nameOf_iterate_tighten hwrite 0, Function.iterate_zero_apply,
      String.ofList_toList]
  have hleading : constWord.isPrefixOf (tighten (trimChars text.toList)) = tree.isConst write := by
    rw [Bool.eq_iff_iff, List.isPrefixOf_iff_prefix, prefix_tighten_iff solid_constWord, hconst]
  have hmark : ∀ {w m}, (w <:+ k ++ behind ↔ tree.decor.mark = m) →
      w.isSuffixOf (marked text) = (tree.decor.mark == m) := by
    intro w m hm
    rw [Bool.eq_iff_iff, List.isSuffixOf_iff_suffix, beq_iff_eq, marked, hstart, hm]
  rw [Descriptor.ofText_eq_core, hname, hleading, hmark hreference, hmark hpointer]
  cases tree.decor.mark <;> rfl

end Spells

end ResultType

/-! ### Declarations -/

/-- The names that get a qualification are three. -/
theorem ownersOf_eq_nil_or (name : String) :
    ownersOf name = [] ∨ name ∈ ["EntityMap", "ComponentVector", "ComponentMap"] := by
  unfold ownersOf
  split
  · next h => exact .inr (by simp [h])
  · split
    · next h => exact .inr (List.mem_cons_of_mem _ h)
    · exact .inl rfl

namespace ResultName

variable (q : ResultName)

theorem isQualified : IsQualified q.qualifiers q.name := ⟨q.words, fun _ => q.notScoped⟩

theorem isQualified_declared : IsQualified (ownersOf q.name) q.name := by
  have hnames : ∀ name ∈ ["EntityMap", "ComponentVector", "ComponentMap"], (∀ w ∈ ownersOf name ++ [name], IsWord w) ∧
      ¬ "AttributeChange".toList <+: qualifiedChars (ownersOf name) name := by decide
  rcases ownersOf_eq_nil_or q.name with hnil | hname
  · rw [hnil]
    exact ⟨List.forall_mem_singleton.2 q.isQualified.isWord_name, fun hne => absurd rfl hne⟩
  · exact ⟨(hnames _ hname).1, fun _ => (hnames _ hname).2⟩

/-- The declaration of a name begins with the letters just if the name does, and then it is the name. -/
theorem const_prefix_declared_iff :
    (constWord <+: q.declared ↔ constWord <+: q.name.toList) ∧ (constWord <+: q.name.toList → ownersOf q.name = []) := by
  have hnames : ∀ name ∈ ["EntityMap", "ComponentVector", "ComponentMap"],
      ¬ constWord <+: qualifiedChars (ownersOf name) name ∧ ¬ constWord <+: name.toList := by decide
  rcases ownersOf_eq_nil_or q.name with hnil | hname
  · rw [declared, hnil]
    exact ⟨Iff.rfl, fun _ => rfl⟩
  · exact ⟨iff_of_false (hnames _ hname).1 (hnames _ hname).2, fun hc => absurd hc (hnames _ hname).2⟩

theorem isWriting_chars : ResultType.IsWriting chars :=
  fun q => ⟨q.isQualified.isBody q.notMarked, q.isQualified.solid_chars⟩

theorem isWriting_declared : ResultType.IsWriting declared :=
  fun q => ⟨q.isQualified_declared.isBody q.notMarked, q.isQualified_declared.solid_chars⟩

end ResultName

/-- The texts that the built-in tables look for are words. -/
theorem returnTypeQualifications_spec : ∀ p ∈ Config.default.returnTypeQualifications.toList,
    IsWord p.1 ∧ p.1 ∉ ["const", "Vector", "SharedPtr"] := by decide

theorem keepsKeywords_dropQualifications : KeepsKeywords dropQualifications := by
  have hwords : ∀ w ∈ ["const", "Vector", "SharedPtr"], IsWord w := by decide
  intro w hw
  have hname : IsQualified [] w := ⟨List.forall_mem_singleton.2 (hwords w hw), fun hne => absurd rfl hne⟩
  exact hname.dropQualifications_chars

theorem keepsKeywords_qualifyName {name : String} (hname : IsWord name) (hne : name ∉ ["const", "Vector", "SharedPtr"])
    (replacement : List Char) : KeepsKeywords (qualifyName name.toList replacement) := by
  have hwords : ∀ w ∈ ["const", "Vector", "SharedPtr"], IsWord w := by decide
  intro w hw
  have hother : w.toList ≠ name.toList := by
    intro heq
    rw [String.toList_inj.1 heq] at hw
    exact hne hw
  rw [qualifyName_word (by simpa using hname.ne_empty) hname.isWordChar replacement (hwords w hw).isWordChar,
    if_neg hother]

/-- The declaration of a type spells it with the names as they are declared. -/
theorem ResultType.Spells.declared {tree : ResultType} {s : List Char} (h : Spells ResultName.chars tree s) :
    Spells ResultName.declared tree (requalify (dropQualifications (collapseChars s))) := by
  have hnames : ResultName.declared = requalify ∘ dropQualifications ∘ ResultName.chars := by
    funext q
    rw [Function.comp_apply, Function.comp_apply, ResultName.chars, q.isQualified.dropQualifications_chars,
      requalify_word q.isQualified.isWord_name, ResultName.declared]
  have hbare := (h.collapse ResultName.isWriting_chars).map isNamewise_dropQualifications keepsKeywords_dropQualifications
  have hqualified : ∀ (table : List (String × String)),
      (∀ p ∈ table, IsWord p.1 ∧ p.1 ∉ ["const", "Vector", "SharedPtr"]) →
      ∀ {write : ResultName → List Char} {s : List Char}, Spells write tree s →
        Spells ((fun s => table.foldl (fun s p => qualifyName p.1.toList p.2.toList s) s) ∘ write) tree
          (table.foldl (fun s p => qualifyName p.1.toList p.2.toList s) s) := by
    intro table htable
    induction table with
    | nil => exact fun h => h
    | cons p table ih =>
      obtain ⟨hp, htable⟩ := List.forall_mem_cons.1 htable
      intro write s h
      have h' := h.map (isNamewise_qualifyName (by simpa using hp.1.ne_empty) hp.1.isWordChar p.2.toList)
        (keepsKeywords_qualifyName hp.1 hp.2 _)
      exact ih htable h'
  rw [hnames]
  exact hqualified _ returnTypeQualifications_spec hbare

/-! ### Agreement -/

/-- The descriptors differ at most in the spellings that they are made of. -/
def Descriptor.Agrees (d e : Descriptor) : Prop :=
  d.name = e.name ∧ d.isConst = e.isConst ∧ d.isPointer = e.isPointer ∧ d.isReference = e.isReference

instance (d e : Descriptor) : Decidable (d.Agrees e) :=
  inferInstanceAs (Decidable (d.name = e.name ∧ d.isConst = e.isConst ∧ d.isPointer = e.isPointer ∧
    d.isReference = e.isReference))

/-- The innermost name begins with no letters that would be taken for a `const`. -/
def ResultType.IsClear (tree : ResultType) : Prop :=
  tree.innermost.1.leading = true ∨ ¬ constWord <+: tree.innermost.2.name.toList

theorem ResultType.isClear_name {d : Decor} {q : ResultName} :
    (name d q).IsClear ↔ d.leading = true ∨ ¬ constWord <+: q.name.toList := Iff.rfl

/-- A word that loses the letters of `const` gets another name. -/
theorem finish_withoutStart_ne (q : ResultName) (hconst : constWord <+: q.name.toList) :
    Descriptor.finish (String.ofList (withoutStart constWord q.name.toList)) ≠ q.name := by
  have hother : ∀ name ∈ ["float3", "int"], name ≠ q.name := by
    have hnone : ∀ name ∈ ["float3", "int"], ¬ constWord <+: name.toList := by decide
    intro name hname heq
    exact hnone name hname (heq ▸ hconst)
  obtain ⟨r, hr⟩ := hconst
  have hne : r ≠ [] := by
    rintro rfl
    rw [List.append_nil] at hr
    exact q.notMarked (by rw [hr])
  have hword : IsWord (String.ofList r) := by
    refine ⟨by simpa using hne, fun c hc => q.isQualified.isWord_name.chars c ?_⟩
    rw [← hr]
    exact List.mem_append_right _ (by simpa using hc)
  have hqualified : IsQualified [] (String.ofList r) := ⟨List.forall_mem_singleton.2 hword, fun hne => absurd rfl hne⟩
  have hchars : qualifiedChars [] (String.ofList r) = r := String.toList_ofList
  have hsolid := hqualified.solid_chars
  rw [hchars] at hsolid
  have htrim : trimChars r = r := by simpa using trimChars_append hsolid hne []
  rw [← hr, withoutStart_append, htrim]
  by_cases hvec : String.ofList r = "vec"
  · rw [hvec, Descriptor.finish_vec]
    exact hother "float3" (by simp)
  · have hfinish := hqualified.finish_eq hvec
    rw [hchars] at hfinish
    rw [hfinish]
    split
    · exact hother "int" (by simp)
    · intro heq
      have hletters : constWord.length = 5 := by decide
      have hlength := congrArg List.length hr
      rw [← heq, String.toList_ofList, List.length_append] at hlength
      omega

theorem ResultType.named_declared_iff (tree : ResultType) :
    tree.named ResultName.declared = tree.named ResultName.chars ↔ tree.IsClear := by
  induction tree with
  | name d q =>
    have hchars : Descriptor.finish (String.ofList q.chars) = if q.name ∈ ["Key", "KeySequence"] then "int" else q.name :=
      q.isQualified.finish_eq q.notVector
    have hdeclared := q.isQualified_declared.finish_eq q.notVector
    have hkept : d.afterConst q.chars = q.chars := d.afterConst_of_not q.notConst
    obtain ⟨hbegins, howners⟩ := q.const_prefix_declared_iff
    rw [named, named, hkept, hchars]
    by_cases hclear : (ResultType.name d q).IsClear
    · refine iff_of_true ?_ hclear
      have hkept : d.afterConst q.declared = q.declared := by
        rcases isClear_name.1 hclear with hleading | hnot
        · rw [Decor.afterConst, if_pos hleading]
        · exact d.afterConst_of_not (mt hbegins.1 hnot)
      rw [hkept, ResultName.declared, hdeclared]
    · refine iff_of_false ?_ hclear
      obtain ⟨hleading, hconst⟩ := not_or.1 (mt isClear_name.2 hclear)
      rw [not_not] at hconst
      have hkey : q.name ∉ ["Key", "KeySequence"] := by
        have hnone : ∀ name ∈ ["Key", "KeySequence"], ¬ constWord <+: name.toList := by decide
        exact fun hc => hnone _ hc hconst
      have hdeclared : q.declared = q.name.toList := by rw [ResultName.declared, howners hconst]; rfl
      rw [if_neg hkey, Decor.afterConst, if_neg hleading, hdeclared]
      exact finish_withoutStart_ne q hconst
  | container d c argument ih =>
    rw [named, named, String.append_left_inj]
    exact ih

/-- What `const` is found before a clear type in a declaration is one of the type. -/
theorem ResultType.IsClear.isConst_eq {tree : ResultType} (h : tree.IsClear) :
    tree.isConst ResultName.declared = tree.isConst ResultName.chars := by
  cases tree with
  | name d q =>
    rcases isClear_name.1 h with hleading | hnot
    · rw [isConst, isConst, hleading, Bool.true_or, Bool.true_or]
    · have hdeclared : constWord.isPrefixOf q.declared = false := by
        rw [Bool.eq_false_iff, ne_eq, List.isPrefixOf_iff_prefix, q.const_prefix_declared_iff.1]
        exact hnot
      have hchars : constWord.isPrefixOf q.chars = false := by
        rw [Bool.eq_false_iff, ne_eq, List.isPrefixOf_iff_prefix]
        exact q.notConst
      rw [isConst, isConst, hdeclared, hchars]
  | container d c argument => rfl

/-- **The declared type of a result is the one that it is pushed as**, unless its innermost name begins with the letters of
`const` and none stands before it. -/
theorem declaration_agrees_iff {v : Vocabulary} {tree : ResultType} {text : String}
    (hconfig : v.config.returnTypeQualifications = Config.default.returnTypeQualifications)
    (h : tree.Spells ResultName.chars text.toList) :
    ∃ declared, v.declaration text = .ok declared ∧
      ((Descriptor.ofText declared).Agrees (Descriptor.ofText text) ↔ tree.IsClear) := by
  have hspells := h.declared
  have hdeclaration := v.declaration_eq hconfig text
  generalize requalify (dropQualifications (collapseChars text.toList)) = spelled at hspells hdeclaration
  have hagrees : (Descriptor.ofText (String.ofList spelled)).Agrees (Descriptor.ofText text) ↔ tree.IsClear := by
    rw [h.ofText_eq ResultName.isWriting_chars,
      ResultType.Spells.ofText_eq ResultName.isWriting_declared (by rwa [String.toList_ofList]), Descriptor.Agrees]
    exact ⟨fun hagrees => tree.named_declared_iff.1 hagrees.1,
      fun hclear => ⟨tree.named_declared_iff.2 hclear, hclear.isConst_eq, rfl, rfl⟩⟩
  refine ⟨_, hdeclaration, ?_⟩
  rw [← hagrees]
  dsimp only
  split
  · next heq =>
    -- the declaration replaces `vec` as the rules do
    have hvec : (Descriptor.ofText "float3").Agrees (Descriptor.ofText "vec") := by
      rw [Descriptor.ofText_eq_core, Descriptor.ofText_eq_core]
      decide +kernel
    obtain ⟨hname, hconst, hpointer, hreference⟩ := hvec
    rw [beq_iff_eq.1 heq, String.ofList_toList, Descriptor.Agrees, Descriptor.Agrees, hname, hconst, hpointer, hreference]
  · exact Iff.rfl

/-- A name that its declaration qualifies anew, in a container behind a `const`. -/
theorem declaration_agrees_entityMap :
    let v : Vocabulary := { config := Config.default, classes := [], isRefcounted := fun _ => false }
    ∃ declared, v.declaration "const Vector< Tundra::EntityMap > &" = .ok declared ∧
      (Descriptor.ofText declared).Agrees (Descriptor.ofText "const Vector< Tundra::EntityMap > &") := by
  intro v
  let entityMap : ResultName :=
    ⟨["Tundra"], "EntityMap", by decide, by decide, by decide, by decide, by decide⟩
  have hspace : ∀ c ∈ [' '], isBlank c = true := List.all_eq_true.1 (by decide)
  have hempty : ∀ c ∈ [], isBlank c = true := List.forall_mem_nil _
  have hinner : (ResultType.name ⟨false, false, .none⟩ entityMap).Spells ResultName.chars " Tundra::EntityMap ".toList :=
    .name (.intro [' '] [] [' '] hspace .none .none hempty hspace (by decide))
  have hvector : (ResultType.container ⟨true, false, .reference⟩ .vector (.name ⟨false, false, .none⟩ entityMap)).Spells
      ResultName.chars "const Vector< Tundra::EntityMap > &".toList :=
    .container hinner (.intro [] [' '] [] hempty (.const hspace (by decide)) .none hspace hempty (by decide))
  obtain ⟨declared, hdeclared, hagrees⟩ := declaration_agrees_iff (v := v) rfl hvector
  exact ⟨declared, hdeclared, hagrees.2 (.inr (by decide))⟩

/-- The last word of a name in a namespace begins with the letters of `const`. -/
theorem not_agrees_constants :
    let v : Vocabulary := { config := Config.default, classes := [], isRefcounted := fun _ => false }
    (∃ tree : ResultType, tree.Spells ResultName.chars "math::constants".toList) ∧
      v.declaration "math::constants" = .ok "constants" ∧
      (Descriptor.ofText "math::constants").name = "constants" ∧ (Descriptor.ofText "math::constants").isConst = false ∧
      (Descriptor.ofText "constants").name = "ants" ∧ (Descriptor.ofText "constants").isConst = true := by
  let constants : ResultName :=
    ⟨["math"], "constants", by decide, by decide, by decide, by decide, by decide⟩
  have hempty : ∀ c ∈ [], isBlank c = true := List.forall_mem_nil _
  refine ⟨⟨.name ⟨false, false, .none⟩ constants, .name ?_⟩, ?_⟩
  · exact .intro [] [] [] hempty .none .none hempty hempty (by decide)
  · rw [Descriptor.ofText_eq_core "math::constants", Descriptor.ofText_eq_core "constants"]
    decide +kernel

end ScriptGlue.Cpp
