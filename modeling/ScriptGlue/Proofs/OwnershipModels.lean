import ScriptGlue.Proofs.References
import ScriptGlue.Proofs.Snippets

/-!
# Ownership models are not mixed

Whether the objects of a class are values or counted references is asked for anew when a type is classified, for
the elements of containers, for the object of a call, for finalizers and for constructors. **`ownership_respected`**
says that a unit always gets the same answer: the helpers that its snippets apply to a class are those for the
ownership that the registry knows. The classes that a unit makes up for its own signals are values, whatever the
registry says of their names.
-/

namespace ScriptGlue

open ScriptGlue.Text ScriptGlue.Cpp

/-! ### Classification -/

/-- The classes of a category are owned as it says, that of an object being named by the type. -/
def Cpp.Category.IsOwned (v : Vocabulary) (name : String) : Category → Prop
  | .object ownership => v.ownership name = ownership
  | .vector element (.object ownership) => v.ownership element = ownership
  | .map element ownership => v.ownership element = ownership
  | .sharedPtr element => v.ownership element = .weak
  | _ => True

namespace Cpp.Vocabulary

variable {v : Vocabulary}

theorem isOwned_vectorOf (element name : String) : (v.vectorOf element).IsOwned v name := by
  rcases v.vectorOf_cases element with ⟨kind, h⟩ | ⟨-, h⟩ | h <;> rw [h]
  · trivial
  · rfl
  · trivial

theorem isOwned_mapOf (element name : String) : (v.mapOf element).IsOwned v name := by
  unfold mapOf
  split
  · rfl
  · trivial

/-- A shared pointer holds only what counts references. -/
theorem isOwned_sharedPtrOf (element name : String) : (v.sharedPtrOf element).IsOwned v name := by
  unfold sharedPtrOf
  split
  · next h =>
    rw [Bool.and_eq_true] at h
    exact if_pos h.2
  · trivial

/-- **The category of a type owns its classes as the vocabulary does.** -/
theorem isOwned_classify (text : String) : (v.classify text).category.IsOwned v (v.classify text).name := by
  refine category_cases (P := fun category => category.IsOwned v (v.classify text).name) text ?_ ?_ ?_ ?_ ?_ trivial
  · simp [Category.IsOwned]
  · exact fun element => isOwned_vectorOf element _
  · exact fun element => isOwned_mapOf element _
  · exact fun element => isOwned_sharedPtrOf element _
  · exact fun _ => rfl

theorem isOwned_of_category {text : String} {category : Category} (h : (v.classify text).category = category) :
    category.IsOwned v (v.classify text).name := by
  rw [← h]
  exact isOwned_classify text

end Cpp.Vocabulary

/-! ### Helpers by type -/

namespace Application

variable {v : Vocabulary} {a : Application}

theorem respects_of_fetch {text : String} {f : Fetch} (hf : v.fetch text = .ok f) (h : a ∈ f.applications) :
    a.Respects v := by
  simp only [Vocabulary.fetch] at hf
  cases hcategory : (v.classify text).category with
  | object ownership =>
    have howned := Vocabulary.isOwned_of_category hcategory
    rw [hcategory] at hf
    cases ownership with
    | value =>
      cases hf
      split at h <;> rw [List.mem_singleton.1 h] <;> exact howned
    | weak =>
      cases hf
      split at h <;> rw [List.mem_singleton.1 h] <;> exact howned
  | vector element holds =>
    have howned := Vocabulary.isOwned_of_category hcategory
    rw [hcategory] at hf
    rcases holds with _ | ⟨_ | _⟩
    · cases hf
      cases h
    · cases hf
      rw [List.mem_singleton.1 h]
      exact howned
    · cases hf
      rw [List.mem_singleton.1 h]
      exact howned
  | sharedPtr element =>
    have howned := Vocabulary.isOwned_of_category hcategory
    rw [hcategory] at hf
    cases hf
    rcases List.mem_cons.1 h with rfl | h
    · exact howned
    · rw [List.mem_singleton.1 h]
      exact howned
  | _ =>
    rw [hcategory] at hf
    cases hf <;> cases h

theorem respects_of_push {text : String} {p : Push} (hp : v.push text = .ok p) (h : a ∈ p.applications) :
    a.Respects v := by
  simp only [Vocabulary.push] at hp
  cases hcategory : (v.classify text).category with
  | object ownership =>
    have howned := Vocabulary.isOwned_of_category hcategory
    rw [hcategory] at hp
    cases ownership with
    | value =>
      cases hp
      rw [List.mem_singleton.1 h]
      exact howned
    | weak =>
      cases hp
      cases h
  | vector element holds =>
    have howned := Vocabulary.isOwned_of_category hcategory
    rw [hcategory] at hp
    rcases holds with _ | ⟨_ | _⟩
    · cases hp
      cases h
    · cases hp
      rw [List.mem_singleton.1 h]
      exact howned
    · cases hp
      cases h
  | _ =>
    rw [hcategory] at hp
    cases hp <;> cases h

theorem respects_of_pushVariable {type : String} {p : Push} (hp : v.pushVariable type = .ok p) (h : a ∈ p.applications) :
    a.Respects v := by
  simp only [Vocabulary.pushVariable] at hp
  split at hp
  · next hvalue =>
    cases hp
    rw [List.mem_singleton.1 h]
    exact Vocabulary.isOwned_of_category (beq_iff_eq.1 hvalue)
  · exact respects_of_push hp h

theorem respects_of_argCheck {text : String} {c : ArgCheck} (hc : v.argCheck text = .ok (some c))
    (h : a ∈ c.applications) : a.Respects v := by
  simp only [Vocabulary.argCheck] at hc
  cases hcategory : (v.classify text).category with
  | object ownership =>
    have howned := Vocabulary.isOwned_of_category hcategory
    rw [hcategory] at hc
    cases ownership <;> cases hc
    rw [List.mem_singleton.1 h]
    exact howned
  | _ =>
    rw [hcategory] at hc
    cases hc <;> cases h

theorem respects_of_thisAccess {className : String} (h : a ∈ (v.thisAccess className).applications) : a.Respects v := by
  simp only [Vocabulary.thisAccess, ThisAccess.applications] at h
  split at h
  · next howned =>
    rw [List.mem_singleton.1 h]
    exact howned
  · next howned =>
    rw [List.mem_singleton.1 h]
    exact howned

end Application

/-! ### Snippets by type -/

namespace Snippet

variable {v : Vocabulary} {s : Snippet}

/-- The snippet is made for a type, or for a class as the vocabulary knows it. -/
def IsMade (v : Vocabulary) : Snippet → Prop
  | argument a => ∃ text index variableName, v.read text index variableName = .ok a.read
  | push p _ => ∃ text, v.push text = .ok p ∨ v.pushVariable text = .ok p
  | check c _ => ∃ text, v.argCheck text = .ok (some c)
  | this t => t = v.thisAccess t.className
  | constructed className | finalized className => v.isRefcounted className = false
  | wrapper _ | wrapped _ | receivers => False

/-- The snippet is about the wrapper of a signal, one of those given, or about the receivers of signals. -/
def IsOfSignal (wrappers : List String) : Snippet → Prop
  | wrapper className | wrapped className | finalized className => className ∈ wrappers
  | receivers => True
  | argument _ | push _ _ | check _ _ | this _ | constructed _ => False

/-- **A snippet applies helpers for the ownership of their classes.** -/
theorem IsMade.respects (hs : s.IsMade v) {a : Application} (h : a ∈ s.applications) : a.Respects v := by
  cases s with
  | argument x =>
    obtain ⟨text, index, variableName, hread⟩ := hs
    exact Application.respects_of_fetch (Registry.fetch_of_read hread) h
  | push p source =>
    obtain ⟨text, hpush | hpush⟩ := hs
    · exact Application.respects_of_push hpush h
    · exact Application.respects_of_pushVariable hpush h
  | check c index =>
    obtain ⟨text, hcheck⟩ := hs
    exact Application.respects_of_argCheck hcheck h
  | this t =>
    change t = v.thisAccess t.className at hs
    change a ∈ t.applications at h
    rw [hs] at h
    exact Application.respects_of_thisAccess h
  | constructed className =>
    rw [List.mem_singleton.1 h]
    exact Vocabulary.ownership_eq_value.2 hs
  | finalized className =>
    rw [List.mem_singleton.1 h]
    exact Vocabulary.ownership_eq_value.2 hs
  | wrapper _ | wrapped _ | receivers => cases hs

/-- The helpers of a snippet that is made are applied in its text. -/
theorem IsMade.isSpelledIn (hs : s.IsMade v) {a : Application} (h : a ∈ s.applications) : a.IsSpelledIn s.text := by
  apply isSpelledIn_text _ h
  rintro x rfl
  obtain ⟨text, index, variableName, hread⟩ := hs
  exact StackRead.isTyped_of_read hread

/-- What is about signals applies helpers to their wrappers and to receivers. -/
theorem IsOfSignal.className {wrappers : List String} (hs : s.IsOfSignal wrappers) {a : Application}
    (h : a ∈ s.applications) : a.className = "SignalReceiver" ∨ a.className ∈ wrappers := by
  cases s with
  | wrapper _ | wrapped _ | finalized _ =>
    rw [List.mem_singleton.1 h]
    exact .inr hs
  | receivers =>
    rw [List.mem_singleton.1 h]
    exact .inl rfl
  | _ => cases hs

theorem IsOfSignal.isSpelledIn {wrappers : List String} (hs : s.IsOfSignal wrappers) {a : Application}
    (h : a ∈ s.applications) : a.IsSpelledIn s.text := by
  apply isSpelledIn_text _ h
  rintro x rfl
  cases hs

theorem IsOfSignal.mono {wrappers more : List String} (hs : s.IsOfSignal wrappers) (h : ∀ x ∈ wrappers, x ∈ more) :
    s.IsOfSignal more := by
  cases s with
  | wrapper className | wrapped className | finalized className => exact h className hs
  | receivers => trivial
  | _ => cases hs

end Snippet

/-! ### Units -/

/-- The snippets of a part. -/
def UnitPart.snippets (part : UnitPart) : List Snippet := part.passages.flatMap Passage.snippets

/-- The snippets of a unit. -/
def BindingsUnit.snippets (u : BindingsUnit) : List Snippet := u.passages.flatMap Passage.snippets

namespace Registry

variable {r : Registry} {c : Compound} {s : Snippet}

/-- What a signal is made of. -/
theorem parts_of_signal {v : Vocabulary} {className : String} {m : Symbol} {types : List String} {signal : Signal}
    (h : v.signal className m types = .ok signal) :
    signal.this = v.thisAccess className ∧ ∀ p ∈ signal.parameters, (∃ type, v.push type = .ok p.push) ∧
      ∃ type index variableName, v.read type index variableName = .ok p.read := by
  obtain ⟨pushes, hpushes, h⟩ := bind_eq_ok.1 h
  obtain ⟨reads, hreads, h⟩ := bind_eq_ok.1 h
  cases h
  refine ⟨rfl, ?_⟩
  intro p hp
  obtain ⟨⟨type, push, read⟩, hmem, rfl⟩ := List.mem_map.1 hp
  obtain ⟨hpush, hread⟩ := List.of_mem_zip (List.of_mem_zip hmem).2
  obtain ⟨type, -, hpush⟩ := (mem_of_mapM_ok hpushes).1 hpush
  obtain ⟨⟨type', index⟩, -, hread⟩ := (mem_of_mapM_ok hreads).1 hread
  exact ⟨⟨type, hpush⟩, type', _, _, hread⟩

/-- The access to the object of a class is made as the vocabulary knows the class. -/
theorem isMade_thisAccess {v : Vocabulary} {t : ThisAccess} {className : String} (h : t = v.thisAccess className) :
    (Snippet.this t).IsMade v := by
  subst h
  exact rfl

/-- The snippets of the classes and functions of a signal. -/
theorem snippets_of_signal {v : Vocabulary} {m : Symbol} {types : List String} {signal : Signal}
    (h : v.signal c.className m types = .ok signal) {part : UnitPart}
    (hpart : part = .signalClasses signal ∨ part = .signalFunctions signal) (hsnippet : s ∈ part.snippets) :
    s.IsMade v ∨ s.IsOfSignal [signal.wrapper] := by
  obtain ⟨hthis, hparameters⟩ := parts_of_signal h
  have hwrapper : signal.wrapper ∈ [signal.wrapper] := List.mem_singleton_self _
  obtain ⟨p, hp, hs⟩ := List.mem_flatMap.1 hsnippet
  rcases hpart with rfl | rfl
  · rw [List.mem_singleton.1 hp] at hs
    obtain ⟨i, hi, rfl⟩ := List.mem_mapIdx.1 hs
    obtain ⟨⟨type, hpush⟩, -⟩ := hparameters _ (List.getElem_mem hi)
    exact .inl ⟨type, .inl hpush⟩
  · simp only [UnitPart.passages, List.mem_cons, List.not_mem_nil, or_false] at hp
    rcases hp with rfl | rfl | rfl | rfl
    · rcases List.mem_cons.1 hs with rfl | hs
      · exact .inr hwrapper
      · rw [List.mem_singleton.1 hs]
        exact .inr trivial
    · rw [List.mem_singleton.1 hs]
      exact .inr hwrapper
    · rcases List.mem_cons.1 hs with rfl | hs
      · exact .inr hwrapper
      · obtain ⟨parameter, hparameter, rfl⟩ := List.mem_map.1 hs
        obtain ⟨-, type, index, variableName, hread⟩ := hparameters parameter hparameter
        exact .inl ⟨type, index, variableName, hread⟩
    · rcases List.mem_cons.1 hs with rfl | hs
      · exact .inl (isMade_thisAccess hthis)
      · rw [List.mem_singleton.1 hs]
        exact .inr hwrapper

/-- The finalizer that the getter of a variable needs is that of values. -/
theorem isRefcounted_variableFinalizer {type element : String} (h : r.vocabulary.variableFinalizer? type = some element) :
    r.isRefcounted element = false := by
  unfold Vocabulary.variableFinalizer? at h
  split at h
  · next found hcategory =>
    cases h
    exact Vocabulary.ownership_eq_value.1 (Vocabulary.isOwned_of_category hcategory)
  · cases h

/-- The snippets of the accessors of a variable. -/
theorem snippets_of_accessors {m : Symbol} {getter : Getter} {setter? : Option Setter}
    (hgetter : r.vocabulary.getter c.className m = .ok getter) (hsetter : r.vocabulary.setter? c.className m = .ok setter?)
    {part : UnitPart} (hpart : part ∈ setter?.toList.map .setter ++ [.getter getter]) (hsnippet : s ∈ part.snippets) :
    s.IsMade r.vocabulary := by
  obtain ⟨p, hp, hs⟩ := List.mem_flatMap.1 hsnippet
  rcases List.mem_append.1 hpart with hpart | hpart
  · obtain ⟨setter, hmem, rfl⟩ := List.mem_map.1 hpart
    rw [Option.mem_toList] at hmem
    subst hmem
    obtain ⟨hthis, hread⟩ := read_of_setter hsetter
    rw [List.mem_singleton.1 hp] at hs
    rcases List.mem_cons.1 hs with rfl | hs
    · exact isMade_thisAccess hthis
    · rw [List.mem_singleton.1 hs]
      exact ⟨_, _, _, hread⟩
  · obtain ⟨hthis, hpush⟩ := push_of_getter hgetter
    rw [List.mem_singleton.1 hpart] at hp
    rw [List.mem_singleton.1 hp] at hs
    rcases List.mem_cons.1 hs with rfl | hs
    · exact isMade_thisAccess hthis
    · rw [List.mem_singleton.1 hs]
      exact ⟨_, .inr hpush⟩

/-- **The snippets of a contribution** are made for types, or are about its signal. -/
theorem snippets_of_contribution {m : Symbol} {k : Contribution} (hk : r.contribution? c m = .ok (some k))
    {defined : List String} {part : UnitPart} (hpart : part ∈ k.parts defined) (hs : s ∈ part.snippets) :
    s.IsMade r.vocabulary ∨ ∃ signal, .signalClasses signal ∈ k.before ∧ s.IsOfSignal [signal.wrapper] := by
  obtain ⟨signal, hsignal, rfl⟩ | ⟨getter, setter?, hgetter, hsetter, rfl⟩ := contribution_cases hk
  · have hclasses : UnitPart.signalClasses signal ∈ (Contribution.ofSignal signal).before := List.mem_singleton_self _
    rcases Contribution.mem_parts hpart with hpart | ⟨name, hname, rfl⟩
    · have hpart : part = .signalClasses signal ∨ part = .signalFunctions signal := by
        simpa [Contribution.ofSignal] using hpart
      exact (snippets_of_signal hsignal hpart hs).imp_right fun h => ⟨signal, hclasses, h⟩
    · cases hname
      rw [List.mem_singleton.1 hs]
      exact .inr ⟨signal, hclasses, List.mem_singleton_self _⟩
  · left
    rcases Contribution.mem_parts hpart with hpart | ⟨name, hname, rfl⟩
    · exact snippets_of_accessors hgetter hsetter hpart hs
    · rw [List.mem_singleton.1 hs]
      exact isRefcounted_variableFinalizer hname

/-- The snippets of a thunk are made for types. -/
theorem snippets_of_thunk {isStatic : Bool} {o : Overload} (ho : o ∈ r.bound c isStatic) {t : Thunk}
    (ht : r.vocabulary.thunk c.className o = .ok t) (hs : s ∈ t.snippets) : s.IsMade r.vocabulary := by
  obtain ⟨m, hm, hbinds, rfl⟩ := mem_bound ho
  obtain ⟨hclass, harguments, hconstructed, hcalled⟩ := parts_of_thunk ht
  have hresult : r.vocabulary.result m.type = .ok t.result? →
      s ∈ t.result?.toList.map (fun result => .push result.2 "ret") → s.IsMade r.vocabulary := by
    intro hresult hs
    obtain ⟨⟨type, push⟩, hmem, rfl⟩ := List.mem_map.1 hs
    rw [Option.mem_toList.1 hmem] at hresult
    exact ⟨_, .inl (push_of_result hresult)⟩
  unfold Thunk.snippets at hs
  rcases List.mem_append.1 hs with hs | hs
  · obtain ⟨a, ha, rfl⟩ := List.mem_map.1 hs
    obtain ⟨p, -, index, variableName, hread⟩ := read_of_mem_arguments harguments ha
    exact ⟨_, index, variableName, hread⟩
  · cases hconstructor : c.bindsConstructor m.toSymbol with
    | true =>
      rw [hconstructed hconstructor] at hs
      rw [List.mem_singleton.1 hs, hclass]
      exact (binds_facts hbinds).constructor hconstructor
    | false =>
      obtain ⟨hcall, hcallee | hcallee⟩ := hcalled hconstructor
      · rw [hcallee] at hs
        exact hresult hcall hs
      · rw [hcallee] at hs
        rcases List.mem_cons.1 hs with rfl | hs
        · exact isMade_thisAccess rfl
        · exact hresult hcall hs

/-- The snippets of the parts that dispatch functions are made for types. -/
theorem snippets_of_dispatchParts {isStatic : Bool} {parts : List UnitPart}
    (hparts : r.dispatchParts c (r.sets c isStatic).values = .ok parts) {part : UnitPart} (hpart : part ∈ parts)
    (hsnippet : s ∈ part.snippets) : s.IsMade r.vocabulary := by
  obtain ⟨thunks, hthunks, hparts⟩ := bind_eq_ok.1 hparts
  obtain ⟨selectors, hselectors, hparts⟩ := bind_eq_ok.1 hparts
  cases hparts
  obtain ⟨p, hp, hs⟩ := List.mem_flatMap.1 hsnippet
  rcases List.mem_append.1 hpart with hpart | hpart
  · obtain ⟨t, ht, rfl⟩ := List.mem_map.1 hpart
    obtain ⟨o, ho, hthunk⟩ := (mem_of_mapM_ok hthunks).1 ht
    rw [List.mem_singleton.1 hp] at hs
    exact snippets_of_thunk ho hthunk hs
  · obtain ⟨selector, hmem, rfl⟩ := List.mem_map.1 hpart
    obtain ⟨set, -, hselector⟩ := (mem_of_mapM_ok hselectors).1 hmem
    rw [List.mem_singleton.1 hp] at hs
    obtain ⟨guarded, hcase, hs⟩ := List.mem_flatMap.1 hs
    obtain ⟨entry, hentry, rfl⟩ := List.mem_map.1 hs
    obtain ⟨o, -, parameter, -, hcheck⟩ := argCheck_of_selector hselector hcase hentry
    exact ⟨_, hcheck⟩

/-- The finalizers before the accessors are those of values. -/
theorem snippets_of_declarations {p : Passage} (hp : p ∈ r.declarationPassages c) (hs : s ∈ p.snippets) :
    s.IsMade r.vocabulary := by
  rcases List.mem_append.1 hp with hp | hp
  · simp only [List.mem_append, List.mem_map, List.mem_cons, List.not_mem_nil, or_false] at hp
    rcases hp with ((⟨name, -, rfl⟩ | rfl) | ⟨name, hname, rfl⟩) | rfl | rfl | rfl
    · cases hs
    · cases hs
    · rw [List.mem_singleton.1 hs]
      exact (mem_finalizerDependencies.1 hname).2
    · cases hs
    · cases hs
    · cases hs
  · obtain ⟨part, hpart, hp⟩ := List.mem_flatMap.1 hp
    rw [eq_finalizer_of_mem_ownFinalizer hpart] at hp
    rw [List.mem_singleton.1 hp] at hs
    rw [List.mem_singleton.1 hs]
    unfold ownFinalizer at hpart
    split at hpart
    · next hvalue =>
      rw [Bool.and_eq_true, Bool.not_eq_true'] at hvalue
      exact hvalue.1
    · cases hpart

/-- **The snippets of a unit** are made for types and classes as the registry knows them, or are about its signals. -/
theorem mem_snippets {u : BindingsUnit} (hu : (r.unitOf c).outcome = .ok u) (hs : s ∈ u.snippets) :
    s.IsMade r.vocabulary ∨ s.IsOfSignal u.wrappers := by
  obtain ⟨ks, instanceParts, staticParts, hks, hinstances, hstatics, rfl⟩ := r.exists_parts_of_unitOf hu
  obtain ⟨p, hp, hs⟩ := List.mem_flatMap.1 hs
  simp only [passages_assemble, List.mem_append, List.mem_singleton] at hp
  have hdispatch : ∀ {isStatic : Bool} {parts : List UnitPart},
      r.dispatchParts c (r.sets c isStatic).values = .ok parts → p ∈ passagesOf parts → s.IsMade r.vocabulary := by
    intro isStatic parts hparts hp
    obtain ⟨part, hpart, hp⟩ := List.mem_flatMap.1 hp
    exact snippets_of_dispatchParts hparts hpart (List.mem_flatMap.2 ⟨p, hp, hs⟩)
  rcases hp with ((((hp | hp) | hp) | hp) | hp) | rfl
  · exact .inl (snippets_of_declarations hp hs)
  · obtain ⟨part, hpart, hp⟩ := List.mem_flatMap.1 hp
    obtain ⟨k, hk, before, hpart⟩ := exists_mem_parts hpart
    obtain ⟨m, hm⟩ := exists_member_of_contributionsOf hks k hk
    refine (snippets_of_contribution hm hpart (List.mem_flatMap.2 ⟨p, hp, hs⟩)).imp_right ?_
    rintro ⟨signal, hsignal, hs⟩
    -- the classes of the signal are among the parts, so its wrapper is one of the unit
    have hclasses : UnitPart.signalClasses signal ∈ partsOf (r.definedFirst c) ks :=
      mem_partsOf_of_mem hk (List.mem_append_left _ hsignal)
    have hwrapper : signal.wrapper ∈ (r.assemble c ks instanceParts staticParts).wrappers := by
      refine List.mem_filterMap.2 ⟨.signalClasses signal, ?_, rfl⟩
      simp [assemble, hclasses]
    exact hs.mono (by simpa using hwrapper)
  · exact .inl (hdispatch hinstances hp)
  · exact .inl (hdispatch hstatics hp)
  · obtain ⟨l, -, rfl⟩ := List.mem_map.1 hp
    cases hs
  · cases hs

/-- The helpers of a snippet of a unit are applied in a line of its text. -/
theorem exists_line_of_mem_applications {u : BindingsUnit} (hu : (r.unitOf c).outcome = .ok u) (hs : s ∈ u.snippets)
    {a : Application} (ha : a ∈ s.applications) : ∃ p ∈ u.passages, ∃ line ∈ p.lines, a.IsSpelledIn line := by
  obtain ⟨p, hp, hsnippet⟩ := List.mem_flatMap.1 hs
  obtain ⟨line, hline, htext⟩ := Passage.exists_line_of_mem_snippets hsnippet
  refine ⟨p, hp, line, hline, Application.IsSpelledIn.mono ?_ htext⟩
  rcases mem_snippets hu hs with hmade | hsignal
  · exact hmade.isSpelledIn ha
  · exact hsignal.isSpelledIn ha

/-- **Ownership models are not mixed**: a helper that a unit applies to a class is one for counted references just
when the class counts references, the classes of its own signals apart. -/
theorem ownership_respected {u : BindingsUnit} (hu : (r.unitOf c).outcome = .ok u) (hs : s ∈ u.snippets)
    {a : Application} (ha : a ∈ s.applications) (hreceiver : a.className ≠ "SignalReceiver")
    (hwrapper : a.className ∉ u.wrappers) : a.helper.ownership = .weak ↔ r.isRefcounted a.className = true := by
  rcases mem_snippets hu hs with hmade | hsignal
  · have hrespects : r.vocabulary.ownership a.className = a.helper.ownership := hmade.respects ha
    rw [← hrespects]
    exact Vocabulary.ownership_eq_weak
  · rcases hsignal.className ha with hclass | hclass
    · exact absurd hclass hreceiver
    · exact absurd hclass hwrapper

theorem ownership_respected_clash :
    (.this ⟨"Hub", .weak⟩ ∈ clashUnit.snippets ∧ "Hub" ∉ clashUnit.wrappers) ∧
      (Helper.getThisWeakObject.ownership = .weak ↔ clashRegistry.isRefcounted "Hub" = true) := by
  have hsnippet : .this ⟨"Hub", .weak⟩ ∈ clashUnit.snippets := by decide
  have hwrapper : "Hub" ∉ clashUnit.wrappers := by decide
  exact ⟨⟨hsnippet, hwrapper⟩, ownership_respected outcome_clashing hsnippet (List.mem_singleton_self _) (by decide) hwrapper⟩

end Registry

end ScriptGlue
