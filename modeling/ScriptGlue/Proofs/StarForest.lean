import ScriptGlue.Proofs.Documents
import ScriptGlue.Proofs.Maps

/-!
# Groups as a star forest

Groups grow by links alone: directives ask for them while documents are read, and grouping by documentation asks for
more. A link is made if the links so far and it are a star forest, in which a symbol joins one group at most and none
that has joined a group heads one. So the two maps of the groups are what the links made say, read in both directions
(`linkAll_ofLinks`). **`isForestOf_linkAll`** says this of any calls, and of whatever documents and passes have made.
-/

namespace ScriptGlue

namespace OverloadGroups

/-- A symbol and the one whose group it joins. -/
abbrev Link := String × String

/-- The links are a star forest: a symbol joins one group at most, and none that has joined a group heads one. -/
def AreStars (links : List Link) : Prop :=
  (links.map (·.1)).Nodup ∧ ∀ id ∈ links.map (·.1), id ∉ links.map (·.2)

instance (links : List Link) : Decidable (AreStars links) := inferInstanceAs (Decidable (_ ∧ _))

/-- The symbols that links put into the group of a head, in order. -/
def joinersOf (links : List Link) (head : String) : List String := (links.filter (·.2 == head)).map (·.1)

/-- The heads of links, in the order of their first links. -/
def headsOf (links : List Link) : List String := (links.map (·.2)).eraseDups

/-- The groups that links make. -/
def ofLinks (links : List Link) : OverloadGroups where
  heads := ⟨links⟩
  others := .tabulate (headsOf links) (joinersOf links)

theorem nodup_headsOf (links : List Link) : (headsOf links).Nodup := nodup_eraseDups _

theorem mem_headsOf {links : List Link} {id : String} : id ∈ headsOf links ↔ id ∈ links.map (·.2) := List.mem_eraseDups

theorem joinersOf_eq_nil_iff {links : List Link} {head : String} : joinersOf links head = [] ↔ head ∉ links.map (·.2) := by
  rw [joinersOf, List.map_eq_nil_iff, List.filter_eq_nil_iff, List.mem_map, not_exists]
  simp only [beq_iff_eq, not_and]

theorem joinersOf_concat (links : List Link) (id head other : String) :
    joinersOf (links ++ [(id, head)]) other =
      if other = head then joinersOf links head ++ [id] else joinersOf links other := by
  by_cases h : other = head
  · simp [joinersOf, h]
  · simp [joinersOf, h, Ne.symm h]

theorem headsOf_concat (links : List Link) (id head : String) :
    headsOf (links ++ [(id, head)]) = if head ∈ headsOf links then headsOf links else headsOf links ++ [head] := by
  rw [headsOf, List.map_append, List.map_singleton, eraseDups_concat]
  rfl

/-! ### What the groups of some links say -/

theorem isGrouped_ofLinks {links : List Link} {id : String} :
    (ofLinks links).isGrouped id = true ↔ id ∈ links.map (·.1) := by
  rw [isGrouped, ← OrderedMap.contains_keys, List.contains_eq_mem, decide_eq_true_eq]
  rfl

theorem othersOf_ofLinks (links : List Link) (head : String) : (ofLinks links).othersOf head = joinersOf links head := by
  rw [othersOf, OrderedMap.getD, ofLinks, OrderedMap.get?_tabulate]
  split
  · rfl
  · next h => rw [Option.getD_none, joinersOf_eq_nil_iff.2 (mt mem_headsOf.2 h)]

theorem isHead_ofLinks {links : List Link} {id : String} : (ofLinks links).isHead id = true ↔ id ∈ links.map (·.2) := by
  rw [isHead, othersOf_ofLinks, Bool.not_eq_true', Bool.eq_false_iff, ne_eq, List.isEmpty_iff, joinersOf_eq_nil_iff, not_not]

/-! ### One more link -/

theorem areStars_concat {links : List Link} {id head : String} :
    AreStars (links ++ [(id, head)]) ↔
      AreStars links ∧ id ≠ head ∧ id ∉ links.map (·.1) ∧ head ∉ links.map (·.1) ∧ id ∉ links.map (·.2) := by
  simp only [AreStars, List.map_append, List.map_singleton, List.nodup_append, List.mem_append, List.mem_singleton]
  constructor
  · rintro ⟨⟨hnodup, -, hnew⟩, hapart⟩
    have hid := hapart id (.inr rfl)
    refine ⟨⟨hnodup, fun other hother hhead => hapart other (.inl hother) (.inl hhead)⟩, fun heq => hid (.inr heq),
      fun hmem => hnew id hmem id rfl rfl, fun hmem => hapart head (.inl hmem) (.inr rfl), fun hmem => hid (.inl hmem)⟩
  · rintro ⟨⟨hnodup, hapart⟩, hne, hid, hhead, hidhead⟩
    refine ⟨⟨hnodup, List.nodup_singleton id, ?_⟩, ?_⟩
    · rintro other hother new rfl rfl
      exact hid hother
    · rintro other (hother | rfl) (hmem | rfl)
      · exact hapart other hother hmem
      · exact hhead hother
      · exact hidhead hmem
      · exact hne rfl

/-- A symbol may join a group if the links are a star forest with it. -/
theorem canLink_ofLinks {links : List Link} (h : AreStars links) {id head : String} :
    (ofLinks links).canLink id head = true ↔ AreStars (links ++ [(id, head)]) := by
  have hgrouped : ∀ id, (ofLinks links).isGrouped id = false ↔ id ∉ links.map (·.1) := by
    intro id
    rw [Bool.eq_false_iff, ne_eq, isGrouped_ofLinks]
  have hhead : (ofLinks links).isHead id = false ↔ id ∉ links.map (·.2) := by
    rw [Bool.eq_false_iff, ne_eq, isHead_ofLinks]
  simp only [canLink, Bool.and_eq_true, bne_iff_ne, ne_eq, Bool.not_eq_true', hgrouped, hhead, areStars_concat, h,
    true_and, and_assoc]

/-- **A link is made if the links are a star forest with it**, and then the groups are those of one link more. -/
theorem link?_ofLinks {links : List Link} (h : AreStars links) (id head : String) :
    (ofLinks links).link? id head =
      if AreStars (links ++ [(id, head)]) then some (ofLinks (links ++ [(id, head)])) else none := by
  rw [link?]
  by_cases hcan : (ofLinks links).canLink id head = true
  · have hstars := (canLink_ofLinks h).1 hcan
    have hnew : id ∉ (ofLinks links).heads.keys := (areStars_concat.1 hstars).2.2.1
    have hheads : (ofLinks links).heads.insert id head = (ofLinks (links ++ [(id, head)])).heads :=
      congrArg OrderedMap.mk (OrderedMap.toList_insert_of_not_mem hnew head)
    have hothers : (ofLinks links).others.insert head (joinersOf links head ++ [id]) =
        (ofLinks (links ++ [(id, head)])).others := by
      have hjoiners : ∀ other, (if other = head then joinersOf links head ++ [id] else joinersOf links other) =
          joinersOf (links ++ [(id, head)]) other := fun other => (joinersOf_concat links id head other).symm
      change (OrderedMap.tabulate (headsOf links) (joinersOf links)).insert head (joinersOf links head ++ [id]) =
        .tabulate (headsOf (links ++ [(id, head)])) (joinersOf (links ++ [(id, head)]))
      rw [headsOf_concat]
      by_cases hmem : head ∈ headsOf links
      · rw [if_pos hmem, OrderedMap.insert_tabulate_of_mem (nodup_headsOf links) _ hmem]
        exact OrderedMap.tabulate_congr fun other _ => hjoiners other
      · rw [if_neg hmem, OrderedMap.insert_tabulate_of_not_mem _ hmem]
        exact OrderedMap.tabulate_congr fun other _ => hjoiners other
    rw [if_pos hcan, if_pos hstars, othersOf_ofLinks, hheads, hothers]
  · rw [if_neg hcan, if_neg (mt (canLink_ofLinks h).2 hcan)]

/-! ### Any number of links -/

/-- The groups after some links have been asked for in order, and the links that were made. -/
def linkAll : List Link → OverloadGroups → OverloadGroups × List Link
  | [], g => (g, [])
  | (id, head) :: rest, g =>
    match g.link? id head with
    | some g' => ((linkAll rest g').1, (id, head) :: (linkAll rest g').2)
    | none => linkAll rest g

theorem linkAll_append (calls later : List Link) (g : OverloadGroups) :
    linkAll (calls ++ later) g =
      ((linkAll later (linkAll calls g).1).1, (linkAll calls g).2 ++ (linkAll later (linkAll calls g).1).2) := by
  induction calls generalizing g with
  | nil => rfl
  | cons call calls ih =>
    rw [List.cons_append, linkAll, linkAll]
    cases g.link? call.1 call.2 with
    | none => exact ih g
    | some g' => simp only [ih, List.cons_append]

theorem linkAll_sublist (calls : List Link) (g : OverloadGroups) : (linkAll calls g).2.Sublist calls := by
  induction calls generalizing g with
  | nil => exact List.Sublist.refl []
  | cons call calls ih =>
    rw [linkAll]
    cases g.link? call.1 call.2 with
    | none => exact (ih g).cons call
    | some g' => exact (ih g').cons_cons call

/-- **The groups are always those of the links made**, which are a star forest. -/
theorem linkAll_ofLinks (calls : List Link) {links : List Link} (h : AreStars links) :
    AreStars (links ++ (linkAll calls (ofLinks links)).2) ∧
      (linkAll calls (ofLinks links)).1 = ofLinks (links ++ (linkAll calls (ofLinks links)).2) := by
  induction calls generalizing links with
  | nil => simpa [linkAll] using h
  | cons call calls ih =>
    rw [linkAll, link?_ofLinks h]
    by_cases hstars : AreStars (links ++ [call])
    · rw [if_pos hstars]
      simpa using ih hstars
    · rw [if_neg hstars]
      exact ih h

/-! ### What is said of the groups -/

/-- The groups are a star forest of the links made, in their order. -/
structure IsForestOf (g : OverloadGroups) (made : List Link) : Prop where
  /-- Each grouped symbol has one head, and the symbols stand in the order in which they joined. -/
  heads : g.heads.toList = made ∧ g.heads.keys.Nodup
  /-- No symbol is both grouped and a head. -/
  apart : ∀ id, ¬ (g.isGrouped id = true ∧ g.isHead id = true)
  /-- The symbols grouped under a head are those that have it as their head, in the order in which they joined. -/
  inverse : ∀ head, g.othersOf head = (g.heads.toList.filter (·.2 == head)).map (·.1)
  /-- There is one list for each head and no other. -/
  lists : g.others.keys.Nodup ∧ ∀ head, head ∈ g.others.keys ↔ head ∈ g.heads.values
  /-- There are as many grouped symbols as links. -/
  size : g.size = made.length
  /-- Just the grouped symbols have a head. -/
  headOf : ∀ id, g.headOf? id = none ↔ g.isGrouped id = false
  /-- A link is made just if it leaves no symbol both grouped and a head, and each grouped once. -/
  link : ∀ id head, (g.link? id head).isSome = true ↔ AreStars (g.heads.toList ++ [(id, head)])
  /-- A refused link changes nothing. -/
  refused : ∀ id head, g.link? id head = none → g.link id head = g

theorem isForestOf_ofLinks {links : List Link} (h : AreStars links) (hheads : ∀ link ∈ links, link.2 ≠ "") :
    (ofLinks links).IsForestOf links where
  heads := ⟨rfl, h.1⟩
  apart := by
    intro id
    rw [isGrouped_ofLinks, isHead_ofLinks]
    exact fun hboth => h.2 id hboth.1 hboth.2
  inverse := othersOf_ofLinks links
  lists := by
    have hkeys : (ofLinks links).others.keys = headsOf links := OrderedMap.keys_tabulate _ _
    rw [hkeys]
    exact ⟨nodup_headsOf links, fun head => mem_headsOf⟩
  size := rfl
  headOf := by
    intro id
    have hmem : ∀ head, (ofLinks links).heads.get? id = some head → head ≠ "" := by
      intro head hhead
      obtain ⟨link, hlink, rfl⟩ := List.mem_map.1 (OrderedMap.mem_values_of_get? hhead)
      exact hheads link hlink
    rw [headOf?, isGrouped, OrderedMap.contains, Option.isSome_eq_false_iff, Option.isNone_iff_eq_none]
    cases hget : (ofLinks links).heads.get? id with
    | none => simp
    | some head => simpa [Option.filter] using hmem head hget
  link := by
    intro id head
    rw [link?_ofLinks h]
    change _ ↔ AreStars (links ++ [(id, head)])
    split <;> simp [*]
  refused := by
    intro id head hnone
    rw [link, hnone, Option.getD_none]

/-! ### Groups that grow by links -/

/-- The groups `g` become `g'` when links between symbols with identifiers are asked for, of which `n` are made. -/
def Grows (g : OverloadGroups) (n : Nat) (g' : OverloadGroups) : Prop :=
  ∃ calls : List Link, (∀ call ∈ calls, call.1 ≠ "" ∧ call.2 ≠ "") ∧ (linkAll calls g).1 = g' ∧
    (linkAll calls g).2.length = n

theorem Grows.refl (g : OverloadGroups) : g.Grows 0 g := ⟨[], by simp, rfl, rfl⟩

theorem Grows.trans {g g' g'' : OverloadGroups} {n n' : Nat} (h : g.Grows n g') (h' : g'.Grows n' g'') :
    g.Grows (n + n') g'' := by
  obtain ⟨calls, hcalls, rfl, rfl⟩ := h
  obtain ⟨later, hlater, rfl, rfl⟩ := h'
  refine ⟨calls ++ later, fun call hcall => ?_, ?_, ?_⟩
  · exact (List.mem_append.1 hcall).elim (hcalls call) (hlater call)
  · rw [linkAll_append]
  · rw [linkAll_append, List.length_append]

theorem grows_of_link? {g g' : OverloadGroups} {id head : String} (hid : id ≠ "") (hhead : head ≠ "")
    (h : g.link? id head = some g') : g.Grows 1 g' := by
  refine ⟨[(id, head)], fun call hcall => ?_, ?_, ?_⟩
  · rw [List.mem_singleton.1 hcall]
    exact ⟨hid, hhead⟩
  all_goals simp [linkAll, h]

/-- A link that is asked for is made or refused. -/
theorem grows_link (g : OverloadGroups) {id head : String} (hid : id ≠ "") (hhead : head ≠ "") :
    ∃ n, g.Grows n (g.link id head) := by
  rw [link]
  cases hlink : g.link? id head with
  | none => exact ⟨0, Grows.refl g⟩
  | some g' => exact ⟨1, grows_of_link? hid hhead hlink⟩

theorem grows_joinFollowers {master : Symbol} (hmaster : master.id ≠ "") {followers : List Symbol}
    (h : ∀ s ∈ followers, s.id ≠ "") (g : OverloadGroups) :
    g.Grows (joinFollowers master followers g).2 (joinFollowers master followers g).1 := by
  induction followers generalizing g with
  | nil => exact Grows.refl g
  | cons s rest ih =>
    have hrest : ∀ s ∈ rest, s.id ≠ "" := fun s hs => h s (List.mem_cons_of_mem _ hs)
    rw [joinFollowers]
    split
    · exact ih hrest g
    · split
      · cases hlink : g.link? s.id master.id with
        | none => exact ih hrest g
        | some g' =>
          have hgrows := (grows_of_link? (h s List.mem_cons_self) hmaster hlink).trans (ih hrest g')
          rw [Nat.add_comm] at hgrows
          exact hgrows
      · exact Grows.refl g

theorem grows_groupSiblings {ss : List Symbol} (h : ∀ s ∈ ss, s.id ≠ "") (g : OverloadGroups) :
    g.Grows (groupSiblings ss g).2 (groupSiblings ss g).1 := by
  induction ss generalizing g with
  | nil => exact Grows.refl g
  | cons s rest ih =>
    have hrest : ∀ s ∈ rest, s.id ≠ "" := fun s hs => h s (List.mem_cons_of_mem _ hs)
    exact (grows_joinFollowers (h s List.mem_cons_self) hrest g).trans (ih hrest _)

/-- **A pass over the members of the classes makes links**, as many as it says. -/
theorem grows_groupAll {cs : List Compound} (h : ∀ c ∈ cs, ∀ m ∈ c.members, m.id ≠ "") (g : OverloadGroups) :
    g.Grows (groupAll cs g).2 (groupAll cs g).1 := by
  induction cs generalizing g with
  | nil => exact Grows.refl g
  | cons c rest ih =>
    have hrest : ∀ c ∈ rest, ∀ m ∈ c.members, m.id ≠ "" := fun c hc => h c (List.mem_cons_of_mem _ hc)
    have hmembers : ∀ s ∈ c.members.map (·.toSymbol), s.id ≠ "" := by
      intro s hs
      obtain ⟨m, hm, rfl⟩ := List.mem_map.1 hs
      exact h c List.mem_cons_self m hm
    rw [groupAll]
    cases isGroupedKind c.kind with
    | true => exact (grows_groupSiblings hmembers g).trans (ih hrest _)
    | false => exact (Grows.refl g).trans (ih hrest g)

end OverloadGroups

/-! ### Directives -/

namespace Directive

/-- A symbol keeps its identifier and the groups grow by links. -/
def Advances (state state' : Symbol × OverloadGroups) : Prop :=
  state'.1.id = state.1.id ∧ ∃ n, state.2.Grows n state'.2

theorem Advances.trans {state state' state'' : Symbol × OverloadGroups} (h : Advances state state')
    (h' : Advances state' state'') : Advances state state'' := by
  obtain ⟨hid, n, hgrows⟩ := h
  obtain ⟨hid', n', hgrows'⟩ := h'
  exact ⟨hid'.trans hid, n + n', hgrows.trans hgrows'⟩

/-- A symbol that can find a sibling has an identifier, and so has the sibling. -/
def FindsNamed (sibling? : String → Option String) (id : String) : Prop :=
  ∀ name head, sibling? name = some head → id ≠ "" ∧ head ≠ ""

theorem advances_apply {sibling? : String → Option String} {state : Symbol × OverloadGroups}
    (h : FindsNamed sibling? state.1.id) (d : Directive) : Advances state (apply sibling? state d) := by
  cases d with
  | similarOverload name =>
    rw [apply]
    cases hsibling : sibling? name with
    | none => exact ⟨rfl, 0, .refl _⟩
    | some head =>
      obtain ⟨hid, hhead⟩ := h name head hsibling
      exact ⟨rfl, state.2.grows_link hid hhead⟩
  | indexTitle | hideIndex | category | groupSyntax => exact ⟨rfl, 0, .refl _⟩

theorem advances_foldl_apply {sibling? : String → Option String} (ds : List Directive) {state : Symbol × OverloadGroups}
    (h : FindsNamed sibling? state.1.id) : Advances state (ds.foldl (apply sibling?) state) := by
  induction ds generalizing state with
  | nil => exact ⟨rfl, 0, .refl _⟩
  | cons d ds ih =>
    have hfirst := advances_apply h d
    exact hfirst.trans (ih (hfirst.1 ▸ h))

theorem advances_applyText {sibling? : String → Option String} (text : String) (state : Symbol × OverloadGroups)
    (h : FindsNamed sibling? state.1.id) : Advances state (applyText sibling? text state).2 :=
  advances_foldl_apply _ h

/-- The directives of the three descriptions, one after the other. -/
theorem advances_applyAll {sibling? : String → Option String} {s : Symbol} {g : OverloadGroups}
    (h : FindsNamed sibling? s.id) : Advances (s, g) (applyAll sibling? (s, g)) := by
  unfold applyAll
  have hbrief := advances_applyText s.brief (s, g) h
  generalize applyText sibling? s.brief (s, g) = result at hbrief
  obtain ⟨brief, s₁, g₁⟩ := result
  have hdetailed := advances_applyText s₁.detailed ({ s₁ with brief }, g₁) (hbrief.1 ▸ h)
  have htwo : Advances (s, g) (applyText sibling? s₁.detailed ({ s₁ with brief }, g₁)).2 := hbrief.trans hdetailed
  dsimp only
  generalize applyText sibling? s₁.detailed ({ s₁ with brief }, g₁) = result at htwo
  obtain ⟨detailed, s₂, g₂⟩ := result
  have hinbody := advances_applyText s₂.inbody ({ s₂ with detailed }, g₂) (htwo.1 ▸ h)
  have hthree : Advances (s, g) (applyText sibling? s₂.inbody ({ s₂ with detailed }, g₂)).2 := htwo.trans hinbody
  exact hthree

/-- The members that a compound has are named, and links make the groups grow. -/
theorem applyMembers_spec {siblings : List Member} (hsiblings : ∀ m ∈ siblings, m.id ≠ "") (i : Nat) {ms : List Member}
    (hms : ∀ m ∈ ms, m.id ≠ "") (g : OverloadGroups) :
    (∀ m ∈ (applyMembers siblings i ms g).1, m.id ≠ "") ∧ ∃ n, g.Grows n (applyMembers siblings i ms g).2 := by
  induction ms generalizing i g with
  | nil => exact ⟨by simp [applyMembers], 0, .refl g⟩
  | cons m ms ih =>
    have hm := hms m List.mem_cons_self
    have hfinds : FindsNamed (siblingOf? siblings i) m.id := by
      intro name head hhead
      obtain ⟨sibling, hfind, rfl⟩ := Option.map_eq_some_iff.1 hhead
      exact ⟨hm, hsiblings sibling ((List.eraseIdx_sublist siblings i).subset (List.mem_of_find?_eq_some hfind))⟩
    obtain ⟨hid, n, hgrows⟩ := advances_applyAll (g := g) hfinds
    obtain ⟨hnamed, n', hgrows'⟩ := ih (i + 1) (fun m hm => hms m (List.mem_cons_of_mem _ hm))
      (applyAll (siblingOf? siblings i) (m.toSymbol, g)).2
    refine ⟨fun m' hm' => ?_, n + n', hgrows.trans hgrows'⟩
    rcases List.mem_cons.1 hm' with rfl | hm'
    · exact hid.trans_ne hm
    · exact hnamed m' hm'

theorem applyCompound_spec {c : Compound} (h : ∀ m ∈ c.members, m.id ≠ "") (g : OverloadGroups) :
    (∀ m ∈ (applyCompound c g).1.members, m.id ≠ "") ∧ ∃ n, g.Grows n (applyCompound c g).2 := by
  -- a compound has no siblings
  have hnone : FindsNamed (fun _ => none) c.id := fun name head hhead => by cases hhead
  obtain ⟨-, n, hgrows⟩ := advances_applyAll (g := g) hnone
  obtain ⟨hnamed, n', hgrows'⟩ := applyMembers_spec h 0 h (applyAll (fun _ => none) (c.toSymbol, g)).2
  exact ⟨hnamed, n + n', hgrows.trans hgrows'⟩

end Directive

/-! ### Identifiers -/

theorem Symbol.id_describe (s : Symbol) (e : Xml.Element) : (s.describe e).id = s.id := by
  have happly : ∀ (sections : List DocSection) (s : Symbol), (sections.foldl DocSection.apply s).id = s.id := by
    intro sections
    induction sections with
    | nil => exact fun s => rfl
    | cons first rest ih =>
      intro s
      rw [List.foldl_cons, ih]
      cases first <;> rfl
  exact happly _ s

theorem Symbol.id_locate (s : Symbol) (e : Xml.Element) : (s.locate e).id = s.id := by
  unfold Symbol.locate
  split <;> rfl

/-- A member that has no identifier gets one. -/
theorem id_ne_empty_of_readMember? {ignored : List String} {owner : String} {position : Nat} {e : Xml.Element} {m : Member}
    (h : readMember? ignored owner position e = some m) : m.id ≠ "" := by
  have hgiven : ∀ position : Nat, owner ++ "_" ++ toString position ≠ "" := by
    intro position heq
    have hlength := congrArg String.length heq
    simp at hlength
  unfold readMember? at h
  dsimp only at h
  split at h
  · cases h
  · cases h
    rw [Symbol.id_locate, Symbol.id_describe]
    have hid : (if (e.valueOf "id").isEmpty then owner ++ "_" ++ toString position else e.valueOf "id") ≠ "" := by
      split
      · exact hgiven position
      · next hne => simpa [String.isEmpty_iff] using hne
    split <;> exact hid

theorem id_ne_empty_of_mem_readMembers {ignored : List String} {owner : String} {position : Nat} {es : List Xml.Element}
    {m : Member} (h : m ∈ readMembers ignored owner position es) : m.id ≠ "" := by
  induction es generalizing position with
  | nil => cases h
  | cons e es ih =>
    rw [readMembers] at h
    split at h
    · next found hfound =>
      rcases List.mem_cons.1 h with rfl | h
      · exact id_ne_empty_of_readMember? hfound
      · exact ih h
    · exact ih h

/-! ### Graphs -/

namespace Graph

/-- The members of all compounds have identifiers, and the groups have grown by links. -/
structure IsIndexed (g : Graph) : Prop where
  named : ∀ c ∈ g.compounds, ∀ m ∈ c.members, m.id ≠ ""
  grown : ∃ n, ({} : OverloadGroups).Grows n g.groups

/-- Only the compounds and the groups of the graph matter. -/
theorem IsIndexed.congr {g g' : Graph} (h : g.IsIndexed) (hcompounds : g'.compounds = g.compounds)
    (hgroups : g'.groups = g.groups) : g'.IsIndexed := by
  constructor
  · rw [hcompounds]
    exact h.named
  · rw [hgroups]
    exact h.grown

theorem IsIndexed.withGroups {g : Graph} (h : g.IsIndexed) {n : Nat} {groups : OverloadGroups}
    (hgrows : g.groups.Grows n groups) : IsIndexed { g with groups } := by
  obtain ⟨n', hgrown⟩ := h.grown
  exact ⟨h.named, n' + n, hgrown.trans hgrows⟩

theorem groups_register (g : Graph) (e : Entity) : (g.register e).value.groups = g.groups := by
  unfold register
  cases h : g.symbols.contains e.symbol.id <;> simp only [h, Bool.false_eq_true, if_true, if_false] <;> rfl

theorem groups_registerAll (g : Graph) (es : List Entity) : (g.registerAll es).value.groups = g.groups := by
  induction es generalizing g with
  | nil => rfl
  | cons e es ih => exact (ih (g.register e).value).trans (g.groups_register e)

theorem IsIndexed.registerAll {g : Graph} (h : g.IsIndexed) (es : List Entity) : (g.registerAll es).value.IsIndexed :=
  h.congr (g.registerAll_spec es).1 (g.groups_registerAll es)

theorem IsIndexed.insertCompound {g : Graph} (h : g.IsIndexed) {c : Compound} (hc : ∀ m ∈ c.members, m.id ≠ "") :
    (g.insertCompound c).value.IsIndexed := by
  constructor
  · rw [(g.insertCompound_spec c).1]
    intro c' hc'
    rcases List.mem_append.1 hc' with hc' | hc'
    · exact h.named c' hc'
    · rw [List.mem_singleton.1 hc']
      exact hc
  · have hgroups : (g.insertCompound c).value.groups = g.groups := g.groups_registerAll c.entities
    rw [hgroups]
    exact h.grown

theorem IsIndexed.addCompound {g : Graph} (h : g.IsIndexed) (e : Xml.Element) : (g.addCompound e).value.1.IsIndexed := by
  have hread : ∀ es, ∀ m ∈ readMembers g.ignoredTokens (readCompound e).id 0 es, m.id ≠ "" :=
    fun es m hm => id_ne_empty_of_mem_readMembers hm
  unfold Graph.addCompound
  dsimp only
  split
  · generalize hc : ({ toSymbol := (readCompound e).toSymbol
                       members := readMembers g.ignoredTokens (readCompound e).id 0 _ } : Compound) = c
    have hmembers : ∀ m ∈ c.members, m.id ≠ "" := hc ▸ hread _
    obtain ⟨hnamed, n, hgrows⟩ := Directive.applyCompound_spec hmembers g.groups
    exact (h.withGroups hgrows).insertCompound hnamed
  · exact (h.insertCompound (hread _)).registerAll _

theorem IsIndexed.addPage {g : Graph} (h : g.IsIndexed) (e : Xml.Element) : (g.addPage e).value.IsIndexed := by
  unfold Graph.addPage
  dsimp only
  split <;> exact ⟨h.named, h.grown⟩

theorem IsIndexed.addElements {g : Graph} (h : g.IsIndexed) (es : List Xml.Element) : (g.addElements es).value.1.IsIndexed := by
  induction es generalizing g with
  | nil => exact h
  | cons e es ih =>
    rw [Graph.addElements]
    split
    · exact ih (h.addPage e)
    · have hfirst := h.addCompound e
      rw [Logged.value_bind]
      generalize (g.addCompound e).value = result at hfirst
      obtain ⟨g', failure?⟩ := result
      cases failure? with
      | none => exact ih hfirst
      | some failure => exact hfirst

theorem IsIndexed.addDocument {g : Graph} (h : g.IsIndexed) (d : Document) : (g.addDocument d).value.1.IsIndexed := by
  cases d with
  | text contents =>
    rw [Graph.addDocument, addText]
    split
    · exact h.addElements _
    · exact h
  | file path contents =>
    rw [Graph.addDocument, addFile]
    split
    · exact h.addElements _
    · exact h
    · exact h

theorem IsIndexed.groupOverloads {g : Graph} (h : g.IsIndexed) : g.groupOverloads.value.1.IsIndexed :=
  h.withGroups (OverloadGroups.grows_groupAll h.named g.groups)

theorem IsIndexed.addFiles {g : Graph} (h : g.IsIndexed) (t : Files.Tree) (here : List String) (shown : Files.Path)
    (files : List (List String)) : (Graph.addFiles t here shown g files).value.1.IsIndexed := by
  induction files generalizing g with
  | nil => exact h
  | cons inner files ih =>
    rw [Graph.addFiles]
    split
    · next text hfile =>
      have hfirst := h.addDocument (.file (shown.append inner).toString text)
      rw [Graph.addDocument] at hfirst
      rw [Logged.value_bind]
      generalize (g.addFile (shown.append inner).toString text).value = result at hfirst
      obtain ⟨g', failure?⟩ := result
      cases failure? with
      | none => exact ih hfirst
      | some failure => exact hfirst
    · exact h
    · exact h

theorem IsIndexed.addDirectory {g : Graph} (h : g.IsIndexed) (t : Files.Tree) (directory : String) (recursive : Bool) :
    (g.addDirectory t directory recursive).value.1.IsIndexed := by
  unfold Graph.addDirectory
  dsimp only
  split
  · exact h
  · exact h
  · next here hhere =>
    have hfiles := h.addFiles t here (.ofString directory) (t.matching here recursive ".xml")
    rw [Logged.value_bind, Logged.value_bind]
    generalize (Graph.addFiles t here (.ofString directory) g (t.matching here recursive ".xml")).value = result at hfiles
    obtain ⟨g', failure?⟩ := result
    cases failure? with
    | none => exact hfiles.groupOverloads
    | some failure => exact hfiles

/-- The graph has been made by reading documents and directories, also where this has failed, and by grouping its
overloads any number of times. -/
inductive IsLoaded : Graph → Prop where
  | fresh (ignoredTokens : List String) : IsLoaded { ignoredTokens }
  | document {g : Graph} (d : Document) : g.IsLoaded → IsLoaded (g.addDocument d).value.1
  | directory {g : Graph} (t : Files.Tree) (directory : String) (recursive : Bool) :
    g.IsLoaded → IsLoaded (g.addDirectory t directory recursive).value.1
  | grouped {g : Graph} : g.IsLoaded → IsLoaded g.groupOverloads.value.1

/-- The graph of one documentation text. -/
def ofText (text : String) : Graph := (Graph.addDocument { ignoredTokens := [] } (.text text)).value.1

theorem isLoaded_ofText (text : String) : (ofText text).IsLoaded := .document (.text text) (.fresh [])

theorem IsLoaded.isIndexed {g : Graph} (h : g.IsLoaded) : g.IsIndexed := by
  induction h with
  | fresh ignoredTokens => exact ⟨by simp, 0, .refl _⟩
  | document d _ ih => exact ih.addDocument d
  | directory t directory recursive _ ih => exact ih.addDirectory t directory recursive
  | grouped _ ih => exact ih.groupOverloads

end Graph

/-! ### Reachable groups -/

namespace OverloadGroups

theorem isForestOf_linkAll {calls : List Link} (h : ∀ call ∈ calls, call.1 ≠ "" ∧ call.2 ≠ "") :
    (linkAll calls {}).1.IsForestOf (linkAll calls {}).2 := by
  have hempty : AreStars [] := by decide
  obtain ⟨hstars, hgroups⟩ := linkAll_ofLinks calls hempty
  change AreStars (linkAll calls {}).2 at hstars
  change (linkAll calls {}).1 = ofLinks (linkAll calls {}).2 at hgroups
  rw [hgroups]
  exact isForestOf_ofLinks hstars fun link hlink => (h link ((linkAll_sublist calls {}).subset hlink)).2

theorem Grows.size_eq {n : Nat} {g : OverloadGroups} (h : ({} : OverloadGroups).Grows n g) : g.size = n := by
  obtain ⟨calls, hcalls, rfl, rfl⟩ := h
  exact (isForestOf_linkAll hcalls).size

/-- **The groups are always a star forest.** Whatever links between symbols with identifiers are asked for, those that
are made are a star forest, and the two maps say the same of it. So it is with the groups of every graph, whatever
documents it has been made from and however often its overloads have been grouped; and each time they are, as many
symbols are grouped as links are counted. -/
theorem groups_are_stars :
    (∀ calls : List Link, (∀ call ∈ calls, call.1 ≠ "" ∧ call.2 ≠ "") →
      (linkAll calls {}).1.IsForestOf (linkAll calls {}).2) ∧
    ∀ g : Graph, g.IsLoaded →
      (∃ calls : List Link, (∀ call ∈ calls, call.1 ≠ "" ∧ call.2 ≠ "") ∧
        g.groups = (linkAll calls {}).1 ∧ g.groups.IsForestOf (linkAll calls {}).2) ∧
      g.groupOverloads.value.1.groups.size = g.groups.size + g.groupOverloads.value.2 := by
  refine ⟨fun calls h => isForestOf_linkAll h, fun g hg => ?_⟩
  obtain ⟨n, hgrown⟩ := hg.isIndexed.grown
  have hpass := hgrown.trans (grows_groupAll hg.isIndexed.named g.groups)
  have hsize : g.groupOverloads.value.1.groups.size = g.groups.size + g.groupOverloads.value.2 :=
    hpass.size_eq.trans (congrArg (· + g.groupOverloads.value.2) hgrown.size_eq.symm)
  obtain ⟨calls, hcalls, hgroups, -⟩ := hgrown
  refine ⟨⟨calls, hcalls, hgroups.symm, ?_⟩, hsize⟩
  rw [← hgroups]
  exact isForestOf_linkAll hcalls

/-- A class with a function, and another that asks to be shown with it; none of them has an identifier. -/
def dialText : String :=
  "<compounddef kind='class'><sectiondef><memberdef><name>f</name></memberdef>" ++
    "<memberdef><briefdescription>[similaroverload:f]</briefdescription></memberdef></sectiondef></compounddef>"

theorem groups_are_stars_dial :
    (linkAll [("b", "a"), ("c", "a"), ("a", "d"), ("e", "c"), ("d", "e")] {}).2 = [("b", "a"), ("c", "a"), ("d", "e")] ∧
    (linkAll [("b", "a"), ("c", "a"), ("a", "d"), ("e", "c"), ("d", "e")] {}).1.IsForestOf
      (linkAll [("b", "a"), ("c", "a"), ("a", "d"), ("e", "c"), ("d", "e")] {}).2 ∧
    (Graph.ofText dialText).groups.heads.toList = [("class__1", "class__0")] ∧
    (∃ calls : List Link, (∀ call ∈ calls, call.1 ≠ "" ∧ call.2 ≠ "") ∧
      (Graph.ofText dialText).groups = (linkAll calls {}).1 ∧
      (Graph.ofText dialText).groups.IsForestOf (linkAll calls {}).2) ∧
    (Graph.ofText dialText).groupOverloads.value.1.groups.size =
      (Graph.ofText dialText).groups.size + (Graph.ofText dialText).groupOverloads.value.2 := by
  obtain ⟨hcalls, hgraphs⟩ := groups_are_stars
  have hmade : (linkAll [("b", "a"), ("c", "a"), ("a", "d"), ("e", "c"), ("d", "e")] {}).2 =
      [("b", "a"), ("c", "a"), ("d", "e")] := by decide +kernel
  have hgroups : (Graph.ofText dialText).groups.heads.toList = [("class__1", "class__0")] := by decide +kernel
  exact ⟨hmade, hcalls _ (by decide), hgroups, hgraphs _ (Graph.isLoaded_ofText dialText)⟩

end OverloadGroups

end ScriptGlue
