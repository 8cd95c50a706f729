import ScriptGlue.Proofs.StarForest

/-!
# Nearest heads

Grouping by documentation tries every member of a class as the master of those after it and stops at the first that is
described. Read in one pass over the members, some start a group and each of the others joins the latest before it that
has its name and starts one. The inner loop links the followers of a master (`joinFollowers_ofLinks`); the outer loop
keeps the invariant `Reached`, that of the members still to come just those are grouped that an earlier member leads.
**`groupAll_nearest_heads`** says that both readings give the same groups, and that a second pass changes nothing.
-/

namespace ScriptGlue.OverloadGroups

/-! ### Members among their siblings -/

/-- The symbol starts a group after `earlier` siblings: none of them has its name, or it is described and does not ask
to be shown with another. -/
def StartsGroup (earlier : List Symbol) (s : Symbol) : Prop :=
  (∀ e ∈ earlier, e.name ≠ s.name) ∨ (s.hasComments = true ∧ s.groupSyntax = false)

instance (earlier : List Symbol) (s : Symbol) : Decidable (StartsGroup earlier s) := inferInstanceAs (Decidable (_ ∨ _))

/-- The latest symbol of a name that starts a group, among symbols of which the latest comes first. -/
def latestHead? (name : String) : List Symbol → Option Symbol
  | [] => none
  | e :: earlier => if e.name = name ∧ StartsGroup earlier e then some e else latestHead? name earlier

/-- A symbol among its siblings. -/
structure Sibling where
  /-- The siblings before it, the latest first. -/
  earlier : List Symbol
  /-- The symbol. -/
  symbol : Symbol
  /-- The siblings after it, in order. -/
  later : List Symbol

/-- The symbols that follow `earlier` siblings, each among its siblings. -/
def siblingsAfter : List Symbol → List Symbol → List Sibling
  | _, [] => []
  | earlier, s :: rest => ⟨earlier, s, rest⟩ :: siblingsAfter (s :: earlier) rest

/-- The members of a compound, each among its siblings. -/
def siblings (c : Compound) : List Sibling := siblingsAfter [] (c.members.map (·.toSymbol))

namespace Sibling

/-- The symbol starts a group. -/
def IsHead (x : Sibling) : Prop := StartsGroup x.earlier x.symbol

instance (x : Sibling) : Decidable x.IsHead := inferInstanceAs (Decidable (StartsGroup _ _))

/-- The latest sibling before the symbol that has its name and starts a group. -/
def nearestHead? (x : Sibling) : Option Symbol := latestHead? x.symbol.name x.earlier

/-- The symbol starts no group, and `head` is the nearest that does. -/
def IsLedBy (x : Sibling) (head : Symbol) : Prop := ¬ x.IsHead ∧ x.nearestHead? = some head

instance (x : Sibling) (head : Symbol) : Decidable (x.IsLedBy head) := inferInstanceAs (Decidable (_ ∧ _))

end Sibling

/-- The symbols of a name, up to the first that is described and does not ask to be shown with another. -/
def followersOf (name : String) : List Symbol → List Symbol
  | [] => []
  | s :: rest =>
    if s.name ≠ name then followersOf name rest
    else if joinsEarlier s then s :: followersOf name rest
    else []

/-- The links that a symbol makes as a master, if it starts a group. -/
def Sibling.links (x : Sibling) : List Link :=
  if x.IsHead then (followersOf x.symbol.name x.later).map fun s => (s.id, x.symbol.id) else []

/-- The links of some members, master by master. -/
def linksOf (xs : List Sibling) : List Link := xs.flatMap Sibling.links

theorem joinsEarlier_eq_true_iff {s : Symbol} :
    joinsEarlier s = true ↔ ¬ (s.hasComments = true ∧ s.groupSyntax = false) := by
  cases hs : s.hasComments <;> cases hg : s.groupSyntax <;> simp [joinsEarlier, hs, hg]

theorem not_startsGroup_iff {earlier : List Symbol} {s : Symbol} :
    ¬ StartsGroup earlier s ↔ (∃ e ∈ earlier, e.name = s.name) ∧ joinsEarlier s = true := by
  rw [StartsGroup, not_or, joinsEarlier_eq_true_iff]
  simp

theorem followersOf_sublist (name : String) (ss : List Symbol) : (followersOf name ss).Sublist ss := by
  fun_induction followersOf name ss with
  | case1 => exact List.Sublist.refl []
  | case2 s rest hname ih => exact ih.cons s
  | case3 s rest hname hjoins ih => exact ih.cons_cons s
  | case4 => exact List.nil_sublist _

theorem name_of_mem_followersOf {name : String} {ss : List Symbol} {s : Symbol} (h : s ∈ followersOf name ss) :
    s.name = name := by
  fun_induction followersOf name ss with
  | case1 => cases h
  | case2 s' rest hname ih => exact ih h
  | case3 s' rest hname hjoins ih =>
    rcases List.mem_cons.1 h with rfl | h
    · exact not_not.1 hname
    · exact ih h
  | case4 => cases h

theorem symbols_siblingsAfter (earlier ss : List Symbol) : (siblingsAfter earlier ss).map (·.symbol) = ss := by
  induction ss generalizing earlier with
  | nil => rfl
  | cons s rest ih => rw [siblingsAfter, List.map_cons, ih]

/-- The siblings before and after a member are among those of the list. -/
theorem subset_of_mem_siblingsAfter {earlier ss : List Symbol} {x : Sibling} (h : x ∈ siblingsAfter earlier ss) :
    earlier ⊆ x.earlier ∧ x.earlier ⊆ earlier ++ ss ∧ x.later ⊆ ss ∧ x.symbol ∈ ss := by
  induction ss generalizing earlier with
  | nil => cases h
  | cons s rest ih =>
    rcases List.mem_cons.1 h with rfl | h
    · exact ⟨fun e he => he, List.subset_append_left _ _, List.subset_cons_self _ _, List.mem_cons_self⟩
    · obtain ⟨hstart, hearlier, hlater, hsymbol⟩ := ih h
      refine ⟨fun e he => hstart (List.mem_cons_of_mem s he), fun e he => ?_,
        fun e he => List.mem_cons_of_mem s (hlater he), List.mem_cons_of_mem s hsymbol⟩
      have hmem := hearlier he
      simp only [List.mem_append, List.mem_cons] at hmem ⊢
      tauto

/-! ### The inner loop -/

/-- The master and a symbol of its name are tried if neither is linked. -/
theorem tries_ofLinks {master s : Symbol} {links : List Link} (hname : s.name = master.name)
    (hmaster : master.id ∉ links.map (·.1)) (hs : s.id ∉ links.map (·.1) ∧ s.id ∉ links.map (·.2)) :
    ((ofLinks links).isGrouped master.id || (ofLinks links).isGrouped s.id || (ofLinks links).isHead s.id ||
      master.name != s.name) = false := by
  have hgrouped : ∀ id, id ∉ links.map (·.1) → (ofLinks links).isGrouped id = false := by
    intro id hid
    rwa [Bool.eq_false_iff, ne_eq, isGrouped_ofLinks]
  have hhead : (ofLinks links).isHead s.id = false := by
    rw [Bool.eq_false_iff, ne_eq, isHead_ofLinks]
    exact hs.2
  rw [hgrouped _ hmaster, hgrouped _ hs.1, hhead, hname, bne_self_eq_false]
  rfl

/-- A link is of its two symbols only. -/
theorem not_linked_concat {links : List Link} {id follower master : String} (hfollower : id ≠ follower) (hmaster : id ≠ master)
    (h : id ∉ links.map (·.1) ∧ id ∉ links.map (·.2)) :
    id ∉ (links ++ [(follower, master)]).map (·.1) ∧ id ∉ (links ++ [(follower, master)]).map (·.2) := by
  simp only [List.map_append, List.map_singleton, List.mem_append, List.mem_singleton, not_or]
  exact ⟨⟨h.1, hfollower⟩, h.2, hmaster⟩

/-- A master links its followers if it is not grouped and none of its name is. -/
theorem joinFollowers_ofLinks {master : Symbol} {links : List Link} (h : AreStars links)
    (hmaster : master.id ∉ links.map (·.1)) {rest : List Symbol} (hnodup : (master.id :: rest.map (·.id)).Nodup)
    (hfree : ∀ s ∈ rest, s.name = master.name → s.id ∉ links.map (·.1) ∧ s.id ∉ links.map (·.2)) :
    AreStars (links ++ (followersOf master.name rest).map fun s => (s.id, master.id)) ∧
      joinFollowers master rest (ofLinks links) =
        (ofLinks (links ++ (followersOf master.name rest).map fun s => (s.id, master.id)),
          (followersOf master.name rest).length) := by
  induction rest generalizing links with
  | nil => simpa [joinFollowers, followersOf] using h
  | cons s rest ih =>
    rw [List.map_cons, List.nodup_cons, List.mem_cons, not_or, List.nodup_cons] at hnodup
    obtain ⟨⟨hne, hmasterRest⟩, hs, hrest⟩ := hnodup
    have hnodup' : (master.id :: rest.map (·.id)).Nodup := List.nodup_cons.2 ⟨hmasterRest, hrest⟩
    have hfree' : ∀ s ∈ rest, s.name = master.name → s.id ∉ links.map (·.1) ∧ s.id ∉ links.map (·.2) :=
      fun x hx => hfree x (List.mem_cons_of_mem s hx)
    rw [joinFollowers, followersOf]
    by_cases hname : s.name = master.name
    · have hunlinked := hfree s List.mem_cons_self hname
      rw [if_neg (not_not.2 hname), tries_ofLinks hname hmaster hunlinked]
      simp only [Bool.false_eq_true, if_false]
      by_cases hjoins : joinsEarlier s = true
      · have hstars : AreStars (links ++ [(s.id, master.id)]) :=
          areStars_concat.2 ⟨h, Ne.symm hne, hunlinked.1, hmaster, hunlinked.2⟩
        -- the link is of neither another sibling nor the master as a follower
        have hmaster' : master.id ∉ (links ++ [(s.id, master.id)]).map (·.1) := by
          simpa [hmaster] using hne
        have hfree'' : ∀ x ∈ rest, x.name = master.name →
            x.id ∉ (links ++ [(s.id, master.id)]).map (·.1) ∧ x.id ∉ (links ++ [(s.id, master.id)]).map (·.2) := by
          intro x hx hxname
          have hxs : x.id ≠ s.id := fun heq => hs (heq ▸ List.mem_map_of_mem hx)
          have hxm : x.id ≠ master.id := fun heq => hmasterRest (heq ▸ List.mem_map_of_mem hx)
          exact not_linked_concat hxs hxm (hfree' x hx hxname)
        obtain ⟨hresult, hloop⟩ := ih hstars hmaster' hnodup' hfree''
        rw [if_pos hjoins, if_pos hjoins, link?_ofLinks h, if_pos hstars, List.map_cons, List.append_cons]
        refine ⟨hresult, ?_⟩
        simp only [hloop, List.length_cons]
      · rw [if_neg hjoins, if_neg hjoins]
        simpa using h
    · have hskipped : ((ofLinks links).isGrouped master.id || (ofLinks links).isGrouped s.id ||
          (ofLinks links).isHead s.id || master.name != s.name) = true := by
        simp [Ne.symm hname]
      rw [if_pos hname, hskipped]
      exact ih h hmaster hnodup' hfree'

/-- A master links nothing if it is grouped, or if those of its name that might join it are. -/
theorem joinFollowers_eq_self {master : Symbol} {rest : List Symbol} {g : OverloadGroups}
    (h : g.isGrouped master.id = true ∨
      ∀ s ∈ rest, s.name = master.name → joinsEarlier s = true → g.isGrouped s.id = true) :
    joinFollowers master rest g = (g, 0) := by
  induction rest with
  | nil => rfl
  | cons s rest ih =>
    have hrest := ih (h.imp_right fun hall x hx => hall x (List.mem_cons_of_mem s hx))
    rw [joinFollowers]
    split
    · exact hrest
    · next htried =>
      simp only [Bool.or_eq_true, bne_iff_ne, ne_eq, not_or, not_not, Bool.not_eq_true] at htried
      obtain ⟨⟨⟨hmaster, hs⟩, -⟩, hname⟩ := htried
      have hjoins : joinsEarlier s = false := by
        rw [Bool.eq_false_iff]
        intro hjoins
        rcases h with h | h
        · rw [h] at hmaster
          cases hmaster
        · rw [h s List.mem_cons_self hname.symm hjoins] at hs
          cases hs
      rw [hjoins]
      rfl

/-! ### The outer loop -/

/-- The state after `earlier` siblings have been tried as masters: of the others just those are grouped that one of
these leads, and none is a head. -/
structure Reached (earlier rest : List Symbol) (links : List Link) : Prop where
  stars : AreStars links
  grouped : ∀ s ∈ rest, s.id ∈ links.map (·.1) ↔ s ∈ followersOf s.name rest ∧ ∃ e ∈ earlier, e.name = s.name
  heads : ∀ s ∈ rest, s.id ∉ links.map (·.2)

/-- At first none of the symbols is grouped. -/
theorem Reached.start {links : List Link} (h : AreStars links) {ss : List Symbol}
    (hnew : ∀ s ∈ ss, s.id ∉ links.map (·.1) ∧ s.id ∉ links.map (·.2)) : Reached [] ss links where
  stars := h
  grouped := by
    intro s hs
    simp only [List.not_mem_nil, false_and, exists_false, and_false, iff_false]
    exact (hnew s hs).1
  heads := fun s hs => (hnew s hs).2

/-- The next symbol is grouped unless it starts a group. -/
theorem Reached.grouped_iff {earlier rest : List Symbol} {links : List Link} {s : Symbol}
    (h : Reached earlier (s :: rest) links) : s.id ∈ links.map (·.1) ↔ ¬ StartsGroup earlier s := by
  have hfollows : s ∈ followersOf s.name (s :: rest) ↔ joinsEarlier s = true := by
    rw [followersOf, if_neg (by simp)]
    split <;> simp_all
  rw [h.grouped s List.mem_cons_self, not_startsGroup_iff, hfollows, and_comm]

/-- No symbol after a head is grouped under one of its name before it: the search for those ends at the head. -/
theorem Reached.not_grouped_of_head {earlier rest : List Symbol} {links : List Link} {s : Symbol}
    (h : Reached earlier (s :: rest) links) (hhead : StartsGroup earlier s) {x : Symbol} (hx : x ∈ rest)
    (hname : x.name = s.name) : x.id ∉ links.map (·.1) := by
  intro hmem
  obtain ⟨hfollows, e, he, hename⟩ := (h.grouped x (List.mem_cons_of_mem s hx)).1 hmem
  rcases hhead with hfirst | hdescribed
  · exact hfirst e he (hename.trans hname)
  · have hjoins : ¬ joinsEarlier s = true := by
      rw [joinsEarlier_eq_true_iff]
      exact not_not.2 hdescribed
    rw [followersOf, if_neg (not_not.2 hname.symm), if_neg hjoins] at hfollows
    cases hfollows

/-- A head groups its followers. -/
theorem Reached.next_of_head {earlier rest : List Symbol} {links : List Link} {s : Symbol}
    (h : Reached earlier (s :: rest) links) (hnodup : ((s :: rest).map (·.id)).Nodup) (hhead : StartsGroup earlier s)
    (hstars : AreStars (links ++ (followersOf s.name rest).map fun x => (x.id, s.id))) :
    Reached (s :: earlier) rest (links ++ (followersOf s.name rest).map fun x => (x.id, s.id)) := by
  obtain ⟨hs, hrest⟩ := List.nodup_cons.1 hnodup
  refine ⟨hstars, fun x hx => ?_, fun x hx => ?_⟩
  · have hid : x.id ∈ ((followersOf s.name rest).map fun y => (y.id, s.id)).map (·.1) ↔ x ∈ followersOf s.name rest := by
      rw [List.map_map]
      constructor
      · intro hmem
        obtain ⟨y, hy, hyx⟩ := List.mem_map.1 hmem
        exact List.inj_on_of_nodup_map hrest ((followersOf_sublist _ _).subset hy) hx hyx ▸ hy
      · exact fun hmem => List.mem_map.2 ⟨x, hmem, rfl⟩
    rw [List.map_append, List.mem_append, hid]
    by_cases hname : s.name = x.name
    · rw [← hname]
      simp [h.not_grouped_of_head hhead hx hname.symm]
    · have hnot : x ∉ followersOf s.name rest := fun hmem => hname (name_of_mem_followersOf hmem).symm
      rw [h.grouped x (List.mem_cons_of_mem s hx), followersOf, if_pos hname]
      simp [hnot, hname]
  · simp only [List.map_append, List.map_map, List.mem_append, List.mem_map, not_or, not_exists, not_and]
    constructor
    · intro link hlink heq
      exact h.heads x (List.mem_cons_of_mem s hx) (List.mem_map.2 ⟨link, hlink, heq⟩)
    · intro y _ heq
      exact hs (List.mem_map.2 ⟨x, hx, heq.symm⟩)

/-- A symbol that starts no group goes on with the group of its name. -/
theorem Reached.next_of_follower {earlier rest : List Symbol} {links : List Link} {s : Symbol}
    (h : Reached earlier (s :: rest) links) (hnodup : ((s :: rest).map (·.id)).Nodup) (hhead : ¬ StartsGroup earlier s) :
    Reached (s :: earlier) rest links := by
  obtain ⟨⟨e, he, hename⟩, hjoins⟩ := not_startsGroup_iff.1 hhead
  refine ⟨h.stars, fun x hx => ?_, fun x hx => h.heads x (List.mem_cons_of_mem s hx)⟩
  have hne : x ≠ s := by
    rintro rfl
    exact (List.nodup_cons.1 hnodup).1 (List.mem_map.2 ⟨x, hx, rfl⟩)
  rw [h.grouped x (List.mem_cons_of_mem s hx), followersOf]
  by_cases hname : s.name = x.name
  · rw [if_neg (not_not.2 hname), if_pos hjoins]
    simp only [List.mem_cons, hne, false_or, exists_eq_or_imp, hname, true_or, and_true, and_iff_left_iff_imp]
    exact fun _ => ⟨e, he, hename.trans hname⟩
  · rw [if_pos hname]
    simp [hname]

/-- **One master.** Trying the next symbol as a master makes its links, and the invariant holds after it. -/
theorem Reached.next {earlier rest : List Symbol} {links : List Link} {s : Symbol}
    (h : Reached earlier (s :: rest) links) (hnodup : ((s :: rest).map (·.id)).Nodup) :
    Reached (s :: earlier) rest (links ++ Sibling.links ⟨earlier, s, rest⟩) ∧
      joinFollowers s rest (ofLinks links) =
        (ofLinks (links ++ Sibling.links ⟨earlier, s, rest⟩), (Sibling.links ⟨earlier, s, rest⟩).length) := by
  by_cases hhead : StartsGroup earlier s
  · have hlinks : Sibling.links ⟨earlier, s, rest⟩ = (followersOf s.name rest).map fun x => (x.id, s.id) := if_pos hhead
    have hfree : ∀ x ∈ rest, x.name = s.name → x.id ∉ links.map (·.1) ∧ x.id ∉ links.map (·.2) := by
      intro x hx hname
      exact ⟨h.not_grouped_of_head hhead hx hname, h.heads x (List.mem_cons_of_mem s hx)⟩
    obtain ⟨hstars, hloop⟩ := joinFollowers_ofLinks h.stars (fun hmem => h.grouped_iff.1 hmem hhead) hnodup hfree
    rw [hlinks]
    exact ⟨h.next_of_head hnodup hhead hstars, by rw [hloop, List.length_map]⟩
  · have hlinks : Sibling.links ⟨earlier, s, rest⟩ = [] := if_neg hhead
    have hgrouped : (ofLinks links).isGrouped s.id = true := isGrouped_ofLinks.2 (h.grouped_iff.2 hhead)
    rw [hlinks, List.append_nil, joinFollowers_eq_self (.inl hgrouped)]
    exact ⟨h.next_of_follower hnodup hhead, rfl⟩

/-- **All masters.** A pass over the members of a class makes the links of its heads. -/
theorem groupSiblings_ofLinks {earlier ss : List Symbol} {links : List Link} (h : Reached earlier ss links)
    (hnodup : (ss.map (·.id)).Nodup) :
    AreStars (links ++ linksOf (siblingsAfter earlier ss)) ∧
      groupSiblings ss (ofLinks links) =
        (ofLinks (links ++ linksOf (siblingsAfter earlier ss)), (linksOf (siblingsAfter earlier ss)).length) := by
  induction ss generalizing earlier links with
  | nil => simpa [siblingsAfter, linksOf, groupSiblings] using h.stars
  | cons s rest ih =>
    obtain ⟨hnext, hloop⟩ := h.next hnodup
    obtain ⟨hstars, hrest⟩ := ih hnext (List.nodup_cons.1 hnodup).2
    have hlinks : linksOf (siblingsAfter earlier (s :: rest)) =
        Sibling.links ⟨earlier, s, rest⟩ ++ linksOf (siblingsAfter (s :: earlier) rest) := List.flatMap_cons
    rw [hlinks, ← List.append_assoc, groupSiblings, hloop]
    simp only [hrest, List.length_append]
    exact ⟨hstars, trivial⟩

theorem ids_siblings (c : Compound) : (siblings c).map (·.symbol.id) = c.members.map (·.id) := by
  have hsymbols : (siblings c).map (·.symbol) = c.members.map (·.toSymbol) := symbols_siblingsAfter _ _
  have hids := congrArg (List.map (·.id)) hsymbols
  rwa [List.map_map, List.map_map] at hids

/-- Links are between the symbols of the list. -/
theorem ids_of_mem_linksOf {earlier ss : List Symbol} {link : Link} (h : link ∈ linksOf (siblingsAfter earlier ss)) :
    link.1 ∈ ss.map (·.id) ∧ link.2 ∈ ss.map (·.id) := by
  obtain ⟨x, hx, hlink⟩ := List.mem_flatMap.1 h
  obtain ⟨-, -, hlater, hsymbol⟩ := subset_of_mem_siblingsAfter hx
  unfold Sibling.links at hlink
  split at hlink
  · obtain ⟨s, hs, rfl⟩ := List.mem_map.1 hlink
    exact ⟨List.mem_map_of_mem (hlater ((followersOf_sublist _ _).subset hs)), List.mem_map_of_mem hsymbol⟩
  · cases hlink

/-- All members of some classes, each among its siblings. -/
def allSiblings (cs : List Compound) : List Sibling := cs.flatMap siblings

/-- **All classes.** A pass makes the links of the heads of all classes, if no member is grouped yet. -/
theorem groupAll_ofLinks {cs : List Compound} (hkinds : ∀ c ∈ cs, isGroupedKind c.kind = true)
    (hnodup : (cs.flatMap fun c => c.members.map (·.id)).Nodup) {links : List Link} (h : AreStars links)
    (hnew : ∀ id ∈ cs.flatMap fun c => c.members.map (·.id), id ∉ links.map (·.1) ∧ id ∉ links.map (·.2)) :
    AreStars (links ++ linksOf (allSiblings cs)) ∧
      groupAll cs (ofLinks links) = (ofLinks (links ++ linksOf (allSiblings cs)), (linksOf (allSiblings cs)).length) := by
  induction cs generalizing links with
  | nil => simpa [allSiblings, linksOf, groupAll] using h
  | cons c rest ih =>
    rw [List.flatMap_cons, List.nodup_append] at hnodup
    obtain ⟨hmembers, hrest, hapart⟩ := hnodup
    have hids : (c.members.map (·.toSymbol)).map (·.id) = c.members.map (·.id) := List.map_map
    have hstart : Reached [] (c.members.map (·.toSymbol)) links := by
      refine Reached.start h fun s hs => hnew s.id ?_
      rw [List.flatMap_cons, ← hids]
      exact List.mem_append_left _ (List.mem_map_of_mem hs)
    obtain ⟨hstars, hfirst⟩ : AreStars (links ++ linksOf (siblings c)) ∧
        groupSiblings (c.members.map (·.toSymbol)) (ofLinks links) =
          (ofLinks (links ++ linksOf (siblings c)), (linksOf (siblings c)).length) :=
      groupSiblings_ofLinks hstart (hids ▸ hmembers)
    have hnew' : ∀ id ∈ rest.flatMap fun c => c.members.map (·.id),
        id ∉ (links ++ linksOf (siblings c)).map (·.1) ∧ id ∉ (links ++ linksOf (siblings c)).map (·.2) := by
      intro id hid
      have hother : id ∉ (c.members.map (·.toSymbol)).map (·.id) := by
        rw [hids]
        exact fun hmem => hapart id hmem id hid rfl
      obtain ⟨hid₁, hid₂⟩ := hnew id (List.mem_append_right _ hid)
      simp only [List.map_append, List.mem_append, not_or]
      refine ⟨⟨hid₁, fun hmem => ?_⟩, hid₂, fun hmem => ?_⟩
      · obtain ⟨link, hlink, rfl⟩ := List.mem_map.1 hmem
        exact hother (ids_of_mem_linksOf hlink).1
      · obtain ⟨link, hlink, rfl⟩ := List.mem_map.1 hmem
        exact hother (ids_of_mem_linksOf hlink).2
    obtain ⟨hall, hloop⟩ := ih (fun c hc => hkinds c (List.mem_cons_of_mem _ hc)) hrest hstars hnew'
    have hlinks : linksOf (allSiblings (c :: rest)) = linksOf (siblings c) ++ linksOf (allSiblings rest) := by
      rw [allSiblings, List.flatMap_cons, linksOf, List.flatMap_append]
      rfl
    rw [hlinks, ← List.append_assoc, groupAll, if_pos (hkinds c List.mem_cons_self), hfirst]
    refine ⟨hall, ?_⟩
    simp only [hloop, List.length_append]

/-! ### Nearest heads -/

theorem of_latestHead? {name : String} {earlier : List Symbol} {head : Symbol} (h : latestHead? name earlier = some head) :
    head.name = name ∧ ∃ after before, earlier = after ++ head :: before ∧ StartsGroup before head := by
  induction earlier with
  | nil => cases h
  | cons e earlier ih =>
    rw [latestHead?] at h
    split at h
    · next he =>
      cases h
      exact ⟨he.1, [], earlier, rfl, he.2⟩
    · obtain ⟨hname, after, before, rfl, hhead⟩ := ih h
      exact ⟨hname, e :: after, before, rfl, hhead⟩

/-- There is a head of each name that occurs: the first of that name is one. -/
theorem exists_latestHead? {name : String} {earlier : List Symbol} (h : ∃ e ∈ earlier, e.name = name) :
    ∃ head, latestHead? name earlier = some head := by
  induction earlier with
  | nil => simp at h
  | cons e earlier ih =>
    rw [latestHead?]
    split
    · exact ⟨e, rfl⟩
    · next hnot =>
      by_cases hname : e.name = name
      · obtain ⟨⟨e', he', hname'⟩, -⟩ := not_startsGroup_iff.1 fun hhead => hnot ⟨hname, hhead⟩
        exact ih ⟨e', he', hname'.trans hname⟩
      · obtain ⟨e', he', hname'⟩ := h
        rcases List.mem_cons.1 he' with rfl | he'
        · exact absurd hname' hname
        · exact ih ⟨e', he', hname'⟩

/-- A symbol of another name does not come between. -/
theorem latestHead?_cons_of_ne {name : String} {s : Symbol} (h : s.name ≠ name) (earlier : List Symbol) :
    latestHead? name (s :: earlier) = latestHead? name earlier := by
  rw [latestHead?, if_neg fun hs => h hs.1]

/-- What stands among the siblings before a member is itself a member of the list, unless it stands before them all. -/
theorem mem_siblingsAfter_of_earlier {earlier ss before after : List Symbol} {x : Sibling} {e : Symbol}
    (h : x ∈ siblingsAfter earlier ss) (he : x.earlier = after ++ e :: before) :
    e :: before <:+ earlier ∨ ∃ later, ⟨before, e, later⟩ ∈ siblingsAfter earlier ss := by
  induction ss generalizing earlier with
  | nil => cases h
  | cons s rest ih =>
    rcases List.mem_cons.1 h with rfl | h
    · exact .inl ⟨after, he.symm⟩
    · rcases ih h with hsuffix | ⟨later, hlater⟩
      · rcases List.suffix_cons_iff.1 hsuffix with heq | hsuffix
        · cases heq
          exact .inr ⟨rest, List.mem_cons_self⟩
        · exact .inl hsuffix
      · exact .inr ⟨later, List.mem_cons_of_mem _ hlater⟩

/-- Once another head of its name has come, a head leads no one. -/
theorem nearestHead?_ne {earlier ss : List Symbol} {head : Symbol} (h : latestHead? head.name earlier ≠ some head)
    (hnot : head ∉ ss) : ∀ x ∈ siblingsAfter earlier ss, x.nearestHead? ≠ some head := by
  induction ss generalizing earlier with
  | nil => simp [siblingsAfter]
  | cons s rest ih =>
    obtain ⟨hs, hrest⟩ := List.ne_and_not_mem_of_not_mem_cons hnot
    rw [siblingsAfter, List.forall_mem_cons]
    constructor
    · intro hhead
      have hname : head.name = s.name := (of_latestHead? hhead).1
      exact h (hname ▸ hhead)
    · refine ih ?_ hrest
      rw [latestHead?]
      split
      · exact fun heq => hs (Option.some.inj heq).symm
      · exact h

/-- The members that a head leads, among those after it. -/
theorem filter_isLedBy {earlier ss : List Symbol} {head : Symbol} (h : latestHead? head.name earlier = some head)
    (hnot : head ∉ ss) :
    ((siblingsAfter earlier ss).filter (·.IsLedBy head)).map (·.symbol) = followersOf head.name ss := by
  induction ss generalizing earlier with
  | nil => rfl
  | cons s rest ih =>
    obtain ⟨hs, hrest⟩ := List.ne_and_not_mem_of_not_mem_cons hnot
    rw [siblingsAfter, followersOf]
    by_cases hname : s.name = head.name
    · rw [if_neg (not_not.2 hname)]
      have hearlier : ∃ e ∈ earlier, e.name = s.name := by
        obtain ⟨-, after, before, rfl, -⟩ := of_latestHead? h
        exact ⟨head, by simp, hname.symm⟩
      by_cases hjoins : joinsEarlier s = true
      · have hfollows : ¬ StartsGroup earlier s := not_startsGroup_iff.2 ⟨hearlier, hjoins⟩
        have hled : Sibling.IsLedBy ⟨earlier, s, rest⟩ head := ⟨hfollows, by rw [Sibling.nearestHead?, hname, h]⟩
        have hlatest : latestHead? head.name (s :: earlier) = some head := by
          rw [latestHead?, if_neg fun hboth => hfollows hboth.2, h]
        rw [if_pos hjoins, List.filter_cons_of_pos (by simpa using hled), List.map_cons, ih hlatest hrest]
      · have hhead : StartsGroup earlier s := by
          by_contra hfollows
          exact hjoins (not_startsGroup_iff.1 hfollows).2
        have hlatest : latestHead? head.name (s :: earlier) ≠ some head := by
          rw [latestHead?, if_pos ⟨hname, hhead⟩]
          exact fun heq => hs (Option.some.inj heq).symm
        have hnone : (siblingsAfter (s :: earlier) rest).filter (·.IsLedBy head) = [] := by
          rw [List.filter_eq_nil_iff]
          intro x hx hled
          exact nearestHead?_ne hlatest hrest x hx (of_decide_eq_true hled).2
        have hled : ¬ Sibling.IsLedBy ⟨earlier, s, rest⟩ head := fun hled => hled.1 hhead
        rw [if_neg hjoins, List.filter_cons_of_neg (by simpa using hled), hnone, List.map_nil]
    · have hled : ¬ Sibling.IsLedBy ⟨earlier, s, rest⟩ head := by
        intro hled
        exact hname (of_latestHead? hled.2).1.symm
      rw [if_pos hname, List.filter_cons_of_neg (by simpa using hled)]
      exact ih ((latestHead?_cons_of_ne hname earlier).trans h) hrest

/-- **The followers of a head are those whose nearest head it is.** -/
theorem filter_siblings {earlier ss : List Symbol} (hnodup : ((earlier ++ ss).map (·.id)).Nodup) {x : Sibling}
    (hx : x ∈ siblingsAfter earlier ss) (hhead : x.IsHead) :
    ((siblingsAfter earlier ss).filter (·.IsLedBy x.symbol)).map (·.symbol) = followersOf x.symbol.name x.later := by
  induction ss generalizing earlier with
  | nil => cases hx
  | cons s rest ih =>
    have hperm : (earlier ++ s :: rest).Perm (s :: earlier ++ rest) := List.perm_middle
    have hnodup' : ((s :: earlier ++ rest).map (·.id)).Nodup := (hperm.map _).nodup_iff.1 hnodup
    have hsplit : (s :: earlier ++ rest).Nodup := List.Nodup.of_map _ hnodup'
    rw [siblingsAfter]
    rcases List.mem_cons.1 hx with rfl | hx
    · have hlatest : latestHead? s.name (s :: earlier) = some s := by rw [latestHead?, if_pos ⟨rfl, hhead⟩]
      have hnot : s ∉ rest := fun hmem => (List.nodup_cons.1 hsplit).1 (List.mem_append_right _ hmem)
      have hled : ¬ Sibling.IsLedBy ⟨earlier, s, rest⟩ s := fun hled => hled.1 hhead
      rw [List.filter_cons_of_neg (by simpa using hled)]
      exact filter_isLedBy hlatest hnot
    · have hnotled : ¬ Sibling.IsLedBy ⟨earlier, s, rest⟩ x.symbol := by
        intro hled
        obtain ⟨-, after, before, hearlier, -⟩ := of_latestHead? hled.2
        have hmem : x.symbol ∈ s :: earlier := by
          rw [show earlier = after ++ x.symbol :: before from hearlier]
          simp
        have hrest : x.symbol ∈ rest := (subset_of_mem_siblingsAfter hx).2.2.2
        exact (List.nodup_append.1 hsplit).2.2 _ hmem _ hrest rfl
      rw [List.filter_cons_of_neg (by simpa using hnotled)]
      exact ih hnodup' hx

/-! ### The groups of a pass -/

/-- Where all but one of some elements with distinct keys give nothing, what they give is what this one gives. -/
theorem flatMap_eq_of_nodup {α β κ : Type} {key : α → κ} {f : α → List β} {l : List α} (hnodup : (l.map key).Nodup) {x : α}
    (hx : x ∈ l) (h : ∀ y ∈ l, key y ≠ key x → f y = []) : l.flatMap f = f x := by
  obtain ⟨before, after, rfl⟩ := List.append_of_mem hx
  rw [List.map_append, List.map_cons, List.nodup_middle, List.nodup_cons, List.mem_append, not_or] at hnodup
  obtain ⟨⟨hbefore, hafter⟩, -⟩ := hnodup
  have hnone₁ : before.flatMap f = [] := by
    rw [List.flatMap_eq_nil_iff]
    exact fun y hy => h y (List.mem_append_left _ hy) fun heq => hbefore (heq ▸ List.mem_map_of_mem hy)
  have hnone₂ : after.flatMap f = [] := by
    rw [List.flatMap_eq_nil_iff]
    exact fun y hy => h y (List.mem_append_right _ (List.mem_cons_of_mem x hy)) fun heq =>
      hafter (heq ▸ List.mem_map_of_mem hy)
  rw [List.flatMap_append, List.flatMap_cons, hnone₁, hnone₂, List.nil_append, List.append_nil]

section Pass

variable {cs : List Compound}

theorem ids_allSiblings (cs : List Compound) :
    (allSiblings cs).map (·.symbol.id) = cs.flatMap fun c => c.members.map (·.id) := by
  rw [allSiblings, List.map_flatMap]
  exact List.flatMap_congr fun c _ => ids_siblings c

/-- The symbols that a master puts into a group. -/
theorem joinersOf_links (x : Sibling) (id : String) :
    joinersOf x.links id = if x.IsHead ∧ x.symbol.id = id then (followersOf x.symbol.name x.later).map (·.id) else [] := by
  by_cases hhead : x.IsHead
  · by_cases hid : x.symbol.id = id
    · simp [joinersOf, Sibling.links, hhead, hid, List.filter_map, Function.comp_def]
    · simp [joinersOf, Sibling.links, hhead, hid, List.filter_map, Function.comp_def]
  · simp [joinersOf, Sibling.links, hhead]

/-- A member has a head nearest to it unless it starts a group. -/
theorem exists_isLedBy_iff (x : Sibling) : (∃ h, x.IsLedBy h) ↔ ¬ x.IsHead := by
  constructor
  · rintro ⟨h, hled⟩
    exact hled.1
  · intro hfollows
    obtain ⟨h, hlatest⟩ := exists_latestHead? (not_startsGroup_iff.1 hfollows).1
    exact ⟨h, hfollows, hlatest⟩

theorem exists_sibling_of_mem_linksOf {link : Link} (h : link ∈ linksOf (allSiblings cs)) :
    ∃ c ∈ cs, ∃ x ∈ siblings c, x.symbol.id = link.1 := by
  obtain ⟨y, hy, hlink⟩ := List.mem_flatMap.1 h
  obtain ⟨c, hc, hy⟩ := List.mem_flatMap.1 hy
  have hid := (ids_of_mem_linksOf (List.mem_flatMap.2 ⟨y, hy, hlink⟩)).1
  rw [List.map_map] at hid
  obtain ⟨x, hx, hxid⟩ := List.mem_map.1 ((ids_siblings c).symm ▸ hid)
  exact ⟨c, hc, x, hx, hxid⟩

section Distinct

variable (hnodup : (cs.flatMap fun c => c.members.map (·.id)).Nodup)

include hnodup

/-- Members with distinct identifiers are told by them. -/
theorem eq_of_id_eq {x y : Sibling} (hx : x ∈ allSiblings cs) (hy : y ∈ allSiblings cs)
    (h : x.symbol.id = y.symbol.id) : x = y :=
  List.inj_on_of_nodup_map (ids_allSiblings cs ▸ hnodup) hx hy h

theorem filter_siblings_of_mem {c : Compound} (hc : c ∈ cs) {x : Sibling} (hx : x ∈ siblings c) (hhead : x.IsHead) :
    ((siblings c).filter (·.IsLedBy x.symbol)).map (·.symbol) = followersOf x.symbol.name x.later := by
  refine filter_siblings ?_ hx hhead
  rw [List.nil_append, List.map_map]
  exact (List.nodup_flatMap.1 hnodup).1 c hc

/-- A head leads the members that it is linked with. -/
theorem joinersOf_linksOf {x : Sibling} (hx : x ∈ allSiblings cs) (hhead : x.IsHead) :
    joinersOf (linksOf (allSiblings cs)) x.symbol.id = (followersOf x.symbol.name x.later).map (·.id) := by
  have hsum : joinersOf (linksOf (allSiblings cs)) x.symbol.id =
      (allSiblings cs).flatMap fun y => joinersOf y.links x.symbol.id := by
    simp only [joinersOf, linksOf, List.filter_flatMap, List.map_flatMap]
  have hother : ∀ y ∈ allSiblings cs, y.symbol.id ≠ x.symbol.id → joinersOf y.links x.symbol.id = [] := by
    intro y _ hne
    rw [joinersOf_links, if_neg fun hboth => hne hboth.2]
  rw [hsum, flatMap_eq_of_nodup (ids_allSiblings cs ▸ hnodup) hx hother, joinersOf_links, if_pos ⟨hhead, rfl⟩]

/-- A member is linked with a head just if it is led by it. -/
theorem mem_joinersOf_iff {c : Compound} (hc : c ∈ cs) {x y : Sibling} (hx : x ∈ siblings c) (hy : y ∈ allSiblings cs)
    (hhead : x.IsHead) :
    y.symbol.id ∈ joinersOf (linksOf (allSiblings cs)) x.symbol.id ↔ y ∈ siblings c ∧ y.IsLedBy x.symbol := by
  have hmem : ∀ z ∈ siblings c, z ∈ allSiblings cs := fun z hz => List.mem_flatMap.2 ⟨c, hc, hz⟩
  rw [joinersOf_linksOf hnodup (hmem x hx) hhead, ← filter_siblings_of_mem hnodup hc hx hhead, List.map_map]
  constructor
  · intro h
    obtain ⟨z, hz, hid⟩ := List.mem_map.1 h
    obtain ⟨hz, hled⟩ := List.mem_filter.1 hz
    cases eq_of_id_eq hnodup (hmem z hz) hy hid
    exact ⟨hz, of_decide_eq_true hled⟩
  · rintro ⟨hy, hled⟩
    exact List.mem_map.2 ⟨y, List.mem_filter.2 ⟨hy, decide_eq_true hled⟩, rfl⟩

/-- Just the members that start no group are linked. -/
theorem mem_linksOf_iff {c : Compound} (hc : c ∈ cs) {x : Sibling} (hx : x ∈ siblings c) (head : String) :
    (x.symbol.id, head) ∈ linksOf (allSiblings cs) ↔ ∃ h, x.IsLedBy h ∧ head = h.id := by
  have hmem : ∀ z ∈ siblings c, z ∈ allSiblings cs := fun z hz => List.mem_flatMap.2 ⟨c, hc, hz⟩
  have hlinked : ∀ id, (x.symbol.id, id) ∈ linksOf (allSiblings cs) ↔ x.symbol.id ∈ joinersOf (linksOf (allSiblings cs)) id := by
    intro id
    simp [joinersOf]
  constructor
  · intro h
    -- the link is made by a head, which leads the member
    obtain ⟨y, hy, hlink⟩ := List.mem_flatMap.1 h
    obtain ⟨c', hc', hy'⟩ := List.mem_flatMap.1 hy
    unfold Sibling.links at hlink
    split at hlink
    · next hhead =>
      obtain ⟨s, -, hlink⟩ := List.mem_map.1 hlink
      obtain rfl : y.symbol.id = head := congrArg Prod.snd hlink
      exact ⟨y.symbol, ((mem_joinersOf_iff hnodup hc' hy' (hmem x hx) hhead).1 ((hlinked _).1 h)).2, rfl⟩
    · cases hlink
  · rintro ⟨h, hled, rfl⟩
    obtain ⟨-, after, before, hearlier, hhead⟩ := of_latestHead? hled.2
    obtain hnone | ⟨later, hlater⟩ := mem_siblingsAfter_of_earlier hx hearlier
    · cases List.suffix_nil.1 hnone
    · exact (hlinked _).2 ((mem_joinersOf_iff hnodup hc hlater (hmem x hx) hhead).2 ⟨hx, hled⟩)

/-- There are as many links as members that start no group. -/
theorem length_linksOf (hstars : AreStars (linksOf (allSiblings cs))) :
    (linksOf (allSiblings cs)).length = ((allSiblings cs).filter fun x => ¬ x.IsHead).length := by
  have hids : (((allSiblings cs).filter fun x => ¬ x.IsHead).map (·.symbol.id)).Nodup := by
    rw [← ids_allSiblings] at hnodup
    exact hnodup.sublist (List.filter_sublist.map _)
  have hperm : ((linksOf (allSiblings cs)).map (·.1)).Perm
      (((allSiblings cs).filter fun x => ¬ x.IsHead).map (·.symbol.id)) := by
    rw [List.perm_ext_iff_of_nodup hstars.1 hids]
    intro id
    constructor
    · intro hmem
      obtain ⟨link, hlink, rfl⟩ := List.mem_map.1 hmem
      obtain ⟨c, hc, x, hx, hid⟩ := exists_sibling_of_mem_linksOf hlink
      obtain ⟨h, hled, -⟩ := (mem_linksOf_iff hnodup hc hx link.2).1 (hid.symm ▸ hlink)
      exact List.mem_map.2 ⟨x, List.mem_filter.2 ⟨List.mem_flatMap.2 ⟨c, hc, hx⟩, decide_eq_true hled.1⟩, hid⟩
    · intro hmem
      obtain ⟨x, hx, rfl⟩ := List.mem_map.1 hmem
      obtain ⟨hx, hfollows⟩ := List.mem_filter.1 hx
      obtain ⟨c, hc, hx⟩ := List.mem_flatMap.1 hx
      obtain ⟨h, hled⟩ := (exists_isLedBy_iff x).2 (of_decide_eq_true hfollows)
      exact List.mem_map.2 ⟨_, (mem_linksOf_iff hnodup hc hx h.id).2 ⟨h, hled, rfl⟩, rfl⟩
  simpa using hperm.length_eq

end Distinct

/-! ### A second pass -/

/-- A pass over members of which all that start no group are grouped changes nothing. -/
theorem groupSiblings_eq_self {earlier ss : List Symbol} {g : OverloadGroups}
    (h : ∀ x ∈ siblingsAfter earlier ss, ¬ x.IsHead → g.isGrouped x.symbol.id = true) : groupSiblings ss g = (g, 0) := by
  induction ss generalizing earlier with
  | nil => rfl
  | cons s rest ih =>
    rw [siblingsAfter, List.forall_mem_cons] at h
    have hmaster : joinFollowers s rest g = (g, 0) := by
      refine joinFollowers_eq_self (.inr fun x hx hname hjoins => ?_)
      have hsymbols := symbols_siblingsAfter (s :: earlier) rest
      obtain ⟨y, hy, rfl⟩ := List.mem_map.1 (hsymbols.symm ▸ hx)
      have hearlier : s ∈ y.earlier := (subset_of_mem_siblingsAfter hy).1 List.mem_cons_self
      exact h.2 y hy (not_startsGroup_iff.2 ⟨⟨s, hearlier, hname.symm⟩, hjoins⟩)
    rw [groupSiblings, hmaster]
    simp only [ih h.2]

theorem groupAll_eq_self {g : OverloadGroups}
    (h : ∀ x ∈ allSiblings cs, ¬ x.IsHead → g.isGrouped x.symbol.id = true) : groupAll cs g = (g, 0) := by
  induction cs with
  | nil => rfl
  | cons c rest ih =>
    have hmembers : groupSiblings (c.members.map (·.toSymbol)) g = (g, 0) :=
      groupSiblings_eq_self fun x hx => h x (List.mem_append_left _ hx)
    have hrest : groupAll rest g = (g, 0) := ih fun x hx => h x (List.mem_append_right _ hx)
    rw [groupAll, hmembers]
    simp only [hrest, ite_self]

/-! ### What is said of the groups -/

theorem headOf?_ofLinks {links : List Link} (h : AreStars links) {id head : String} (hlink : (id, head) ∈ links)
    (hhead : head ≠ "") : (ofLinks links).headOf? id = some head := by
  obtain ⟨before, after, rfl⟩ := List.append_of_mem hlink
  have hnodup := h.1
  rw [List.map_append, List.map_cons, List.nodup_middle, List.nodup_cons, List.mem_append, not_or] at hnodup
  have hget : (ofLinks (before ++ (id, head) :: after)).heads.get? id = some head := by
    refine List.lookup_eq_some_iff.2 ⟨before, after, rfl, fun link hbefore => ?_⟩
    rw [bne_iff_ne]
    rintro rfl
    exact hnodup.1.1 (List.mem_map.2 ⟨link, hbefore, rfl⟩)
  rw [headOf?, hget, Option.filter_some_pos]
  simpa using hhead

/-- The nearest head of a member is a member. -/
theorem mem_of_nearestHead? {c : Compound} {x : Sibling} (hx : x ∈ siblings c) {head : Symbol}
    (h : x.nearestHead? = some head) : head ∈ c.members.map (·.toSymbol) := by
  obtain ⟨-, after, before, hearlier, -⟩ := of_latestHead? h
  have hmem : head ∈ x.earlier := by
    rw [hearlier]
    exact List.mem_append_right _ List.mem_cons_self
  simpa using (subset_of_mem_siblingsAfter hx).2.1 hmem

/-- The members of a class are grouped under their nearest heads. -/
structure FollowsNearestHeads (g : OverloadGroups) (c : Compound) : Prop where
  /-- No head is grouped. -/
  heads : ∀ x ∈ siblings c, x.IsHead → g.isGrouped x.symbol.id = false
  /-- Every other member is grouped under the latest head before it that has its name. -/
  followers : ∀ x ∈ siblings c, ¬ x.IsHead → ∃ head, x.nearestHead? = some head ∧ g.headOf? x.symbol.id = some head.id
  /-- The members grouped under a head are those of which it is the nearest, in the order of their declarations. -/
  others : ∀ x ∈ siblings c, x.IsHead →
    g.othersOf x.symbol.id = ((siblings c).filter (·.IsLedBy x.symbol)).map (·.symbol.id)

/-- **Grouping by documentation finds the nearest heads.** For members with distinct identifiers that no link has
grouped, a pass groups every member under its nearest head and counts those it groups; another pass makes no link and
changes nothing. -/
theorem groupAll_nearest_heads (hkinds : ∀ c ∈ cs, isGroupedKind c.kind = true)
    (hids : ∀ c ∈ cs, ∀ m ∈ c.members, m.id ≠ "") (hnodup : (cs.flatMap fun c => c.members.map (·.id)).Nodup) :
    (∀ c ∈ cs, FollowsNearestHeads (groupAll cs {}).1 c) ∧
      (groupAll cs {}).2 = ((cs.flatMap siblings).filter fun x => ¬ x.IsHead).length ∧
      groupAll cs (groupAll cs {}).1 = ((groupAll cs {}).1, 0) := by
  have hempty : AreStars [] := by decide
  obtain ⟨hstars, hpass⟩ := groupAll_ofLinks hkinds hnodup hempty (by simp)
  rw [List.nil_append] at hstars hpass
  have hstart : groupAll cs {} = (ofLinks (linksOf (allSiblings cs)), (linksOf (allSiblings cs)).length) := hpass
  have hgrouped : ∀ c ∈ cs, ∀ x ∈ siblings c,
      (ofLinks (linksOf (allSiblings cs))).isGrouped x.symbol.id = true ↔ ¬ x.IsHead := by
    intro c hc x hx
    rw [isGrouped_ofLinks, ← exists_isLedBy_iff, List.mem_map]
    constructor
    · rintro ⟨link, hlink, hid⟩
      obtain ⟨h, hled, -⟩ := (mem_linksOf_iff hnodup hc hx link.2).1 (hid ▸ hlink)
      exact ⟨h, hled⟩
    · rintro ⟨h, hled⟩
      exact ⟨_, (mem_linksOf_iff hnodup hc hx h.id).2 ⟨h, hled, rfl⟩, rfl⟩
  rw [hstart]
  refine ⟨fun c hc => ⟨fun x hx hhead => ?_, fun x hx hfollows => ?_, fun x hx hhead => ?_⟩, ?_, ?_⟩
  · rw [Bool.eq_false_iff, ne_eq, hgrouped c hc x hx, not_not]
    exact hhead
  · obtain ⟨head, hled⟩ := (exists_isLedBy_iff x).2 hfollows
    refine ⟨head, hled.2, headOf?_ofLinks hstars ((mem_linksOf_iff hnodup hc hx head.id).2 ⟨head, hled, rfl⟩) ?_⟩
    obtain ⟨m, hm, rfl⟩ := List.mem_map.1 (mem_of_nearestHead? hx hled.2)
    exact hids c hc m hm
  · have hmem : x ∈ allSiblings cs := List.mem_flatMap.2 ⟨c, hc, hx⟩
    rw [othersOf_ofLinks, joinersOf_linksOf hnodup hmem hhead, ← filter_siblings_of_mem hnodup hc hx hhead, List.map_map]
    rfl
  · exact length_linksOf hnodup hstars
  · refine groupAll_eq_self fun x hx hfollows => ?_
    obtain ⟨c, hc, hx⟩ := List.mem_flatMap.1 hx
    exact (hgrouped c hc x hx).2 hfollows

end Pass

/-- A class with two functions, of which one has three described overloads. The last of these asks to be shown with the
one before it. -/
def lever : Compound where
  kind := "class"
  name := "Lever"
  members := [{ id := "pull1", name := "Pull", brief := "Pulls." }, { id := "lock1", name := "Lock" },
    { id := "pull2", name := "Pull" }, { id := "pull3", name := "Pull", brief := "Pulls twice." },
    { id := "lock2", name := "Lock" }, { id := "pull4", name := "Pull" },
    { id := "pull5", name := "Pull", brief := "Pulls thrice.", groupSyntax := true }]

theorem groupAll_nearest_heads_lever :
    FollowsNearestHeads (groupAll [lever] {}).1 lever ∧
      (groupAll [lever] {}).1.othersOf "pull3" = ["pull4", "pull5"] ∧
      (groupAll [lever] {}).1.headOf? "pull2" = some "pull1" ∧
      (groupAll [lever] {}).2 = 4 ∧
      groupAll [lever] (groupAll [lever] {}).1 = ((groupAll [lever] {}).1, 0) := by
  have hkinds : ∀ c ∈ [lever], isGroupedKind c.kind = true := by decide
  have hids : ∀ c ∈ [lever], ∀ m ∈ c.members, m.id ≠ "" := by decide +kernel
  obtain ⟨hfollows, hcount, hagain⟩ := groupAll_nearest_heads hkinds hids (by decide +kernel)
  have hothers : (groupAll [lever] {}).1.othersOf "pull3" = ["pull4", "pull5"] := by decide +kernel
  have hhead : (groupAll [lever] {}).1.headOf? "pull2" = some "pull1" := by decide +kernel
  have hfour : ((([lever].flatMap siblings).filter fun x => ¬ x.IsHead).length) = 4 := by decide +kernel
  exact ⟨hfollows lever List.mem_cons_self, hothers, hhead, hcount.trans hfour, hagain⟩

end ScriptGlue.OverloadGroups
