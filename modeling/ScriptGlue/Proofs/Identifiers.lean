import Mathlib.Data.List.Pairwise
import ScriptGlue.Proofs.Documents
import ScriptGlue.Proofs.Maps
import ScriptGlue.Proofs.StarForest

/-!
# Identifiers

An identifier is given, or it is made: for a compound of its kind and name, for what stands in another of the owner's
identifier and the position (`IdOrigin`). Both are joined by the same sign, so that what is made may be what is given or
made elsewhere (`IdsApart` says that it is not). **`nodup_ids`** says that nothing else can go wrong: two identifiers that
are made of positions are never the same, whatever they are for and wherever it stands.
-/

namespace ScriptGlue

open ScriptGlue.Text ScriptGlue.Xml ScriptGlue.Cpp

/-! ### Where identifiers come from -/

/-- Where an identifier comes from. -/
inductive IdOrigin where
  /-- It is given. -/
  | given (id : String)
  /-- It is made of the kind and the name of a compound. -/
  | named (kind name : String)
  /-- It is made of the identifier of the owner and the position there. -/
  | placed (owner : String) (position : Nat)
  deriving DecidableEq, Repr

namespace IdOrigin

/-- The identifier. -/
def id : IdOrigin → String
  | given id => id
  | named kind name => kind ++ "_" ++ name
  | placed owner position => owner ++ "_" ++ toString position

/-- The identifier, if it is given. -/
def given? : IdOrigin → Option String
  | given id => some id
  | _ => none

/-- The kind and the name of which it is made, if it is. -/
def named? : IdOrigin → Option (String × String)
  | named kind name => some (kind, name)
  | _ => none

/-- A position is read off the end of an identifier. -/
theorem placed_inj {owner owner' : String} {position position' : Nat}
    (h : (placed owner position).id = (placed owner' position').id) : owner = owner' ∧ position = position' := by
  have hdigits : ∀ n : Nat, (toString n).toList = Nat.toDigits 10 n := fun n => Nat.toList_repr
  have hsign : ∀ n : Nat, '_' ∉ Nat.toDigits 10 n := by
    intro n hmem
    have hdigit : '_'.isDigit = true := Nat.isDigit_of_mem_toDigits (by decide) (by decide) hmem
    cases hdigit
  have hchars := congrArg String.toList h
  simp only [id, String.toList_append, hdigits, List.append_assoc] at hchars
  have hjoin : "_".toList = ['_'] := rfl
  rw [hjoin, List.singleton_append, List.singleton_append] at hchars
  have hsame : Nat.toDigits 10 position = Nat.toDigits 10 position' → position = position' := fun heq => by
    rw [← Nat.ofDigitChars_ten_toDigits (n := position), heq, Nat.ofDigitChars_ten_toDigits]
  rcases List.append_eq_append_iff.1 hchars with ⟨between, howner, hrest⟩ | ⟨between, howner, hrest⟩
  · cases between with
    | nil => exact ⟨String.toList_inj.1 (by simpa using howner.symm), hsame (List.cons.inj hrest).2⟩
    | cons c between =>
      obtain ⟨-, hrest⟩ := List.cons.inj hrest
      exact absurd (hrest ▸ by simp) (hsign position)
  · cases between with
    | nil => exact ⟨String.toList_inj.1 (by simpa using howner), hsame (List.cons.inj hrest).2.symm⟩
    | cons c between =>
      obtain ⟨-, hrest⟩ := List.cons.inj hrest
      exact absurd (hrest ▸ by simp) (hsign position')

end IdOrigin

/-- What is made is not what is given or made elsewhere. -/
structure IdsApart (origins : List IdOrigin) : Prop where
  /-- What is made of a kind and a name is not made of others. -/
  named : ∀ {kind name kind' name' : String}, .named kind name ∈ origins → .named kind' name' ∈ origins →
    kind ++ "_" ++ name = kind' ++ "_" ++ name' → kind = kind' ∧ name = name'
  /-- Nor is it given. -/
  named_given : ∀ {kind name given : String}, .named kind name ∈ origins → .given given ∈ origins →
    kind ++ "_" ++ name ≠ given
  /-- What is made of a position is not given. -/
  placed_given : ∀ {owner given : String} {position : Nat}, .placed owner position ∈ origins → .given given ∈ origins →
    owner ++ "_" ++ toString position ≠ given
  /-- Nor is it made of a kind and a name. -/
  placed_named : ∀ {owner kind name : String} {position : Nat}, .placed owner position ∈ origins →
    .named kind name ∈ origins → owner ++ "_" ++ toString position ≠ kind ++ "_" ++ name

theorem idsApart_of_nodup {origins : List IdOrigin} (h : (origins.map (·.id)).Nodup) : IdsApart origins := by
  have hinj : ∀ {o o' : IdOrigin}, o ∈ origins → o' ∈ origins → o.id = o'.id → o = o' :=
    fun ho ho' heq => List.inj_on_of_nodup_map h ho ho' heq
  constructor
  case named =>
    intro kind name kind' name' h h' heq
    cases hinj h h' heq
    exact ⟨rfl, rfl⟩
  case named_given => exact fun h h' heq => by cases hinj h h' heq
  case placed_given => exact fun h h' heq => by cases hinj h h' heq
  case placed_named => exact fun h h' heq => by cases hinj h h' heq

/-! ### Places -/

/-- Where an identifier comes from, with the place of what it is for: the position there, then the place of the owner. -/
structure Source where
  /-- Where the identifier comes from. -/
  origin : IdOrigin
  /-- The position in the owner, then the place of the owner. -/
  place : List Nat
  deriving DecidableEq, Repr

/-- What an identifier is made of is the identifier of an owner that is there. -/
def IsRooted (sources : List Source) : Prop :=
  ∀ s ∈ sources, ∀ owner position, s.origin = .placed owner position →
    ∃ o ∈ sources, o.origin.id = owner ∧ s.place = position :: o.place

/-- Where no value is given twice, only one gives it. -/
theorem eq_of_nodup_filterMap {α β : Type} {l : List α} {f : α → Option β} (h : (l.filterMap f).Nodup) {a a' : α} {b : β}
    (ha : a ∈ l) (ha' : a' ∈ l) (hf : f a = some b) (hf' : f a' = some b) : a = a' := by
  by_contra hne
  have hpairs : l.Pairwise fun a a' => ∀ b, f a = some b → ∀ b', f a' = some b' → b ≠ b' := List.pairwise_filterMap.1 h
  have : Std.Symm fun a a' => ∀ b, f a = some b → ∀ b', f a' = some b' → b ≠ b' :=
    ⟨fun _ _ hne b hb b' hb' => (hne b' hb' b hb).symm⟩
  exact hpairs.forall ha ha' hne b hf b hf' rfl

section

variable {sources : List Source} (hgiven : (sources.filterMap (·.origin.given?)).Nodup)
  (hnamed : (sources.filterMap (·.origin.named?)).Nodup) (hapart : IdsApart (sources.map (·.origin)))

include hgiven hnamed hapart

/-- Only identifiers that are made of positions may be the same. -/
theorem eq_or_placed_of_id_eq {s t : Source} (hs : s ∈ sources) (ht : t ∈ sources) (h : s.origin.id = t.origin.id) :
    s = t ∨ ∃ owner position owner' position', s.origin = .placed owner position ∧ t.origin = .placed owner' position' := by
  have hmem : ∀ {s : Source}, s ∈ sources → s.origin ∈ sources.map (·.origin) := List.mem_map_of_mem
  have hs' := hmem hs
  have ht' := hmem ht
  cases hso : s.origin with
  | given id =>
    rw [hso] at h hs'
    cases hto : t.origin with
    | given id' =>
      rw [hto] at h
      exact .inl (eq_of_nodup_filterMap hgiven hs ht (by rw [hso]; rfl) (by rw [hto]; exact congrArg some h.symm))
    | named kind name =>
      rw [hto] at h ht'
      exact absurd h.symm (hapart.named_given ht' hs')
    | placed owner position =>
      rw [hto] at h ht'
      exact absurd h.symm (hapart.placed_given ht' hs')
  | named kind name =>
    rw [hso] at h hs'
    cases hto : t.origin with
    | given id =>
      rw [hto] at h ht'
      exact absurd h (hapart.named_given hs' ht')
    | named kind' name' =>
      rw [hto] at h ht'
      obtain ⟨rfl, rfl⟩ := hapart.named hs' ht' h
      exact .inl (eq_of_nodup_filterMap hnamed hs ht (by rw [hso]; rfl) (by rw [hto]; rfl))
    | placed owner position =>
      rw [hto] at h ht'
      exact absurd h.symm (hapart.placed_named ht' hs')
  | placed owner position =>
    rw [hso] at h hs'
    cases hto : t.origin with
    | given id =>
      rw [hto] at h ht'
      exact absurd h (hapart.placed_given hs' ht')
    | named kind name =>
      rw [hto] at h ht'
      exact absurd h (hapart.placed_named hs' ht')
    | placed owner' position' => exact .inr ⟨owner, position, owner', position', rfl, rfl⟩

/-- Two identifiers are the same only at the same place: made of positions, they are made of the same identifier of an owner
at the same position, and so on outwards up to one that is not made of a position. -/
theorem place_eq_of_id_eq (hrooted : IsRooted sources) {s t : Source} (hs : s ∈ sources) (ht : t ∈ sources)
    (h : s.origin.id = t.origin.id) : s.place = t.place := by
  induction hplace : s.place generalizing s t with
  | nil =>
    rcases eq_or_placed_of_id_eq hgiven hnamed hapart hs ht h with rfl | ⟨owner, position, -, -, hso, -⟩
    · exact hplace.symm
    · obtain ⟨o, -, -, hso'⟩ := hrooted s hs owner position hso
      rw [hplace] at hso'
      cases hso'
  | cons position place ih =>
    rcases eq_or_placed_of_id_eq hgiven hnamed hapart hs ht h with rfl | ⟨owner, p, owner', p', hso, hto⟩
    · exact hplace.symm
    · obtain ⟨o, ho, howner, hso'⟩ := hrooted s hs owner p hso
      obtain ⟨o', ho', howner', hto'⟩ := hrooted t ht owner' p' hto
      rw [hplace] at hso'
      cases hso'
      rw [hso, hto] at h
      obtain ⟨rfl, rfl⟩ := IdOrigin.placed_inj h
      rw [hto', ← ih ho ho' (howner.trans howner'.symm) rfl]

/-- **Identifiers at different places are different.** -/
theorem nodup_ids (hrooted : IsRooted sources) (hplaces : (sources.map (·.place)).Nodup) :
    (sources.map (·.origin.id)).Nodup :=
  (hplaces.of_map _).map_on fun _ hs _ ht h =>
    List.inj_on_of_nodup_map hplaces hs ht (place_eq_of_id_eq hgiven hnamed hapart hrooted hs ht h)

end

/-! ### Elements -/

/-- Where the identifier comes from of what an element describes at a position in an owner. -/
def sourceOf (owner : Source) (position : Nat) (e : Element) : Source where
  origin := if (e.valueOf "id").isEmpty then .placed owner.origin.id position else .given (e.valueOf "id")
  place := position :: owner.place

/-- The enumerators whose numbers can be spelled, up to the first whose number cannot. -/
def spelledItems (e : Element) : List Element :=
  (e.named "enumvalue").take (enumeratorValues (-1) ((e.named "enumvalue").map initializerOf)).length

/-- Where the identifiers of the enumerators of a member come from. -/
def enumeratorSources (member : Source) (e : Element) : List Source :=
  if e.valueOf "kind" == "enum" then (spelledItems e).mapIdx (sourceOf member) else []

/-- Where the identifiers of members and their enumerators come from, `position` members being before them, up to the first
member with an enumerator whose number cannot be spelled. -/
def memberSources (owner : Source) : Nat → List Element → List Source
  | _, [] => []
  | position, e :: rest =>
    if startsWith (lineOf (e.find? "name")) "@" then memberSources owner position rest
    else
      enumeratorSources (sourceOf owner position e) e ++ sourceOf owner position e ::
        if isUnspellable e then [] else memberSources owner (position + 1) rest

/-- Where the identifier of a compound comes from, `position` compounds being before it. -/
def compoundSource (position : Nat) (e : Element) : Source where
  origin := if (e.valueOf "id").isEmpty then .named (e.valueOf "kind") (lineOf (e.find? "compoundname"))
    else .given (e.valueOf "id")
  place := [position]

/-- Where the identifiers of compounds and what is in them come from, `position` compounds being before them, up to the
first that cannot be read. -/
def compoundSources : Nat → List Element → List Source
  | _, [] => []
  | position, e :: rest =>
    compoundSource position e :: memberSources (compoundSource position e) 0 (memberElements e) ++
      if isSpellable e then compoundSources (position + 1) rest else []

theorem mem_enumeratorSources {member s : Source} {e : Element} (h : s ∈ enumeratorSources member e) :
    ∃ position item, s = sourceOf member position item := by
  unfold enumeratorSources at h
  split at h
  · obtain ⟨position, hlt, rfl⟩ := List.mem_mapIdx.1 h
    exact ⟨position, _, rfl⟩
  · cases h

/-- What is listed for members is for a member or for an enumerator of a member that is listed. -/
theorem mem_memberSources {owner s : Source} {position : Nat} {es : List Element} (h : s ∈ memberSources owner position es) :
    ∃ i ≥ position, ∃ e, sourceOf owner i e ∈ memberSources owner position es ∧
      (s = sourceOf owner i e ∨ ∃ j item, s = sourceOf (sourceOf owner i e) j item) := by
  induction es generalizing position with
  | nil => cases h
  | cons e rest ih =>
    rw [memberSources] at h ⊢
    split at h
    · next hunnamed =>
      rw [if_pos hunnamed]
      exact ih h
    · next hname =>
      rw [if_neg hname]
      rcases List.mem_append.1 h with h | h
      · obtain ⟨j, item, rfl⟩ := mem_enumeratorSources h
        exact ⟨position, le_rfl, e, by simp, .inr ⟨j, item, rfl⟩⟩
      · rcases List.mem_cons.1 h with rfl | h
        · exact ⟨position, le_rfl, e, by simp, .inl rfl⟩
        · split at h
          · cases h
          · next hspelled =>
            obtain ⟨i, hi, e', hmem, hs⟩ := ih h
            exact ⟨i, by omega, e', by simp [hspelled, hmem], hs⟩

/-- A compound and what is in it are listed with the compound as their last owner. -/
theorem mem_compoundSources {s : Source} {position : Nat} {es : List Element} (h : s ∈ compoundSources position es) :
    ∃ i ≥ position, ∃ e, compoundSource i e ∈ compoundSources position es ∧
      (s = compoundSource i e ∨ s ∈ memberSources (compoundSource i e) 0 (memberElements e)) ∧
      ∀ m ∈ memberSources (compoundSource i e) 0 (memberElements e), m ∈ compoundSources position es := by
  induction es generalizing position with
  | nil => cases h
  | cons e rest ih =>
    rw [compoundSources] at h ⊢
    rcases List.mem_append.1 h with h | h
    · refine ⟨position, le_rfl, e, by simp, List.mem_cons.1 h, fun m hm => by simp [hm]⟩
    · split at h
      · next hspelled =>
        obtain ⟨i, hi, e', hmem, hs, hmembers⟩ := ih h
        exact ⟨i, by omega, e', by simp [hspelled, hmem], hs, fun m hm => by simp [hspelled, hmembers m hm]⟩
      · cases h

theorem of_origin_sourceOf {owner : Source} {position position' : Nat} {e : Element} {id : String}
    (h : (sourceOf owner position e).origin = .placed id position') : owner.origin.id = id ∧ position = position' := by
  unfold sourceOf at h
  dsimp only at h
  split at h
  · cases h
    exact ⟨rfl, rfl⟩
  · cases h

theorem isRooted_compoundSources (position : Nat) (es : List Element) : IsRooted (compoundSources position es) := by
  intro s hs owner p horigin
  obtain ⟨i, -, e, hcompound, rfl | hs, hmembers⟩ := mem_compoundSources hs
  · unfold compoundSource at horigin
    dsimp only at horigin
    split at horigin <;> cases horigin
  · obtain ⟨j, -, e', hmember, rfl | ⟨k, item, rfl⟩⟩ := mem_memberSources hs
    · obtain ⟨rfl, rfl⟩ := of_origin_sourceOf horigin
      exact ⟨_, hcompound, rfl, rfl⟩
    · obtain ⟨rfl, rfl⟩ := of_origin_sourceOf horigin
      exact ⟨_, hmembers _ hmember, rfl, rfl⟩

theorem nodup_places_enumeratorSources (member : Source) (e : Element) :
    ((enumeratorSources member e).map (·.place)).Nodup := by
  unfold enumeratorSources
  split
  · have hplaces : ((spelledItems e).mapIdx (sourceOf member)).map (·.place) =
        ((spelledItems e).zipIdx.map Prod.snd).map (· :: member.place) := by
      rw [List.mapIdx_eq_zipIdx_map, List.map_map, List.map_map]
      rfl
    rw [hplaces, List.zipIdx_map_snd]
    exact List.Nodup.map (fun i j h => (List.cons.inj h).1) (List.nodup_range' ..)
  · exact List.nodup_nil

/-- A place in an owner at a position, or further in, is at no other position. -/
theorem eq_of_places (inner inner' : List Nat) {place : List Nat} {i j : Nat}
    (h : inner ++ i :: place = inner' ++ j :: place) : i = j := by
  have hend : i :: place = j :: place := (List.append_inj' h rfl).2
  exact (List.cons.inj hend).1

/-- The place of a member or of an enumerator of one. -/
theorem exists_place_of_mem {owner s : Source} {position : Nat} {es : List Element}
    (h : s ∈ memberSources owner position es) :
    ∃ i ≥ position, ∃ inner, s.place = inner ++ i :: owner.place := by
  obtain ⟨i, hi, e, -, rfl | ⟨j, item, rfl⟩⟩ := mem_memberSources h
  · exact ⟨i, hi, [], rfl⟩
  · exact ⟨i, hi, [j], rfl⟩

theorem nodup_places_memberSources (owner : Source) (position : Nat) (es : List Element) :
    ((memberSources owner position es).map (·.place)).Nodup := by
  induction es generalizing position with
  | nil => exact List.nodup_nil
  | cons e rest ih =>
    rw [memberSources]
    split
    · exact ih position
    · -- the enumerators stand in the member, and what comes later in other members
      have hlater : ∀ s ∈ if isUnspellable e then [] else memberSources owner (position + 1) rest, ∀ inner,
          s.place ≠ inner ++ position :: owner.place := by
        intro s hs inner heq
        split at hs
        · cases hs
        · obtain ⟨i, hi, inner', hplace⟩ := exists_place_of_mem hs
          have hsame := eq_of_places _ _ (hplace.symm.trans heq)
          omega
      have hrest : ((if isUnspellable e then [] else memberSources owner (position + 1) rest).map (·.place)).Nodup := by
        split
        · exact List.nodup_nil
        · exact ih (position + 1)
      rw [List.map_append, List.map_cons, List.nodup_append, List.nodup_cons]
      refine ⟨nodup_places_enumeratorSources _ _, ⟨fun hmem => ?_, hrest⟩, fun place hplace place' hplace' heq => ?_⟩
      · obtain ⟨s, hs, heq⟩ := List.mem_map.1 hmem
        exact hlater s hs [] heq
      · obtain ⟨s, hs, rfl⟩ := List.mem_map.1 hplace
        obtain ⟨j, item, rfl⟩ := mem_enumeratorSources hs
        rcases List.mem_cons.1 hplace' with rfl | hplace'
        · exact absurd (congrArg List.length heq) (by simp [sourceOf])
        · obtain ⟨s', hs', rfl⟩ := List.mem_map.1 hplace'
          exact hlater s' hs' [j] heq.symm

theorem nodup_places_compoundSources (position : Nat) (es : List Element) :
    ((compoundSources position es).map (·.place)).Nodup := by
  induction es generalizing position with
  | nil => exact List.nodup_nil
  | cons e rest ih =>
    have hinside : ∀ s ∈ compoundSource position e :: memberSources (compoundSource position e) 0 (memberElements e),
        ∃ inner, s.place = inner ++ [position] := by
      intro s hs
      rcases List.mem_cons.1 hs with rfl | hs
      · exact ⟨[], rfl⟩
      · obtain ⟨i, -, inner, hplace⟩ := exists_place_of_mem hs
        exact ⟨inner ++ [i], by rw [hplace, List.append_assoc]; rfl⟩
    have hlater : ∀ s ∈ if isSpellable e then compoundSources (position + 1) rest else [], ∀ inner,
        s.place ≠ inner ++ [position] := by
      intro s hs inner heq
      split at hs
      · obtain ⟨i, hi, e', -, rfl | hs, -⟩ := mem_compoundSources hs
        · have hsame := eq_of_places [] inner heq
          omega
        · obtain ⟨j, -, inner', hplace⟩ := exists_place_of_mem hs
          have hsame : i = position := eq_of_places (inner' ++ [j]) inner (by rw [← heq, hplace, List.append_assoc]; rfl)
          omega
      · cases hs
    rw [compoundSources, List.map_append, List.nodup_append]
    refine ⟨?_, ?_, fun place hplace place' hplace' heq => ?_⟩
    · rw [List.map_cons, List.nodup_cons]
      refine ⟨fun hmem => ?_, nodup_places_memberSources _ _ _⟩
      obtain ⟨s, hs, heq⟩ := List.mem_map.1 hmem
      obtain ⟨i, -, inner, hplace⟩ := exists_place_of_mem hs
      exact absurd (congrArg List.length (hplace.symm.trans heq)) (by simp [compoundSource])
    · split
      · exact ih (position + 1)
      · exact List.nodup_nil
    · obtain ⟨s, hs, rfl⟩ := List.mem_map.1 hplace
      obtain ⟨s', hs', rfl⟩ := List.mem_map.1 hplace'
      obtain ⟨inner, hinner⟩ := hinside s hs
      exact hlater s' hs' inner (heq.symm.trans hinner)

end ScriptGlue
