import Mathlib.Data.List.Infix
import ScriptGlue.Files.Tree

/-!
# Directories and files

What making a directory and writing a file leave as it was. A directory that is made comes with the missing directories
around it (`Tree.Extends`), and no file changes; then the path leads to the directory (`Tree.directory?_makeDirectory`).
A file that is written changes its own place (`Tree.set_of_write`), and all paths lead to the directories that they led
to before.
-/

namespace ScriptGlue.Files

open ScriptGlue.Text

/-! ### Spellings of paths -/

theorem suffix_intercalate (sep : List Char) {pieces : List (List Char)} {last : List Char}
    (h : pieces.getLast? = some last) : last <:+ sep.intercalate pieces := by
  induction pieces with
  | nil => cases h
  | cons first later ih =>
    cases later with
    | nil =>
      cases h
      simp
    | cons second later =>
      rw [List.intercalate_cons_cons]
      rw [List.getLast?_cons_cons] at h
      exact (ih h).trans (List.suffix_append _ _)

namespace Path

/-- The path is one that a text spells. -/
structure IsPlain (p : Path) : Prop where
  root : p.root ∈ ["", "/", "//"]
  /-- No part is empty or a dot, and there is no slash in any. -/
  parts : ∀ part ∈ p.parts, part ≠ "" ∧ part ≠ "." ∧ '/' ∉ part.toList

theorem isPlain_ofString (s : String) : (ofString s).IsPlain := by
  constructor
  case root =>
    unfold ofString
    dsimp only
    split <;> simp
  case parts =>
    intro part hpart
    obtain ⟨hpiece, hkept⟩ := List.mem_filter.1 hpart
    obtain ⟨piece, hmem, rfl⟩ := List.mem_map.1 hpiece
    rw [Bool.and_eq_true, bne_iff_ne, bne_iff_ne] at hkept
    refine ⟨hkept.1, hkept.2, ?_⟩
    rw [String.toList_ofList]
    exact not_mem_of_mem_splitAtChar hmem

/-- A name without a slash is the only part of its path. -/
theorem ofString_of_not_mem {name : String} (hslash : '/' ∉ name.toList) (hne : name ≠ "") (hdot : name ≠ ".") :
    ofString name = { root := "", parts := [name] } := by
  have hbegin : name.toList.takeWhile (· == '/') = [] := by
    cases hname : name.toList with
    | nil => rfl
    | cons c s =>
      rw [hname, List.mem_cons, not_or] at hslash
      simp [Ne.symm hslash.1]
  rw [ofString, hbegin, splitAtChar_of_not_mem hslash]
  simp [hne, hdot]

/-- The characters of a path with parts. -/
theorem toList_toString {p : Path} (h : p.parts ≠ []) :
    p.toString.toList = p.root.toList ++ ['/'].intercalate (p.parts.map String.toList) := by
  have hempty : p.parts.isEmpty = false := by simpa using h
  rw [toString, hempty, Bool.and_false, if_neg Bool.false_ne_true, String.toList_append, String.toList_intercalate]
  rfl

/-- The spelling of a path begins with a slash just if the path begins at the root. -/
theorem IsPlain.startsWith_toString {p : Path} (h : p.IsPlain) : startsWith p.toString "/" = p.isAbsolute := by
  have hroots : ∀ root ∈ ["", "/", "//"], startsWith (toString ⟨root, []⟩) "/" = (root != "") ∧
      (root ≠ "" → "/".toList <+: root.toList) := by decide
  obtain ⟨hroot, hstart⟩ := hroots p.root h.root
  by_cases hparts : p.parts = []
  · obtain ⟨root, parts⟩ := p
    cases hparts
    exact hroot
  rw [startsWith, Bool.eq_iff_iff, List.isPrefixOf_iff_prefix, toList_toString hparts, isAbsolute, bne_iff_ne]
  refine ⟨fun hc hroot => ?_, fun hne => (hstart hne).trans (List.prefix_append _ _)⟩
  -- the first character is that of the first part
  rw [hroot, String.toList_empty, List.nil_append] at hc
  obtain ⟨first, later, hp⟩ := List.exists_cons_of_ne_nil hparts
  obtain ⟨hne, -, hslash⟩ := h.parts first (by simp [hp])
  obtain ⟨c, s, hfirst⟩ := List.exists_cons_of_ne_nil (String.toList_eq_nil_iff.not.2 hne)
  have hc' : c ≠ '/' := by
    rintro rfl
    exact hslash (by simp [hfirst])
  rw [hp, List.map_cons, hfirst] at hc
  cases later with
  | nil => simp [Ne.symm hc'] at hc
  | cons second later => simp [Ne.symm hc'] at hc

end Path

namespace Tree

/-- What a path is walked by: its parts, or a dot for the directory that it begins at. -/
theorem steps_toString {p : Path} (h : p.IsPlain) : steps p.toString = if p.parts = [] then ["."] else p.parts := by
  have hroots : ∀ root ∈ ["", "/", "//"], steps (Path.toString ⟨root, []⟩) = ["."] ∧ ∀ s : List Char,
      ((splitAtChar '/' (root.toList ++ s)).map String.ofList).filter (· != "") =
        ((splitAtChar '/' s).map String.ofList).filter (· != "") := by
    intro root hroot
    simp only [List.mem_cons, List.not_mem_nil, or_false] at hroot
    rcases hroot with rfl | rfl | rfl
    · exact ⟨by decide, fun s => rfl⟩
    · exact ⟨by decide, fun s => by simp [splitAtChar]⟩
    · exact ⟨by decide, fun s => by simp [splitAtChar]⟩
  obtain ⟨hroot, hsplit⟩ := hroots p.root h.root
  split
  · next hparts =>
    obtain ⟨root, parts⟩ := p
    cases hparts
    exact hroot
  · next hparts =>
    have hpieces : splitAtChar '/' (['/'].intercalate (p.parts.map String.toList)) = p.parts.map String.toList := by
      refine splitAtChar_intercalate (by simpa using hparts) fun piece hpiece => ?_
      obtain ⟨part, hpart, rfl⟩ := List.mem_map.1 hpiece
      exact (h.parts part hpart).2.2
    have hfilter : p.parts.filter (· != "") = p.parts :=
      List.filter_eq_self.2 fun part hpart => bne_iff_ne.2 (h.parts part hpart).1
    have hend : endsWith p.toString "/" = false := by
      rw [Bool.eq_false_iff, ne_eq, endsWith, List.isSuffixOf_iff_suffix, Path.toList_toString hparts]
      intro hc
      have hmap : (p.parts.map String.toList).getLast? = some (p.parts.getLast hparts).toList := by
        rw [List.getLast?_map, List.getLast?_eq_some_getLast hparts, Option.map_some]
      have hlast := suffix_intercalate ['/'] hmap
      obtain ⟨hne, -, hslash⟩ := h.parts _ (List.getLast_mem hparts)
      have hlen : "/".toList.length ≤ (p.parts.getLast hparts).toList.length :=
        List.length_pos_iff.2 (String.toList_eq_nil_iff.not.2 hne)
      have hin := List.suffix_of_suffix_length_le hc (hlast.trans (List.suffix_append _ _)) hlen
      exact hslash (hin.subset (List.mem_singleton_self _))
    rw [steps, hend, Path.toList_toString hparts, hsplit, hpieces, List.map_map]
    simp [hfilter, Function.comp_def]

/-! ### Entries -/

variable {t t' t'' : Tree}

@[simp] theorem at?_nil (t : Tree) : t.at? [] = some .directory := rfl

theorem at?_of_ne_nil {place : List String} (h : place ≠ []) : t.at? place = t.entries.lookup place := by
  have hempty : place.isEmpty = false := by simpa using h
  rw [at?, hempty, if_neg Bool.false_ne_true]

@[simp] theorem current_set (t : Tree) (place : List String) (entry : Entry) : (t.set place entry).current = t.current := by
  unfold set
  split <;> rfl

/-- Changing what stands under keys changes what is found under a key. -/
theorem lookup_map {α β : Type} [BEq α] [LawfulBEq α] {f : α × β → α × β} {g : α → β → β}
    (h : ∀ entry, f entry = (entry.1, g entry.1 entry.2)) (l : List (α × β)) (key : α) :
    (l.map f).lookup key = (l.lookup key).map (g key) := by
  induction l with
  | nil => rfl
  | cons first l ih =>
    rw [List.map_cons, h, List.lookup_cons, List.lookup_cons]
    cases hkey : key == first.1 with
    | true => rw [eq_of_beq hkey]; rfl
    | false => exact ih

theorem lookup_eq_none_iff_any {α β : Type} [BEq α] [LawfulBEq α] {l : List (α × β)} {key : α} :
    l.lookup key = none ↔ ¬ l.any (·.1 == key) = true := by
  rw [List.lookup_eq_none_iff, List.any_eq_true]
  push Not
  exact forall₂_congr fun entry _ => by rw [bne_iff_ne, ne_eq, ne_eq, beq_iff_eq, eq_comm]

/-- Only the entry at the place changes. -/
theorem at?_set (t : Tree) {place : List String} (hplace : place ≠ []) (entry : Entry) (other : List String) :
    (t.set place entry).at? other = if other = place then some entry else t.at? other := by
  by_cases hother : other = []
  · subst hother
    rw [if_neg (Ne.symm hplace), at?_nil, at?_nil]
  rw [at?_of_ne_nil hother, at?_of_ne_nil hother, set]
  split
  · next hany =>
    dsimp only
    rw [lookup_map (g := fun p e => if p == place then entry else e)]
    case h =>
      intro e
      split <;> rfl
    by_cases heq : other = place
    · subst heq
      cases hlookup : t.entries.lookup other with
      | none => exact absurd hany (lookup_eq_none_iff_any.1 hlookup)
      | some value => simp
    · simp [heq]
  · next hany =>
    rw [List.lookup_append, List.lookup_cons]
    by_cases heq : other = place
    · subst heq
      simp [lookup_eq_none_iff_any.2 hany]
    · simp [heq, beq_eq_false_iff_ne.2 heq]

/-- The text of the file at a place. -/
def text? (t : Tree) (place : List String) : Option String :=
  match t.at? place with
  | some (.file text) => some text
  | _ => none

theorem text?_eq_some_iff {place : List String} {text : String} :
    t.text? place = some text ↔ t.at? place = some (.file text) := by
  unfold text?
  split
  · next other h => simp [h]
  · next h => simpa using h text

/-! ### Making directories -/

/-- Directories have come where nothing stood, and nothing else has changed. -/
structure Extends (t t' : Tree) : Prop where
  current : t'.current = t.current
  at? : ∀ place, t'.at? place = t.at? place ∨ t.at? place = none ∧ t'.at? place = some .directory

namespace Extends

theorem refl (t : Tree) : t.Extends t := ⟨rfl, fun _ => .inl rfl⟩

theorem trans (h : t.Extends t') (h' : t'.Extends t'') : t.Extends t'' := by
  refine ⟨h'.current.trans h.current, fun place => ?_⟩
  rcases h.at? place with heq | ⟨hnone, hdirectory⟩
  · rw [← heq]
    exact h'.at? place
  · rcases h'.at? place with heq' | ⟨hnone', -⟩
    · exact .inr ⟨hnone, heq'.trans hdirectory⟩
    · rw [hdirectory] at hnone'
      cases hnone'

theorem set {place : List String} (hplace : place ≠ []) (h : t.at? place = none) : t.Extends (t.set place .directory) := by
  refine ⟨current_set t place .directory, fun other => ?_⟩
  rw [at?_set t hplace]
  split
  · next heq => exact .inr ⟨heq ▸ h, rfl⟩
  · exact .inl rfl

theorem text?_eq (h : t.Extends t') (place : List String) : t'.text? place = t.text? place := by
  unfold text?
  rcases h.at? place with heq | ⟨hnone, hdirectory⟩
  · rw [heq]
  · rw [hnone, hdirectory]

theorem directory (h : t.Extends t') {place : List String} (hplace : t.at? place = some .directory) :
    t'.at? place = some .directory := by
  rcases h.at? place with heq | ⟨hnone, -⟩
  · rw [heq, hplace]
  · rw [hplace] at hnone
    cases hnone

end Extends

/-- Making a directory changes no entry, whatever becomes of it. -/
theorem extends_makeFrom (t : Tree) (path : Path) (made : Bool) (done here parts : List String) :
    t.Extends (t.makeFrom path made done here parts).1 := by
  fun_induction makeFrom t path made done here parts with
  | case1 => exact .refl _
  | case2 t made done here part rest done' hup ih => exact ih
  | case3 => exact .refl _
  | case4 t made done here part rest done' hup hlong next hat ih => exact ih
  | case5 => exact .refl _
  | case6 t made done here part rest done' hup hlong next hat ih =>
    exact (Extends.set (by simp [next]) hat).trans ih

theorem extends_makeDirectory (t : Tree) (path : Path) : t.Extends (t.makeDirectory path).1 := by
  unfold makeDirectory
  split
  · exact .refl t
  · exact extends_makeFrom ..

/-- The directory around each entry has an entry, and the current directory is one. -/
structure IsClosed (t : Tree) : Prop where
  around : ∀ place, t.at? place ≠ none → t.at? place.dropLast = some .directory
  current : t.at? t.current = some .directory

theorem isClosed_iff : t.IsClosed ↔
    (∀ entry ∈ t.entries, t.at? entry.1.dropLast = some .directory) ∧ t.at? t.current = some .directory := by
  have hentry : ∀ place, t.at? place ≠ none → place = [] ∨ ∃ entry ∈ t.entries, entry.1 = place := by
    intro place hplace
    by_cases hne : place = []
    · exact .inl hne
    · rw [at?_of_ne_nil hne, ne_eq, lookup_eq_none_iff_any, not_not, List.any_eq_true] at hplace
      obtain ⟨entry, hmem, heq⟩ := hplace
      exact .inr ⟨entry, hmem, beq_iff_eq.1 heq⟩
  constructor
  · rintro ⟨haround, hcurrent⟩
    refine ⟨fun entry hmem => haround entry.1 ?_, hcurrent⟩
    by_cases hne : entry.1 = []
    · simp [hne]
    · rw [at?_of_ne_nil hne, ne_eq, lookup_eq_none_iff_any, not_not]
      exact List.any_eq_true.2 ⟨entry, hmem, beq_iff_eq.2 rfl⟩
  · rintro ⟨haround, hcurrent⟩
    refine ⟨fun place hplace => ?_, hcurrent⟩
    rcases hentry place hplace with rfl | ⟨entry, hmem, rfl⟩
    · rfl
    · exact haround entry hmem

instance (t : Tree) : Decidable t.IsClosed := decidable_of_iff _ isClosed_iff.symm

/-- A directory inside another leaves a tree closed. -/
theorem IsClosed.set (h : t.IsClosed) {here : List String} (hhere : t.at? here = some .directory) {name : String}
    (hnone : t.at? (here ++ [name]) = none) : (t.set (here ++ [name]) .directory).IsClosed := by
  have hext : t.Extends (t.set (here ++ [name]) .directory) := .set (by simp) hnone
  refine ⟨fun place hplace => hext.directory ?_, ?_⟩
  · rw [at?_set t (by simp)] at hplace
    split at hplace
    · next heq => rwa [heq, List.dropLast_concat]
    · exact h.around place hplace
  · rw [hext.current]
    exact hext.directory h.current

/-- The place that a path begins at. -/
def startOf (t : Tree) (path : Path) : List String := if path.isAbsolute then [] else t.current

theorem walk?_cons {here : List String} {part : String} {rest : List String} (hhere : t.at? here = some .directory)
    (hlong : ¬ part.utf8ByteSize > maxNameBytes) (hdot : part ≠ ".") :
    t.walk? here (part :: rest) = t.walk? (if part == ".." then here.dropLast else here ++ [part]) rest := by
  rw [walk?, hhere]
  dsimp only
  rw [if_neg hlong, if_neg (mt beq_iff_eq.1 hdot)]

theorem walk?_nil_eq_ok {here place : List String} {entry : Entry} (h : t.walk? here [] = .ok (place, entry)) :
    here = place ∧ t.at? here = some entry := by
  rw [walk?] at h
  split at h
  · next hat =>
    cases h
    exact ⟨rfl, hat⟩
  · cases h

/-- The parts of a directory lead to it once it has been made. -/
theorem walk?_makeFrom (h : t.IsClosed) {path : Path} {made : Bool} {done here parts : List String}
    (hhere : t.at? here = some .directory) (hparts : ∀ part ∈ parts, part ≠ ".")
    (hmade : (t.makeFrom path made done here parts).2 = none) :
    ∃ place, (t.makeFrom path made done here parts).1.walk? here parts = .ok (place, .directory) := by
  fun_induction makeFrom t path made done here parts with
  | case1 t made done here => exact ⟨here, by rw [walk?, hhere]⟩
  | case2 t made done here part rest done' hup ih =>
    have hshort : ¬ part.utf8ByteSize > maxNameBytes := by
      rw [beq_iff_eq.1 hup]
      decide
    obtain ⟨place, hplace⟩ := ih h (h.around here (by simp [hhere])) (List.forall_mem_cons.1 hparts).2 hmade
    refine ⟨place, ?_⟩
    rw [walk?_cons ((extends_makeFrom ..).directory hhere) hshort (hparts part List.mem_cons_self), if_pos hup]
    exact hplace
  | case3 => cases hmade
  | case4 t made done here part rest done' hup hshort next hat ih =>
    obtain ⟨place, hplace⟩ := ih h hat (List.forall_mem_cons.1 hparts).2 hmade
    refine ⟨place, ?_⟩
    rw [walk?_cons ((extends_makeFrom ..).directory hhere) hshort (hparts part List.mem_cons_self), if_neg hup]
    exact hplace
  | case5 => cases hmade
  | case6 t made done here part rest done' hup hshort next hat ih =>
    have hext : t.Extends (t.set next .directory) := .set (by simp [next]) hat
    have hnext : (t.set next .directory).at? next = some .directory := by rw [at?_set t (by simp [next]), if_pos rfl]
    obtain ⟨place, hplace⟩ := ih (h.set hhere hat) hnext (List.forall_mem_cons.1 hparts).2 hmade
    refine ⟨place, ?_⟩
    rw [walk?_cons ((hext.trans (extends_makeFrom ..)).directory hhere) hshort (hparts part List.mem_cons_self), if_neg hup]
    exact hplace

theorem directory?_eq_some_iff {path : Path} {here : List String} :
    t.directory? path = .ok (some here) ↔ t.find? path.toString = .ok (here, .directory) := by
  unfold directory?
  cases t.find? path.toString with
  | error refusal => cases refusal <;> simp
  | ok found =>
    obtain ⟨place, entry⟩ := found
    cases entry <;> simp

/-- A path that leads to a directory finds it, if it can be spelled. -/
theorem directory?_of_walk? {path : Path} (hpath : path.IsPlain) (hspelled : misspelling? path.toString = none)
    {here : List String} (h : t.walk? (t.startOf path) path.parts = .ok (here, .directory)) :
    t.directory? path = .ok (some here) := by
  have hwalk : t.walk? (t.startOf path) (steps path.toString) = .ok (here, .directory) := by
    rw [steps_toString hpath]
    split
    · next hparts =>
      rw [hparts] at h
      have hshort : ¬ ".".utf8ByteSize > maxNameBytes := by decide
      rw [walk?, (walk?_nil_eq_ok h).2]
      dsimp only
      rw [if_neg hshort]
      exact h
    · exact h
  rw [startOf] at hwalk
  rw [directory?_eq_some_iff, find?, hspelled]
  dsimp only
  rw [hpath.startsWith_toString, hwalk]
  rfl

/-- **A directory that is made is there.** -/
theorem directory?_makeDirectory (h : t.IsClosed) {path : Path} (hpath : path.IsPlain)
    (hmade : (t.makeDirectory path).2 = none) :
    ∃ here, (t.makeDirectory path).1.walk? ((t.makeDirectory path).1.startOf path) path.parts = .ok (here, .directory) ∧
      (t.makeDirectory path).1.directory? path = .ok (some here) := by
  have hstart : t.at? (t.startOf path) = some .directory := by
    unfold startOf
    split
    · rfl
    · exact h.current
  cases hspelled : misspelling? path.toString with
  | some refusal =>
    rw [makeDirectory, hspelled] at hmade
    cases hmade
  | none =>
    have hmake : t.makeDirectory path = t.makeFrom path false [] (t.startOf path) path.parts := by
      rw [makeDirectory, hspelled]
      rfl
    rw [hmake] at hmade ⊢
    obtain ⟨here, hwalk⟩ := walk?_makeFrom h hstart (fun part hpart => (hpath.parts part hpart).2.1) hmade
    have hcurrent := (extends_makeFrom t path false [] (t.startOf path) path.parts).current
    generalize t.makeFrom path false [] (t.startOf path) path.parts = result at hwalk hcurrent
    rw [startOf, ← hcurrent] at hwalk
    exact ⟨here, hwalk, directory?_of_walk? hpath hspelled hwalk⟩

/-! ### Writing files -/

/-- Where paths lead depends on the directories alone. -/
theorem walk?_of_directories (h : ∀ place, t.at? place = some .directory → t'.at? place = some .directory)
    {here parts place : List String} (hwalk : t.walk? here parts = .ok (place, .directory)) :
    t'.walk? here parts = .ok (place, .directory) := by
  induction parts generalizing here with
  | nil =>
    obtain ⟨rfl, hat⟩ := walk?_nil_eq_ok hwalk
    rw [walk?, h _ hat]
  | cons part rest ih =>
    rw [walk?] at hwalk ⊢
    split at hwalk
    · next hat =>
      rw [h _ hat]
      dsimp only
      split at hwalk
      · cases hwalk
      · next hshort =>
        rw [if_neg hshort]
        exact ih hwalk
    · cases hwalk
    · cases hwalk

/-- A directory is found as long as the directories and the current one stay. -/
theorem directory?_of_directories (hcurrent : t'.current = t.current)
    (h : ∀ place, t.at? place = some .directory → t'.at? place = some .directory) {path : Path} {here : List String}
    (hfound : t.directory? path = .ok (some here)) : t'.directory? path = .ok (some here) := by
  rw [directory?_eq_some_iff, find?] at *
  cases hspelled : misspelling? path.toString with
  | some refusal =>
    rw [hspelled] at hfound
    cases hfound
  | none =>
    rw [hspelled] at hfound
    dsimp only at hfound ⊢
    rw [hcurrent]
    generalize (if startsWith path.toString "/" then [] else t.current) = start at *
    cases hwalk : t.walk? start (steps path.toString) with
    | error refusal =>
      rw [hwalk] at hfound
      cases hfound
    | ok found =>
      rw [hwalk] at hfound
      cases hfound
      rw [walk?_of_directories h hwalk]
      rfl

/-- **A file that is written is in the directory of its path**, and is the only entry that changes. -/
theorem set_of_write {path : Path} {name text : String} (h : t.write (path.append [name]) text = .ok t') :
    ∃ here, t.walk? (t.startOf path) path.parts = .ok (here, .directory) ∧
      t.at? (here ++ [name]) ≠ some .directory ∧ t' = t.set (here ++ [name]) (.file text) := by
  have hname : (path.append [name]).parts.getLast? = some name := List.getLast?_concat
  have hparts : (path.append [name]).parts.dropLast = path.parts := List.dropLast_concat
  have habsolute : (path.append [name]).isAbsolute = path.isAbsolute := rfl
  rw [write, hname, hparts, habsolute] at h
  split at h
  · cases h
  · cases h
  · next heq =>
    cases heq
    split at h
    · cases h
    · cases h
    · next here hwalk =>
      split at h
      · cases h
      split at h
      · cases h
      split at h
      · cases h
      · next hnone =>
        cases h
        exact ⟨here, hwalk, hnone, rfl⟩

/-- Writing in the place of no directory leaves all directories. -/
theorem directory_set {place : List String} (hplace : place ≠ []) (hnone : t.at? place ≠ some .directory) (entry : Entry)
    {other : List String} (h : t.at? other = some .directory) : (t.set place entry).at? other = some .directory := by
  rw [at?_set t hplace, if_neg, h]
  rintro rfl
  exact hnone h

/-- Files with these names and texts have been written in the directory at `here`. -/
structure Writes (t t' : Tree) (here : List String) (files : List (String × String)) : Prop where
  current : t'.current = t.current
  directory : ∀ place, t.at? place = some .directory → t'.at? place = some .directory
  text : ∀ file ∈ files, t'.text? (here ++ [file.1]) = some file.2
  other : ∀ place, (∀ file ∈ files, place ≠ here ++ [file.1]) → t'.at? place = t.at? place

theorem Writes.nil (t : Tree) (here : List String) : t.Writes t here [] :=
  ⟨rfl, fun _ h => h, fun _ h => absurd h List.not_mem_nil, fun _ _ => rfl⟩

/-- A file is written before others of different names. -/
theorem Writes.cons {here : List String} {file : String × String} {files : List (String × String)}
    (hfile : t.at? (here ++ [file.1]) ≠ some .directory) (hnew : ∀ other ∈ files, other.1 ≠ file.1)
    (h : (t.set (here ++ [file.1]) (.file file.2)).Writes t' here files) : t.Writes t' here (file :: files) := by
  have hplace : here ++ [file.1] ≠ [] := by simp
  have hset := at?_set t hplace (.file file.2)
  constructor
  case current => rw [h.current, current_set]
  case directory => exact fun place h' => h.directory place (directory_set hplace hfile _ h')
  case text =>
    intro other hother
    rcases List.mem_cons.1 hother with rfl | hother
    · have hlater : ∀ later ∈ files, here ++ [other.1] ≠ here ++ [later.1] := by
        intro later hlater heq
        simp only [List.append_cancel_left_eq, List.cons.injEq, and_true] at heq
        exact hnew later hlater heq.symm
      rw [text?_eq_some_iff, h.other _ hlater, hset, if_pos rfl]
    · exact h.text other hother
  case other =>
    intro place hother
    obtain ⟨hne, hlater⟩ := List.forall_mem_cons.1 hother
    rw [h.other place hlater, hset, if_neg hne]

end Tree

end ScriptGlue.Files
