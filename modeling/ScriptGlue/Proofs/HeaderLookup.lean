import ScriptGlue.Files.Headers
import ScriptGlue.Proofs.FileTrees
import ScriptGlue.Proofs.Maps
import ScriptGlue.Proofs.Outcome

/-!
# Looking up headers

A scan collects the headers below a source directory by the classes they are called after, in the order of their paths. A
class may have several. **`finds_scan`** says which of them is looked up, in terms of the files alone: the first of those
that begin in the most preferred way that any of them does, or the first of all.
-/

namespace ScriptGlue.Files

open ScriptGlue.Text

/-! ### The order of paths -/

/-- One path comes no later than another: the other is the same or lies inside it, or where the two part its name is less. -/
def ComesNoLater (p q : List String) : Prop :=
  p <+: q ∨ ∃ (common : List String) (a b : String) (as bs : List String),
    p = common ++ a :: as ∧ q = common ++ b :: bs ∧ a < b

theorem precedes_cons_iff {a b : String} {as bs : List String} :
    precedes (a :: as) (b :: bs) = true ↔ a < b ∨ a = b ∧ precedes as bs = true := by
  rw [precedes, Bool.or_eq_true, Bool.and_eq_true, decide_eq_true_eq, beq_iff_eq]

theorem precedes_iff {p q : List String} : precedes p q = true ↔ ComesNoLater p q := by
  induction p generalizing q with
  | nil => exact iff_of_true (by rw [precedes]) (.inl List.nil_prefix)
  | cons a as ih =>
    cases q with
    | nil =>
      refine iff_of_false (by rw [precedes]; exact Bool.false_ne_true) ?_
      rintro (h | ⟨common, a', b, as', bs, -, h, -⟩)
      · cases List.prefix_nil.1 h
      · simp at h
    | cons b bs =>
      rw [precedes_cons_iff, ih]
      constructor
      · rintro (hlt | ⟨rfl, hinside | ⟨common, x, y, xs, ys, rfl, rfl, hlt⟩⟩)
        · exact .inr ⟨[], a, b, as, bs, rfl, rfl, hlt⟩
        · exact .inl (List.cons_prefix_cons.2 ⟨rfl, hinside⟩)
        · exact .inr ⟨a :: common, x, y, xs, ys, rfl, rfl, hlt⟩
      · rintro (hinside | ⟨common, x, y, xs, ys, hp, hq, hlt⟩)
        · obtain ⟨heq, hrest⟩ := List.cons_prefix_cons.1 hinside
          exact .inr ⟨heq, .inl hrest⟩
        · cases common with
          | nil =>
            cases hp
            cases hq
            exact .inl hlt
          | cons c common =>
            cases hp
            cases hq
            exact .inr ⟨rfl, .inr ⟨common, x, y, xs, ys, rfl, rfl, hlt⟩⟩

theorem precedes_refl (p : List String) : precedes p p = true := precedes_iff.2 (.inl (List.prefix_refl p))

theorem precedes_trans (p q r : List String) (hpq : precedes p q = true) (hqr : precedes q r = true) :
    precedes p r = true := by
  induction p generalizing q r with
  | nil => rw [precedes]
  | cons a as ih =>
    cases q with
    | nil => cases hpq
    | cons b bs =>
      cases r with
      | nil => cases hqr
      | cons c cs =>
        rw [precedes_cons_iff] at *
        rcases hpq with hab | ⟨rfl, hpq⟩
        · rcases hqr with hbc | ⟨rfl, -⟩
          · exact .inl (String.lt_trans hab hbc)
          · exact .inl hab
        · rcases hqr with hac | ⟨rfl, hqr⟩
          · exact .inl hac
          · exact .inr ⟨rfl, ih bs cs hpq hqr⟩

theorem precedes_total (p q : List String) : (precedes p q || precedes q p) = true := by
  rw [Bool.or_eq_true]
  induction p generalizing q with
  | nil => exact .inl (by rw [precedes])
  | cons a as ih =>
    cases q with
    | nil => exact .inr (by rw [precedes])
    | cons b bs =>
      rw [precedes_cons_iff, precedes_cons_iff]
      by_cases hab : a < b
      · exact .inl (.inl hab)
      · by_cases hba : b < a
        · exact .inr (.inl hba)
        · obtain rfl := String.le_antisymm (String.not_lt.1 hba) (String.not_lt.1 hab)
          exact (ih bs).imp (fun h => .inr ⟨rfl, h⟩) fun h => .inr ⟨rfl, h⟩

/-! ### Headers by class -/

/-- The spelling of the path of a header. -/
def headerPath (parts : List String) : String := "/".intercalate parts

namespace Headers

theorem group_concat (paths : List (List String)) (parts : List String) :
    group (paths ++ [parts]) =
      (group paths).insert (className parts) ((group paths).getD (className parts) [] ++ [headerPath parts]) := by
  rw [group, List.foldl_append]
  rfl

/-- The headers called after a class, in order. -/
theorem getD_group (paths : List (List String)) (name : String) :
    (group paths).getD name [] = (paths.filter (className · == name)).map headerPath := by
  induction paths using List.reverseRecOn generalizing name with
  | nil => rfl
  | append_singleton paths parts ih =>
    rw [group_concat, OrderedMap.getD, OrderedMap.get?_insert, Function.update_apply, List.filter_append, List.map_append]
    by_cases h : name = className parts
    · subst h
      rw [if_pos rfl, Option.getD_some, ih]
      simp
    · rw [if_neg h, ← OrderedMap.getD, ih]
      simp [Ne.symm h]

end Headers

/-! ### What is found -/

/-- The file is called after the class: its name is that of the class with the ending, or nothing but the ending. -/
def IsCalledAfter (name file : String) : Prop := file = name ++ ".h" ∧ name ≠ "" ∨ file = ".h" ∧ name = ".h"

/-- The parts lead from the source directory to a header that is called after the class. -/
def IsHeaderOf (t : Tree) (root : Option String) (name : String) (parts : List String) : Prop :=
  ∃ source here file, root = some source ∧ source ≠ "" ∧ t.directory? (Path.ofString source) = .ok (some here) ∧
    (∃ entry, (here ++ parts, entry) ∈ t.entries) ∧ parts.getLast? = some file ∧ IsCalledAfter name file

/-- The path is one of some paths, and none of them comes before it. -/
def IsFirst (among : List String → Prop) (parts : List String) : Prop :=
  among parts ∧ ∀ other, among other → ComesNoLater parts other

/-- The path is spelled with the beginning. -/
def Begins (start : String) (parts : List String) : Prop := start.toList <+: (headerPath parts).toList

/-- What is found among some paths, where some beginnings are preferred, the best first. -/
inductive Finds (preferred : List String) (among : List String → Prop) : String → Prop where
  /-- There are no paths. -/
  | nothing (h : ∀ parts, ¬ among parts) : Finds preferred among ""
  /-- The first path with the best beginning that any has. -/
  | best {better worse : List String} {start : String} {parts : List String} (hsplit : preferred = better ++ start :: worse)
    (hbetter : ∀ start' ∈ better, ∀ other, among other → ¬ Begins start' other)
    (hfirst : IsFirst (fun other => among other ∧ Begins start other) parts) : Finds preferred among (headerPath parts)
  /-- The first path, as none begins in a preferred way. -/
  | first {parts : List String} (hnone : ∀ start ∈ preferred, ∀ other, among other → ¬ Begins start other)
    (hfirst : IsFirst among parts) : Finds preferred among (headerPath parts)

theorem startsWith_iff {start : String} {parts : List String} :
    startsWith (headerPath parts) start = true ↔ Begins start parts := by
  rw [startsWith, List.isPrefixOf_iff_prefix, Begins]

/-- The first of some sorted paths that has a property. -/
theorem isFirst_of_find? {paths : List (List String)} (hsorted : paths.Pairwise fun p q => precedes p q = true)
    {p : List String → Bool} {parts : List String} (h : paths.find? p = some parts) :
    IsFirst (fun other => other ∈ paths ∧ p other = true) parts := by
  obtain ⟨hp, before, after, rfl, hbefore⟩ := List.find?_eq_some_iff_append.1 h
  refine ⟨⟨by simp, hp⟩, fun other ⟨hother, hpother⟩ => precedes_iff.1 ?_⟩
  rcases List.mem_append.1 hother with hother | hother
  · have hnot := hbefore other hother
    rw [hpother] at hnot
    cases hnot
  · rcases List.mem_cons.1 hother with rfl | hother
    · exact precedes_refl _
    · exact (List.pairwise_cons.1 (List.pairwise_append.1 hsorted).2.1).1 other hother

/-- What is looked up among sorted paths is what is found there. -/
theorem finds_of_sorted {paths : List (List String)} (hsorted : paths.Pairwise fun p q => precedes p q = true)
    (preferred : List String) :
    Finds preferred (· ∈ paths) ((preferred.findSome? fun start =>
      (paths.map headerPath).find? (startsWith · start)).getD ((paths.map headerPath).headD "")) := by
  have hfind : ∀ start, (paths.map headerPath).find? (startsWith · start) =
      (paths.find? fun parts => startsWith (headerPath parts) start).map headerPath := fun start => List.find?_map
  cases hbest : preferred.findSome? fun start => (paths.map headerPath).find? (startsWith · start) with
  | some path =>
    obtain ⟨better, start, worse, hsplit, hstart, hbetter⟩ := List.findSome?_eq_some_iff.1 hbest
    rw [hfind] at hstart
    obtain ⟨parts, hparts, rfl⟩ := Option.map_eq_some_iff.1 hstart
    have hfirst := isFirst_of_find? hsorted hparts
    simp only [startsWith_iff] at hfirst
    refine .best hsplit (fun start' hstart' other hother hbegins => ?_) hfirst
    have hnone := hbetter start' hstart'
    rw [hfind, Option.map_eq_none_iff, List.find?_eq_none] at hnone
    exact hnone other hother (startsWith_iff.2 hbegins)
  | none =>
    have hnone : ∀ start ∈ preferred, ∀ other ∈ paths, ¬ Begins start other := by
      intro start hstart other hother hbegins
      have hnone := List.findSome?_eq_none_iff.1 hbest start hstart
      rw [hfind, Option.map_eq_none_iff, List.find?_eq_none] at hnone
      exact hnone other hother (startsWith_iff.2 hbegins)
    cases paths with
    | nil => exact .nothing fun parts => List.not_mem_nil
    | cons first later =>
      refine .first hnone ⟨List.mem_cons_self, fun other hother => precedes_iff.1 ?_⟩
      rcases List.mem_cons.1 hother with rfl | hother
      · exact precedes_refl _
      · exact (List.pairwise_cons.1 hsorted).1 other hother

/-! ### What a scan finds -/

/-- The ending that the spellings of a name and a class share is cut off to get the class. -/
theorem stem_append (name : String) (h : name ≠ "") : Path.stem ".h" (name ++ ".h") = name := by
  have hends : endsWith (name ++ ".h") ".h" = true := by
    rw [endsWith, List.isSuffixOf_iff_suffix, String.toList_append]
    exact List.suffix_append _ _
  have hne : name ++ ".h" ≠ ".h" := by
    intro heq
    have hlen := congrArg String.length heq
    rw [String.length_append] at hlen
    exact h (String.length_eq_zero_iff.1 (by omega))
  rw [Path.stem, hends, Bool.true_and, if_pos (bne_iff_ne.2 hne), dropEnd, String.toList_append, String.length_append,
    Nat.add_sub_cancel, ← String.length_toList, List.take_left, String.ofList_toList]

theorem isCalledAfter_iff {name file : String} :
    IsCalledAfter name file ↔ endsWith file ".h" = true ∧ Path.stem ".h" file = name := by
  constructor
  · rintro (⟨rfl, hne⟩ | ⟨rfl, rfl⟩)
    · refine ⟨?_, stem_append name hne⟩
      rw [endsWith, List.isSuffixOf_iff_suffix, String.toList_append]
      exact List.suffix_append _ _
    · exact ⟨by decide, by decide⟩
  · rintro ⟨hends, rfl⟩
    rw [endsWith, List.isSuffixOf_iff_suffix] at hends
    obtain ⟨chars, hchars⟩ := hends
    obtain rfl : file = String.ofList chars ++ ".h" :=
      String.toList_inj.1 (by rw [String.toList_append, String.toList_ofList, hchars])
    by_cases hne : String.ofList chars = ""
    · rw [hne]
      exact .inr ⟨by decide, by decide⟩
    · exact .inl ⟨by rw [stem_append _ hne], by rwa [stem_append _ hne]⟩

namespace Tree

theorem below?_eq_some_iff {here parts inner : List String} :
    below? here parts = some inner ↔ parts = here ++ inner ∧ inner ≠ [] := by
  rw [below?]
  split
  next h =>
    rw [Bool.and_eq_true, List.isPrefixOf_iff_prefix, decide_eq_true_eq] at h
    obtain ⟨⟨rest, rfl⟩, hlen⟩ := h
    rw [List.length_append] at hlen
    rw [List.drop_left, Option.some_inj, List.append_cancel_left_eq]
    refine ⟨?_, And.left⟩
    rintro rfl
    exact ⟨rfl, List.length_pos_iff.1 (by omega)⟩
  next h =>
    refine iff_of_false (by simp) ?_
    rintro ⟨rfl, hne⟩
    have hpos := List.length_pos_iff.2 hne
    exact h (by simp; omega)

theorem mem_matching {t : Tree} {here parts : List String} {suffix : String} :
    parts ∈ t.matching here true suffix ↔
      (∃ entry, (here ++ parts, entry) ∈ t.entries) ∧ ∃ file, parts.getLast? = some file ∧ endsWith file suffix = true := by
  rw [matching, List.mem_mergeSort, List.mem_filterMap]
  constructor
  · rintro ⟨⟨path, entry⟩, hmem, hfound⟩
    obtain ⟨hbelow, hlast⟩ := Option.filter_eq_some_iff.1 hfound
    obtain ⟨rfl, -⟩ := below?_eq_some_iff.1 hbelow
    rw [Bool.true_or, Bool.true_and, Option.any_eq_true] at hlast
    exact ⟨⟨entry, hmem⟩, hlast⟩
  · rintro ⟨⟨entry, hmem⟩, file, hlast, hends⟩
    have hne : parts ≠ [] := by
      rintro rfl
      cases hlast
    refine ⟨_, hmem, Option.filter_eq_some_iff.2 ⟨below?_eq_some_iff.2 ⟨rfl, hne⟩, ?_⟩⟩
    rw [Bool.true_or, Bool.true_and, hlast]
    exact hends

theorem matching_sorted (t : Tree) (here : List String) (recursive : Bool) (suffix : String) :
    (t.matching here recursive suffix).Pairwise fun p q => precedes p q = true :=
  List.pairwise_mergeSort precedes_trans precedes_total _

end Tree

/-- The path of a header is spelled with its ending at least. -/
theorem IsHeaderOf.headerPath_ne {t : Tree} {root : Option String} {name : String} {parts : List String}
    (h : IsHeaderOf t root name parts) : headerPath parts ≠ "" := by
  obtain ⟨_, _, file, -, -, -, -, hlast, hcalled⟩ := h
  obtain ⟨hends, -⟩ := isCalledAfter_iff.1 hcalled
  have hfile : file.toList <:+ (headerPath parts).toList := by
    rw [headerPath, String.toList_intercalate]
    exact suffix_intercalate _ (by rw [List.getLast?_map, hlast, Option.map_some])
  have hsuffix := (List.isSuffixOf_iff_suffix.1 hends).trans hfile
  intro hempty
  rw [hempty] at hsuffix
  exact absurd hsuffix (by decide)

namespace Headers

/-- A scan of a directory that is there comes to the headers in it. -/
theorem outcome_scan_of_directory {t : Tree} {source : String} {here : List String} (hne : source ≠ "")
    (hhere : t.directory? (Path.ofString source) = .ok (some here)) (preferred : List String) :
    (scan t (some source) preferred).outcome = .ok { preferred, candidates := group (t.matching here true ".h") } := by
  have hsource : (some source).filter (!·.isEmpty) = some source := by simp [Option.filter, hne]
  rw [scan, hsource]
  dsimp only
  rw [Attempt.outcome_bind, hhere]
  rfl

/-- The headers of a class are among those in the source directory. -/
theorem isHeaderOf_iff {t : Tree} {source : String} {here : List String} (hne : source ≠ "")
    (hhere : t.directory? (Path.ofString source) = .ok (some here)) {name : String} {parts : List String} :
    IsHeaderOf t (some source) name parts ↔ parts ∈ t.matching here true ".h" ∧ className parts = name := by
  rw [Tree.mem_matching]
  constructor
  · rintro ⟨source', here', file, hsource, -, hhere', hentry, hlast, hcalled⟩
    cases hsource
    cases hhere.symm.trans hhere'
    obtain ⟨hends, hstem⟩ := isCalledAfter_iff.1 hcalled
    refine ⟨⟨hentry, file, hlast, hends⟩, ?_⟩
    rw [className, List.getLastD_eq_getLast?, hlast, Option.getD_some, hstem]
  · rintro ⟨⟨hentry, file, hlast, hends⟩, rfl⟩
    refine ⟨source, here, file, rfl, hne, hhere, hentry, hlast, isCalledAfter_iff.2 ⟨hends, ?_⟩⟩
    rw [className, List.getLastD_eq_getLast?, hlast, Option.getD_some]

/-- What a scan comes to: the headers in the source directory, if there is one. -/
theorem scan_spec {t : Tree} {root : Option String} {preferred : List String} {h : Headers}
    (hscan : (scan t root preferred).outcome = .ok h) :
    ∃ paths : List (List String), h = { preferred, candidates := group paths } ∧
      (paths.Pairwise fun p q => precedes p q = true) ∧
      ∀ name parts, parts ∈ paths ∧ className parts = name ↔ IsHeaderOf t root name parts := by
  have hnothing (hnone : ∀ name parts, ¬ IsHeaderOf t root name parts) (hh : h = { preferred }) :
      ∃ paths : List (List String), h = { preferred, candidates := group paths } ∧
        (paths.Pairwise fun p q => precedes p q = true) ∧
        ∀ name parts, parts ∈ paths ∧ className parts = name ↔ IsHeaderOf t root name parts :=
    ⟨[], hh, .nil, fun name parts => iff_of_false (fun hmem => absurd hmem.1 List.not_mem_nil) (hnone name parts)⟩
  rw [scan] at hscan
  split at hscan
  next hroot =>
    refine hnothing ?_ (Except.ok.inj hscan).symm
    rintro name parts ⟨source, -, -, rfl, hne, -⟩
    simp [Option.filter, hne] at hroot
  next source hroot =>
    obtain ⟨rfl, hfilled⟩ := Option.filter_eq_some_iff.1 hroot
    have hne : source ≠ "" := by simpa using hfilled
    rw [Attempt.outcome_bind, Attempt.outcome_except] at hscan
    obtain ⟨found, hfound, hscan⟩ := bind_eq_ok.1 hscan
    have hdirectory : t.directory? (Path.ofString source) = .ok found := mapError_eq_ok.1 hfound
    cases found with
    | none =>
      refine hnothing ?_ (Except.ok.inj hscan).symm
      rintro name parts ⟨source', here, -, hsource, -, hhere, -⟩
      cases hsource
      cases hdirectory.symm.trans hhere
    | some here =>
      exact ⟨t.matching here true ".h", (Except.ok.inj hscan).symm, t.matching_sorted here true ".h",
        fun name parts => (isHeaderOf_iff hne hdirectory).symm⟩

/-- **What is looked up is what is found among the headers that are called after the class**, and nothing just if there are
none. -/
theorem finds_scan {t : Tree} {root : Option String} {preferred : List String} {h : Headers}
    (hscan : (scan t root preferred).outcome = .ok h) (name : String) :
    Finds preferred (IsHeaderOf t root name) (h.lookup name) ∧
      (h.lookup name = "" ↔ ∀ parts, ¬ IsHeaderOf t root name parts) := by
  obtain ⟨paths, rfl, hsorted, hmem⟩ := scan_spec hscan
  have hfinds := finds_of_sorted (hsorted.filter (className · == name)) preferred
  have hamong : (· ∈ paths.filter (className · == name)) = IsHeaderOf t root name := by
    funext parts
    rw [List.mem_filter, beq_iff_eq, hmem]
  rw [hamong, ← getD_group] at hfinds
  refine ⟨hfinds, ?_⟩
  have hshown : ∀ {path}, Finds preferred (IsHeaderOf t root name) path →
      (path = "" ↔ ∀ parts, ¬ IsHeaderOf t root name parts) := by
    intro path hpath
    cases hpath with
    | nothing hnone => exact iff_of_true rfl hnone
    | best _ _ hfirst => exact iff_of_false hfirst.1.1.headerPath_ne fun hnone => hnone _ hfirst.1.1
    | first _ hfirst => exact iff_of_false hfirst.1.headerPath_ne fun hnone => hnone _ hfirst.1
  exact hshown hfinds

end Headers

end ScriptGlue.Files
