import ScriptGlue.Binding.Context
import ScriptGlue.Proofs.Maps

/-!
# Membership in dependencies

Which classes are collected as dependencies of a class, as conditions on the mentions of its members. The lists
have no repetitions, and a class is never its own dependency.
-/

namespace ScriptGlue.Registry

open ScriptGlue.Text ScriptGlue.Cpp

variable {r : Registry} {c : Compound} {name : String}

theorem mem_mentionedClasses {isPushed : Bool} :
    (name, isPushed) ∈ r.mentionedClasses c ↔
      (∃ m ∈ c.members, ∃ mention ∈ r.mentions m.toSymbol,
        (r.vocabulary.classify mention.type).className = name ∧ mention.isPushed = isPushed) ∧
      name ≠ "" ∧ name ≠ c.className := by
  simp only [mentionedClasses, List.mem_filter, List.mem_map, List.mem_flatMap, Prod.mk.injEq, Bool.and_eq_true,
    Bool.not_eq_true', bne_iff_ne, ne_eq]
  constructor
  · rintro ⟨⟨mention, ⟨m, hm, hmention⟩, hname, hpushed⟩, hempty, hother⟩
    refine ⟨⟨m, hm, mention, hmention, hname, hpushed⟩, ?_, hother⟩
    rintro rfl
    cases hempty
  · rintro ⟨⟨m, hm, mention, hmention, hname, hpushed⟩, hempty, hother⟩
    refine ⟨⟨mention, ⟨m, hm, hmention⟩, hname, hpushed⟩, ?_, hother⟩
    rw [Bool.eq_false_iff, ne_eq, String.isEmpty_iff]
    exact hempty

theorem mem_dependencies : name ∈ r.dependencies c ↔ ∃ isPushed, (name, isPushed) ∈ r.mentionedClasses c := by
  simp [dependencies, List.mem_eraseDups]

theorem mem_idDependencies :
    name ∈ r.idDependencies c ↔ (∃ isPushed, (name, isPushed) ∈ r.mentionedClasses c) ∧ r.isRefcounted name = false := by
  simp [idDependencies, mem_dependencies]

theorem mem_finalizerDependencies :
    name ∈ r.finalizerDependencies c ↔ (name, true) ∈ r.mentionedClasses c ∧ r.isRefcounted name = false := by
  simp [finalizerDependencies, List.mem_eraseDups]

theorem nodup_idDependencies : (r.idDependencies c).Nodup := (nodup_eraseDups _).filter _

theorem nodup_finalizerDependencies : (r.finalizerDependencies c).Nodup := nodup_eraseDups _

/-- What needs a finalizer needs a constant. -/
theorem mem_idDependencies_of_finalizer (h : name ∈ r.finalizerDependencies c) : name ∈ r.idDependencies c := by
  rw [mem_finalizerDependencies] at h
  rw [mem_idDependencies]
  exact ⟨⟨true, h.1⟩, h.2⟩

/-- A class is not among its own dependencies. -/
theorem not_mem_idDependencies_self : c.className ∉ r.idDependencies c := by
  rw [mem_idDependencies]
  rintro ⟨⟨isPushed, h⟩, -⟩
  exact (mem_mentionedClasses.1 h).2.2 rfl

theorem not_mem_finalizerDependencies_self : c.className ∉ r.finalizerDependencies c :=
  fun h => not_mem_idDependencies_self (mem_idDependencies_of_finalizer h)

end ScriptGlue.Registry
