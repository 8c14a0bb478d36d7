import DataAccess.Declaration.Enums
import DataAccess.Declaration.Models
import DataAccess.Proofs.Check
import DataAccess.Proofs.Naming.Collision
import DataAccess.Proofs.Naming.Order
/-!
What is declared once the enums or the tables of a catalog are extracted: all of them, and each
under a name of its own.
-/

namespace DataAccess

theorem EnumDecl.byName_eq (d e : EnumDecl) : d.byName e = decide (d.name ≤ e.name) :=
  rfl

theorem RecordDecl.byName_eq (d e : RecordDecl) : d.byName e = decide (d.name ≤ e.name) :=
  rfl

namespace Catalog

variable {c : Catalog}

theorem enumDecls_eq_ok_iff : c.enumDecls = .ok ds ↔
    (c.enumEntries.map (·.1.name)).Nodup ∧
      (c.enumEntries.map (·.1)).mergeSort EnumDecl.byName = ds := by
  simp only [enumDecls, Check.bind_eq_ok_iff, Check.exists_unit_eq_ok_iff, Check.pure_eq_ok_iff,
    Naming.ensureUnique_eq_ok_iff, List.map_map, Function.comp_def]

theorem enumDecls_eq_error_iff : c.enumDecls = .error p ↔ ∃ name first second,
    Naming.Collides (c.enumEntries.map fun (d, origin) => (d.name, origin)) name first second ∧
      .nameCollision .enum name first second = p := by
  simp only [enumDecls, Check.bind_eq_error_iff, Check.pure_ne_error, and_false, exists_false,
    or_false, Naming.ensureUnique_eq_error_iff]

theorem enumDecls_perm (h : c.enumDecls = .ok ds) : (c.enumEntries.map (·.1)).Perm ds := by
  rw [← (enumDecls_eq_ok_iff.mp h).right]
  exact List.mergeSort_perm _ _ |>.symm

theorem enumDecls_pairwise_lt (h : c.enumDecls = .ok ds) : ds.Pairwise (·.name < ·.name) := by
  have ⟨hn, hs⟩ := enumDecls_eq_ok_iff.mp h
  rw [← hs]
  exact Naming.pairwise_mergeSort_lt EnumDecl.byName_eq (by simpa [Function.comp_def] using hn)

theorem mem_enumDecls (h : c.enumDecls = .ok ds) :
    d ∈ ds ↔ ∃ s e, (s, e) ∈ c.enums ∧ EnumDecl.ofEnumeration c s e = d := by
  simp [← (enumDecls_perm h).mem_iff, enumEntries]

end Catalog

namespace Scope

variable {sc : Scope} {o : Options}

theorem models_eq_ok_iff : sc.models o = .ok ds ↔
    ((sc.modelEntries o).map (·.1.name)).Nodup ∧
      ((sc.modelEntries o).map (·.1)).mergeSort RecordDecl.byName = ds := by
  simp only [models, Check.bind_eq_ok_iff, Check.exists_unit_eq_ok_iff, Check.pure_eq_ok_iff,
    Naming.ensureUnique_eq_ok_iff, List.map_map, Function.comp_def]

theorem models_eq_error_iff : sc.models o = .error p ↔ ∃ name first second,
    Naming.Collides ((sc.modelEntries o).map fun (d, origin) => (d.name, origin))
      name first second ∧
      .nameCollision .model name first second = p := by
  simp only [models, Check.bind_eq_error_iff, Check.pure_ne_error, and_false, exists_false,
    or_false, Naming.ensureUnique_eq_error_iff]

theorem models_perm (h : sc.models o = .ok ds) : ((sc.modelEntries o).map (·.1)).Perm ds := by
  rw [← (models_eq_ok_iff.mp h).right]
  exact List.mergeSort_perm _ _ |>.symm

theorem models_pairwise_lt (h : sc.models o = .ok ds) : ds.Pairwise (·.name < ·.name) := by
  have ⟨hn, hs⟩ := models_eq_ok_iff.mp h
  rw [← hs]
  exact Naming.pairwise_mergeSort_lt RecordDecl.byName_eq (by simpa [Function.comp_def] using hn)

theorem mem_models (h : sc.models o = .ok ds) :
    d ∈ ds ↔ ∃ s t, (s, t) ∈ sc.catalog.tables ∧ RecordDecl.ofTable sc o s t = d := by
  simp [← (models_perm h).mem_iff, modelEntries]

-- The name of a model depends on no more than the names of its schema and table, so where names of
-- models are distinct, tables can be told apart by these two.
theorem tables_nodup_of_models (h : sc.models o = .ok ds) :
    (sc.catalog.tables.map fun (s, t) => (s.name, t.rel.name)).Nodup := by
  apply List.Nodup.of_map fun e => o.modelName sc.catalog { name := e.1 } e.2
  have hn := models_eq_ok_iff.mp h |>.left
  simpa [modelEntries, RecordDecl.ofTable, Options.modelName, Catalog.qualify,
    Function.comp_def] using hn

end Scope
end DataAccess
