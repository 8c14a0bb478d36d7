import DataAccess.Proofs.Generation.Problems
import DataAccess.Proofs.Naming.Allocation
/-!
What the models file declares and under which names: every enum and every table exactly once, in the
order of the names and with no name twice. The files themselves are told apart by their names, too.
-/

namespace DataAccess

-- Schemas that are not the user's.
def Schema.IsSystem (s : Schema) : Prop :=
  s.name = "pg_catalog" ∨ s.name = "information_schema"

instance : DecidablePred Schema.IsSystem :=
  fun _ => inferInstanceAs (Decidable (_ ∨ _))

-- An enum with all its values, in their order.
structure EnumDecl.Declares (d : EnumDecl) (c : Catalog) (s : Schema) (e : Enumeration) :
    Prop where
  name : d.name = c.enumName s e
  comment : d.comment = e.comment
  values : d.members.map (·.value) = e.vals

structure TypedField.Declares (f : TypedField) (sc : Scope) (c : Column) : Prop where
  name : f.name = c.name
  type : f.type = sc.resolveLocal c
  comment : f.comment = c.comment

-- A table with all its columns, in their order.
structure RecordDecl.Declares (d : RecordDecl) (sc : Scope) (o : Options) (s : Schema)
    (t : Table) : Prop where
  table : d.table = some { schema := s.name, name := t.rel.name }
  name : d.name = o.modelName sc.catalog s t.rel.name
  comment : d.comment = t.comment
  fields : List.Forall₂ (·.Declares sc ·) d.fields t.columns

-- There is one declaration for each enum and for each table of the user. They are sorted.
structure Analysis.Declares (an : Analysis) (sc : Scope) (o : Options) : Prop where
  enums : ∃ ds, ds.Perm an.enums ∧
    List.Forall₂ (fun d (s, e) => EnumDecl.Declares d sc.catalog s e) ds
      ((sc.catalog.schemas.filter (¬·.IsSystem)).flatMap fun s => s.enums.map (s, ·))
  models : ∃ ds, ds.Perm an.models ∧
    List.Forall₂ (fun d (s, t) => RecordDecl.Declares d sc o s t) ds
      ((sc.catalog.schemas.filter (¬·.IsSystem)).flatMap fun s => s.tables.map (s, ·))
  enums_sorted : an.enums.Pairwise (·.name < ·.name)
  models_sorted : an.models.Pairwise (·.name < ·.name)
  nodup : (an.enums.map (·.name) ++ an.models.map (·.name)).Nodup

-- Where these declarations go, and in which order files are written.
structure Generation.Arranges (g : Generation) (an : Analysis) : Prop where
  declarations : ∀ f ∈ g.modelsFile, f.enums = an.enums ∧ f.models = an.models
  sorted : g.queryFiles.Pairwise (·.name < ·.name)
  fileNames : g.fileNames = g.modelsFile.toList.map (·.name) ++ g.queryFiles.map (·.name)
  nodup : g.fileNames.Nodup

theorem Catalog.visibleSchemas_eq (c : Catalog) :
    c.visibleSchemas = c.schemas.filter (¬·.IsSystem) := by
  refine List.filter_congr fun s _ => ?_
  simp [Schema.isReserved, Schema.reservedNames, Schema.IsSystem]

-- Values that make the same identifier keep their members, under names of their own.
theorem EnumDecl.ofValues_values (vals : List String) :
    (ofValues vals).map (·.value) = vals := by
  have hl := Naming.Allocator.uniqueAll_length {} (vals.map Naming.memberName)
  rw [List.length_map] at hl
  exact List.ext_getElem (by simp [ofValues, hl]) (by simp [ofValues])

theorem Catalog.enumEntries_declare (c : Catalog) :
    List.Forall₂ (fun d (s, e) => EnumDecl.Declares d c s e) (c.enumEntries.map (·.1)) c.enums := by
  rw [enumEntries, List.map_map, List.forall₂_map_left_iff, List.forall₂_same]
  rintro ⟨_, e⟩ _
  exact ⟨rfl, rfl, EnumDecl.ofValues_values e.vals⟩

theorem RecordDecl.ofTable_declares (sc : Scope) (o : Options) (s : Schema) (t : Table) :
    (ofTable sc o s t).Declares sc o s t where
  table := rfl
  name := rfl
  comment := rfl
  fields := by
    rw [ofTable, List.forall₂_map_left_iff, List.forall₂_same]
    exact fun _ _ => ⟨rfl, rfl, rfl⟩

theorem Scope.modelEntries_declare (sc : Scope) (o : Options) :
    List.Forall₂ (fun d (s, t) => RecordDecl.Declares d sc o s t)
      ((sc.modelEntries o).map (·.1)) sc.catalog.tables := by
  rw [modelEntries, List.map_map, List.forall₂_map_left_iff, List.forall₂_same]
  rintro ⟨s, t⟩ _
  exact RecordDecl.ofTable_declares sc o s t

namespace Request

variable {r : Request} {an : Analysis} {g : Generation}

theorem analyze_declares (h : r.analyze o = .ok an) : an.Declares r.scope o := by
  have ⟨_, he, hm, _, hn⟩ := analyze_eq_ok_iff_models.mp h
  constructor
  case enums =>
    have hd := r.catalog.enumEntries_declare
    rw [Catalog.enums, Catalog.visibleSchemas_eq] at hd
    exact ⟨_, Catalog.enumDecls_perm he, hd⟩
  case models =>
    have hd := r.scope.modelEntries_declare o
    rw [Catalog.tables, Catalog.visibleSchemas_eq] at hd
    exact ⟨_, Scope.models_perm hm, hd⟩
  case enums_sorted  => exact Catalog.enumDecls_pairwise_lt he
  case models_sorted => exact Scope.models_pairwise_lt hm
  case nodup         => exact hn

theorem generate_arranges (h : r.generate o = .ok g) :
    ∃ an, r.analyze o = .ok an ∧ an.Declares r.scope o ∧ g.Arranges an := by
  have ⟨an, ha, hg⟩ := generate_eq_ok_iff.mp h
  refine ⟨an, ha, analyze_declares ha, ?declarations, ?sorted, rfl, ?nodup⟩
  case sorted => exact Analysis.queryFiles_pairwise_lt hg
  case nodup  => exact Analysis.fileNames_nodup hg
  case declarations =>
    intro f hf
    rw [Analysis.modelsFile_eq hg] at hf
    have ⟨_, _, hf⟩ := Option.mem_map.mp hf
    subst hf
    exact ⟨rfl, rfl⟩

-- As declarations and files are sorted, it is enough to know which names there are.
theorem enums_names_eq (h : r.analyze o = .ok an) (hp : r.enumNames.Perm names)
    (hs : names.Pairwise (· < ·)) : an.enums.map (·.name) = names := by
  have ⟨_, he, _⟩ := analyze_eq_ok_iff_models.mp h
  have hl : (an.enums.map (·.name)).Pairwise (· < ·) :=
    List.pairwise_map.mpr <| Catalog.enumDecls_pairwise_lt he
  exact hl.eq_of_mem_iff hs fun _ => (enumNames_perm he).trans hp |>.mem_iff

theorem models_names_eq (h : r.analyze o = .ok an) (hp : (r.modelNames o).Perm names)
    (hs : names.Pairwise (· < ·)) : an.models.map (·.name) = names := by
  have ⟨_, _, hm, _⟩ := analyze_eq_ok_iff_models.mp h
  have hl : (an.models.map (·.name)).Pairwise (· < ·) :=
    List.pairwise_map.mpr <| Scope.models_pairwise_lt hm
  exact hl.eq_of_mem_iff hs fun _ => (modelNames_perm hm).trans hp |>.mem_iff

theorem queryFiles_names_eq (h : r.analyze o = .ok an) (hg : an.assemble o r.version = .ok g)
    (hp : (r.sources.map outputFileName).Perm names) (hs : names.Pairwise (· < ·)) :
    g.queryFiles.map (·.name) = names := by
  have hl : (g.queryFiles.map (·.name)).Pairwise (· < ·) :=
    List.pairwise_map.mpr <| Analysis.queryFiles_pairwise_lt hg
  refine hl.eq_of_mem_iff hs fun name => ?_
  rw [← hp.mem_iff, (Analysis.queryFiles_perm hg).map (·.name) |>.mem_iff]
  simp [Analysis.queryFiles, QueryFile.ofQueries, mem_sourceNames_iff h, hasSource_iff]

-- Enums of one name in two schemas, next to tables, and queries of two files. A schema of the system
-- has an enum and a table, too.
def ledger : Request where
  catalog := {
    defaultSchema := "public"
    schemas := [
      { name := "public"
        tables := [{ rel := { name := "entries" }
                     columns := [{ name := "id", type := { name := "int4" } },
                       { name := "mood", type := { name := "mood" } }]
                     comment := "What was entered." }]
        enums := [{ name := "mood", vals := ["so-so", "so so", "happy"] }] },
      { name := "pg_catalog"
        tables := [{ rel := { name := "pg_enum" } }]
        enums := [{ name := "kind" }] },
      { name := "audit"
        tables := [{ rel := { name := "entries" } }]
        enums := [{ name := "mood", vals := ["calm"] }] }] }
  queries := [
    { name := "DeleteEntries", cmd := ":exec", filename := "write.sql" },
    { name := "CountEntries", cmd := ":one", filename := "read.sql", columns := [{ name := "n" }] }]

theorem generate_arranges_ledger : ∃ g an,
    ledger.generate { syncQuerier := true } = .ok g ∧
      ledger.analyze { syncQuerier := true } = .ok an ∧
      an.Declares ledger.scope { syncQuerier := true } ∧ g.Arranges an ∧
      an.enums.map (·.name) = ["AuditMood", "Mood"] ∧
      an.models.map (·.name) = ["AuditEntry", "Entry"] ∧
      g.fileNames = ["models.py", "read.py", "write.py"] := by
  have ⟨g, hg⟩ : ∃ g, ledger.generate { syncQuerier := true } = .ok g :=
    Stage.generate_decide.ok.mpr (by decide +kernel)
  have ⟨an, ha, hd, hf⟩ := generate_arranges hg
  have he : an.enums.map (·.name) = ["AuditMood", "Mood"] :=
    enums_names_eq ha (by decide +kernel) (by decide +kernel)
  have hm : an.models.map (·.name) = ["AuditEntry", "Entry"] :=
    models_names_eq ha (by decide +kernel) (by decide +kernel)
  have hn : g.fileNames = ["models.py", "read.py", "write.py"] := by
    have ⟨_, ha', hg⟩ := generate_eq_ok_iff.mp hg
    cases ha.symm.trans ha'
    have hq : g.queryFiles.map (·.name) = ["read.py", "write.py"] :=
      queryFiles_names_eq ha hg (by decide +kernel) (by decide +kernel)
    rw [hf.fileNames, Analysis.modelsFile_eq hg, hq]
    rfl
  exact ⟨g, an, hg, ha, hd, hf, he, hm, hn⟩

end Request
end DataAccess
