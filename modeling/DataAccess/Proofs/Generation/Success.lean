import DataAccess.Generation
import DataAccess.Proofs.Naming.Order
import DataAccess.Proofs.Query.Analysis
/-!
What a request is made into once all checks have passed.
-/

namespace DataAccess

theorem QueryFile.byName_eq (f g : QueryFile) : f.byName g = decide (f.name ≤ g.name) :=
  rfl

namespace Analysis

variable {an : Analysis} {g : Generation}

theorem combine_eq_ok_iff {es : List EnumDecl} {ms : List RecordDecl} {qs : List Query} :
    combine es ms qs = .ok an ↔ (es.map (·.name) ++ ms.map (·.name)).Nodup ∧
      { enums := es, models := ms, queries := qs } = an := by
  simp only [combine, Check.bind_eq_ok_iff, Check.exists_unit_eq_ok_iff, Check.pure_eq_ok_iff,
    Naming.ensureUnique_eq_ok_iff, List.map_append, List.map_map, Function.comp_def]

theorem combine_eq_error_iff {es : List EnumDecl} {ms : List RecordDecl} {qs : List Query} :
    combine es ms qs = .error p ↔ ∃ name first second,
      Naming.Collides ((es.map (·.name)).map (·, "an enum") ++
        (ms.map (·.name)).map (·, "a table model")) name first second ∧
      .nameCollision .type name first second = p := by
  simp only [combine, Check.bind_eq_error_iff, Check.pure_ne_error, and_false, exists_false,
    or_false, Naming.ensureUnique_eq_error_iff, List.map_map, Function.comp_def]

theorem assemble_eq_error_iff : an.assemble o version = .error p ↔ ∃ name first second,
    Naming.Collides (an.outputEntries o) name first second ∧
      .nameCollision .outputFile name first second = p := by
  simp only [assemble, Check.bind_eq_error_iff, Check.pure_ne_error, and_false, exists_false,
    or_false, Naming.ensureUnique_eq_error_iff]

theorem outputEntries_eq : an.outputEntries o =
    o.modelsFileName.toList.map (·, "the models file") ++
      an.sourceNames.map fun source => (outputFileName source, source) := by
  simp only [outputEntries, queryFiles, modelsFile, QueryFile.ofQueries, List.map_map]
  cases o.modelsFileName <;> rfl

theorem assemble_eq_ok_iff : an.assemble o version = .ok g ↔
    ((an.outputEntries o).map (·.1)).Nodup ∧
      { version, modelsFile := an.modelsFile o
        queryFiles := (an.queryFiles o).mergeSort QueryFile.byName } = g := by
  simp only [assemble, Check.bind_eq_ok_iff, Check.exists_unit_eq_ok_iff, Check.pure_eq_ok_iff,
    Naming.ensureUnique_eq_ok_iff]

theorem modelsFile_eq (h : an.assemble o version = .ok g) : g.modelsFile = an.modelsFile o :=
  congrArg Generation.modelsFile (assemble_eq_ok_iff.mp h).right.symm

theorem queryFiles_perm (h : an.assemble o version = .ok g) :
    g.queryFiles.Perm (an.queryFiles o) := by
  rw [← (assemble_eq_ok_iff.mp h).right]
  exact List.mergeSort_perm _ _

theorem mem_queryFiles (h : an.assemble o version = .ok g) : f ∈ g.queryFiles ↔
    ∃ source ∈ an.sourceNames, .ofQueries o source (an.queriesOf source) = f := by
  simp [(queryFiles_perm h).mem_iff, queryFiles]

-- No file gets lost or renamed after the check for collisions.
theorem fileNames_nodup (h : an.assemble o version = .ok g) : g.fileNames.Nodup := by
  have hn := assemble_eq_ok_iff.mp h |>.left
  have hp : g.fileNames.Perm ((an.outputEntries o).map (·.1)) := by
    rw [Generation.fileNames, modelsFile_eq h, outputEntries, List.map_append, List.map_map,
      List.map_map]
    exact (queryFiles_perm h).map (·.name) |>.append_left _
  exact hp.nodup_iff.mpr hn

theorem queryFiles_pairwise_lt (h : an.assemble o version = .ok g) :
    g.queryFiles.Pairwise (·.name < ·.name) := by
  have ⟨hn, hs⟩ := assemble_eq_ok_iff.mp h
  rw [outputEntries, List.map_append, List.map_map, List.map_map] at hn
  rw [← hs]
  exact Naming.pairwise_mergeSort_lt QueryFile.byName_eq hn.of_append_right

theorem sourceNames_eq_dedup :
    an.sourceNames = ((an.queries.map (·.sourceName)).mergeSort (· ≤ ·)).dedup :=
  Naming.eraseReps_eq_dedup (List.pairwise_mergeSort' _ _)

theorem mem_sourceNames : source ∈ an.sourceNames ↔ ∃ q ∈ an.queries, q.sourceName = source := by
  simp [sourceNames_eq_dedup]

theorem sourceNames_pairwise_lt : an.sourceNames.Pairwise (· < ·) := by
  rw [sourceNames_eq_dedup]
  have hs := List.pairwise_mergeSort' (· ≤ ·) (an.queries.map (·.sourceName))
  exact hs.sublist (List.dedup_sublist _) |>.imp₂ (fun _ _ => lt_of_le_of_ne) (List.nodup_dedup _)

theorem mem_queriesOf : q ∈ an.queriesOf source ↔ q ∈ an.queries ∧ q.sourceName = source := by
  simp [queriesOf]

end Analysis

namespace Request

variable {r : Request} {an : Analysis}

theorem analyze_eq_ok_iff : r.analyze o = .ok an ↔
    o.validate = .ok () ∧ r.catalog.enumDecls = .ok an.enums ∧
      (∃ a, r.scope.analyzer o = .ok a ∧ a.models = an.models ∧
        a.analyzeAll r.queries = .ok an.queries) ∧
      (an.enums.map (·.name) ++ an.models.map (·.name)).Nodup := by
  simp only [analyze, Scope.analyzer, Check.bind_eq_ok_iff, Check.exists_unit_eq_ok_iff,
    Check.map_eq_ok_iff, Analysis.combine_eq_ok_iff]
  constructor
  case mp =>
    rintro ⟨ho, enums, he, models, hm, queries, hq, hn, rfl⟩
    exact ⟨ho, he, ⟨_, ⟨models, hm, rfl⟩, rfl, hq⟩, hn⟩
  case mpr =>
    rintro ⟨ho, he, ⟨_, ⟨models, hm, rfl⟩, rfl, hq⟩, hn⟩
    exact ⟨ho, _, he, _, hm, _, hq, hn, rfl⟩

theorem analyze_eq_ok_iff_models : r.analyze o = .ok an ↔
    o.validate = .ok () ∧ r.catalog.enumDecls = .ok an.enums ∧
      r.scope.models o = .ok an.models ∧
      Analyzer.analyzeAll ⟨r.scope, o, an.models⟩ r.queries = .ok an.queries ∧
      (an.enums.map (·.name) ++ an.models.map (·.name)).Nodup := by
  rw [analyze_eq_ok_iff]
  simp only [Scope.analyzer_eq_ok_iff]
  constructor
  case mp =>
    rintro ⟨ho, he, ⟨⟨_, _, _⟩, ⟨rfl, rfl, hm⟩, rfl, hq⟩, hn⟩
    exact ⟨ho, he, hm, hq, hn⟩
  case mpr =>
    intro ⟨ho, he, hm, hq, hn⟩
    exact ⟨ho, he, ⟨_, ⟨rfl, rfl, hm⟩, rfl, hq⟩, hn⟩

theorem generate_eq_ok_iff : r.generate o = .ok g ↔
    ∃ an, r.analyze o = .ok an ∧ an.assemble o r.version = .ok g := by
  simp only [generate, Check.bind_eq_ok_iff]

-- The models file is that of the catalog.
theorem models_eq_of_generate (h : r.generate o = .ok g) (ho : o.modelsFileName = some name) :
    (r.scope.models o).toOption = g.modelsFile.map (·.models) := by
  have ⟨_, ha, hg⟩ := generate_eq_ok_iff.mp h
  have ⟨_, _, hm, _⟩ := analyze_eq_ok_iff_models.mp ha
  rw [hm, Analysis.modelsFile_eq hg, Analysis.modelsFile, ho]
  rfl

end Request

-- A querier has one method for every query, in their order.
theorem Querier.mem_zip_plan {qs : List Query} :
    (q, m) ∈ qs.zip (Querier.plan k qs).methods ↔ q ∈ qs ∧ q.method k = m := by
  rw [Querier.plan, ← List.map_prod_left_eq_zip]
  simp [Prod.ext_iff]

namespace Generation

variable {g : Generation} {an : Analysis}

-- In one of the files, a method is planned for a query.
def Plans (g : Generation) (q : Query) (m : Method) : Prop :=
  ∃ f ∈ g.queryFiles, ∃ querier ∈ f.queriers, (q, m) ∈ f.queries.zip querier.methods

-- No query is lost on the way to the files, and none gets there from elsewhere.
theorem plans_iff (h : an.assemble o v = .ok g) :
    g.Plans q m ↔ q ∈ an.queries ∧ ∃ k ∈ o.flavors, q.method k = m := by
  constructor
  case mp =>
    intro ⟨f, hf, querier, hp, hm⟩
    have ⟨source, _, hs⟩ := Analysis.mem_queryFiles h |>.mp hf
    subst hs
    have ⟨k, hk, hp⟩ := List.mem_map.mp hp
    subst hp
    have ⟨hq, hm⟩ := Querier.mem_zip_plan.mp hm
    exact ⟨Analysis.mem_queriesOf.mp hq |>.left, k, hk, hm⟩
  case mpr =>
    intro ⟨hq, k, hk, hm⟩
    have hs := Analysis.mem_sourceNames.mpr ⟨q, hq, rfl⟩
    refine ⟨_, Analysis.mem_queryFiles h |>.mpr ⟨_, hs, rfl⟩, _, List.mem_map_of_mem hk, ?_⟩
    exact Querier.mem_zip_plan.mpr ⟨Analysis.mem_queriesOf.mpr ⟨hq, rfl⟩, hm⟩

end Generation
end DataAccess
