import DataAccess.Proofs.Generation.Problems
/-!
Files of queries are generated apart from each other. What is generated for one of them is what is
generated for a request with no queries but its own.
-/

namespace DataAccess

namespace Analyzer

variable {a : Analyzer}

theorem analyzeAll_filename (h : a.analyzeAll sqs = .ok qs) (source : String) :
    a.analyzeAll (sqs.filter (·.filename = source)) = .ok (qs.filter (·.sourceName = source)) := by
  have ⟨ha, hs⟩ := analyzeAll_eq_ok_iff.mp h
  have hf : (sqs.filterMap a.query?).filter (·.sourceName = source) =
      (sqs.filter (·.filename = source)).filterMap a.query? :=
    filter_filterMap_query? fun _ _ => rfl
  refine analyzeAll_eq_ok_iff.mpr ⟨fun sq hsq => ha sq (List.mem_of_mem_filter hsq), ?_⟩
  rw [← hs, Naming.filter_mergeSort_eq Query.byMethodName_eq, hf]

end Analyzer

namespace Analysis

variable {an : Analysis} {g : Generation}

def only (an : Analysis) (source : String) : Analysis :=
  { an with queries := an.queriesOf source }

theorem queriesOf_only : (an.only source).queriesOf source = an.queriesOf source := by
  simp [only, queriesOf]

theorem sourceNames_only : (an.only source).sourceNames = an.sourceNames.filter (· = source) := by
  apply sourceNames_pairwise_lt.eq_of_mem_iff (sourceNames_pairwise_lt.filter _)
  intro s
  simp only [mem_sourceNames, only, mem_queriesOf, List.mem_filter, decide_eq_true_eq]
  constructor
  case mp  => exact fun ⟨q, ⟨hq, hs⟩, hn⟩ => ⟨⟨q, hq, hn⟩, hn ▸ hs⟩
  case mpr => exact fun ⟨⟨q, hq, hn⟩, hs⟩ => ⟨q, ⟨hq, hn.trans hs⟩, hn⟩

theorem sources_nodup (h : an.assemble o version = .ok g) :
    (g.queryFiles.map (·.sourceName)).Nodup := by
  have hn : an.sourceNames.Nodup := sourceNames_pairwise_lt.imp ne_of_lt
  refine (queryFiles_perm h).map (·.sourceName) |>.nodup_iff.mpr ?_
  simpa [queryFiles, QueryFile.ofQueries, Function.comp_def] using hn

theorem queryFiles_only :
    (an.only source).queryFiles o = (an.queryFiles o).filter (·.sourceName = source) := by
  rw [queryFiles, queryFiles, sourceNames_only, List.filter_map]
  refine List.map_congr_left fun s hs => ?_
  cases of_decide_eq_true (List.mem_filter.mp hs).right
  rw [queriesOf_only]

-- Fewer files have no more collisions.
theorem assemble_only (h : an.assemble o version = .ok g) (source : String) :
    (an.only source).assemble o version =
      .ok { g with queryFiles := g.queryFiles.filter (·.sourceName = source) } := by
  have ⟨hn, hg⟩ := assemble_eq_ok_iff.mp h
  refine assemble_eq_ok_iff.mpr ⟨?_, ?_⟩
  · refine hn.sublist <| List.Sublist.map _ ?_
    rw [outputEntries, outputEntries, queryFiles_only]
    exact List.filter_sublist.map _ |>.append_left _
  · rw [← hg, queryFiles_only, Naming.filter_mergeSort_eq QueryFile.byName_eq]
    rfl

end Analysis

-- The file that is generated from a source.
def Generation.file? (g : Generation) (source : String) : Option QueryFile :=
  g.queryFiles.find? (·.sourceName = source)

namespace Request

variable {r : Request} {g : Generation}

def only (r : Request) (source : String) : Request :=
  { r with queries := r.queries.filter (·.filename = source) }

theorem analyze_only (h : r.analyze o = .ok an) (source : String) :
    (r.only source).analyze o = .ok (an.only source) := by
  have ⟨ho, he, hm, hq, hn⟩ := analyze_eq_ok_iff_models.mp h
  exact analyze_eq_ok_iff_models.mpr ⟨ho, he, hm, Analyzer.analyzeAll_filename hq source, hn⟩

theorem generate_only (h : r.generate o = .ok g) (source : String) :
    (r.only source).generate o = .ok { g with queryFiles := (g.file? source).toList } := by
  have ⟨an, ha, hg⟩ := generate_eq_ok_iff.mp h
  rw [Generation.file?, ← Naming.filter_eq_find? (Analysis.sources_nodup hg)]
  exact generate_eq_ok_iff.mpr ⟨_, analyze_only ha source, Analysis.assemble_only hg source⟩

theorem isSome_file?_iff (h : r.generate o = .ok g) :
    (g.file? source).isSome ↔ r.HasSource source := by
  have ⟨_, ha, hg⟩ := generate_eq_ok_iff.mp h
  simp only [Generation.file?, List.find?_isSome, decide_eq_true_eq, Analysis.mem_queryFiles hg,
    ← mem_sourceNames_iff ha]
  constructor
  case mp =>
    rintro ⟨_, ⟨s, hs, rfl⟩, rfl⟩
    exact hs
  case mpr => exact fun hs => ⟨_, ⟨source, hs, rfl⟩, rfl⟩

theorem exists_file (h : r.generate o = .ok g) (hs : r.HasSource source) :
    ∃ f ∈ g.queryFiles, f.sourceName = source := by
  have ⟨f, hf⟩ := Option.isSome_iff_exists.mp <| isSome_file?_iff h |>.mpr hs
  exact ⟨f, List.mem_of_find?_eq_some hf, by simpa using List.find?_some hf⟩

-- A source with queries has a file, and all that counts for this file are these queries. Others can
-- be left out or exchanged.
theorem generate_isolates (h : r.generate o = .ok g) (source : String) :
    ((g.file? source).isSome ↔ r.HasSource source) ∧
    (r.only source).generate o = .ok { g with queryFiles := (g.file? source).toList } ∧
    ∀ qs g', qs.filter (·.filename = source) = r.queries.filter (·.filename = source) →
      { r with queries := qs }.generate o = .ok g' →
        g'.file? source = g.file? source ∧ g'.modelsFile = g.modelsFile := by
  refine ⟨isSome_file?_iff h, generate_only h source, fun qs g' hq h' => ?_⟩
  have hr : { r with queries := qs }.only source = r.only source := by
    rw [only, only, hq]
  have hg := generate_only h' source
  rw [hr, generate_only h source] at hg
  injection hg with hg
  injection hg with _ hm hf
  have hf := congrArg List.head? hf
  rw [Option.head?_toList, Option.head?_toList] at hf
  exact ⟨hf.symm, hm.symm⟩

-- Queries of two files. One of them returns a record of its own.
def blog : Request where
  queries := [
    { name := "RenameUser", cmd := ":exec", filename := "users.sql" },
    { name := "ListPosts", cmd := ":many", filename := "posts.sql"
      columns := [{ name := "id" }, { name := "title" }] },
    { name := "DeletePost", cmd := ":exec", filename := "posts.sql" }]

-- The users are dropped together with all their queries.
def blogWithoutUsers : List SourceQuery :=
  { name := "DropUsers", cmd := ":execrows", filename := "admin.sql" } :: blog.queries.tail

theorem generate_isolates_posts : ∃ g g' f,
    blog.generate { asyncQuerier := true } = .ok g ∧
      { blog with queries := blogWithoutUsers }.generate { asyncQuerier := true } = .ok g' ∧
      g.file? "posts.sql" = some f ∧ g'.file? "posts.sql" = some f ∧
      g'.modelsFile = g.modelsFile := by
  have ⟨g, hg⟩ : ∃ g, blog.generate { asyncQuerier := true } = .ok g :=
    Stage.generate_decide.ok.mpr (by decide +kernel)
  have ⟨g', hg'⟩ : ∃ g', { blog with queries := blogWithoutUsers }.generate
      { asyncQuerier := true } = .ok g' :=
    Stage.generate_decide.ok.mpr (by decide +kernel)
  have ⟨hs, _, hi⟩ := generate_isolates hg "posts.sql"
  have ⟨f, hf⟩ := Option.isSome_iff_exists.mp <| hs.mpr <| hasSource_iff.mpr <| by decide
  have ⟨he, hm⟩ := hi blogWithoutUsers g' rfl hg'
  exact ⟨g, g', f, hg, hg', hf, he.trans hf, hm⟩

end Request
end DataAccess
