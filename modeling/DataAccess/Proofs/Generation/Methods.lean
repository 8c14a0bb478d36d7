import DataAccess.Proofs.Generation.Isolation
import DataAccess.Proofs.Generation.QueryOrder
import DataAccess.Proofs.Naming.SnakeCase
/-!
The methods of queriers. Those of both flavors belong together and only differ in how they wait for
the connection. Two methods of a file have one name if the names of their queries only differ in
ways that snake case does not show, and no check keeps such queries apart.
-/

namespace DataAccess

namespace Method

-- The methods for a query under both flavors. Of several rows, each is waited for on its own.
structure Pairs (q : Query) (m m' : Method) : Prop where
  name : m.name = m'.name
  style : m.style = m'.style
  args : m.args = m'.args
  constant : m.execution.constant = m'.execution.constant
  bindings : m.execution.bindings = m'.execution.bindings
  result : m.result = m'.result
  blocks : m.isAsync = false ∧ m.execution.awaited = false
  awaits : m'.isAsync = true ∧ m'.execution.awaited = true
  many : q.kind = .fetchMany → ∃ t,
    m.execution.call = .execute ∧ m.returns = .iterator t ∧
    m'.execution.call = .stream ∧ m'.returns = .asyncIterator t
  other : q.kind ≠ .fetchMany → m.execution.call = m'.execution.call ∧ m.returns = m'.returns

end Method

theorem Query.method_pairs (q : Query) : (q.method .sync).Pairs q (q.method .async) := by
  constructor
  case many =>
    intro hk
    refine ⟨q.rowMapping.1, ?_⟩
    simp only [method, connCall, returns, hk, and_self]
  case other =>
    intro hk
    simp only [method, connCall, returns]
    cases h : q.kind
    case fetchMany => contradiction
    all_goals exact ⟨rfl, rfl⟩
  case blocks => exact ⟨rfl, rfl⟩
  case awaits => exact ⟨rfl, rfl⟩
  all_goals rfl

theorem Querier.plan_pairs (qs : List Query) :
    (plan .sync qs).methods.length = (plan .async qs).methods.length ∧
      List.Forall₂ (fun q (m, m') => Method.Pairs q m m') qs
        ((plan .sync qs).methods.zip (plan .async qs).methods) := by
  simp only [plan, List.length_map, List.zip_map', List.forall₂_map_right_iff, List.forall₂_same,
    true_and]
  exact fun q _ => q.method_pairs

-- The name of the constant for a query's text.
def SourceQuery.constantName (q : SourceQuery) : String :=
  Text.upper q.methodName

-- Different methods can still share a constant, for these letters have the same upper case.
example : Text.upper "straße" = Text.upper "strasse" := by decide +kernel

theorem SourceQuery.withoutUnderscores_constantName (q : SourceQuery) :
    Naming.withoutUnderscores q.constantName.toList = Naming.folded q.name :=
  Naming.withoutUnderscores_upper_methodName q.name

namespace Analyzer

variable {a : Analyzer} {sqs : List SourceQuery}

-- What can be told of a query before its analysis is told of all that are not passed over.
theorem map_filterMap_query? {k : Query → β} {k' : SourceQuery → β}
    (hk : ∀ sq kind, k (a.queryOf sq kind) = k' sq) (h : ∀ sq ∈ sqs, sq.Admitted) :
    (sqs.filterMap a.query?).map k = (sqs.filter (·.isNamed)).map k' := by
  induction sqs
  case nil => rfl
  case cons sq sqs hi =>
    have ⟨hsq, h⟩ := List.forall_mem_cons.mp h
    by_cases hn : sq.isNamed
    case pos =>
      have ⟨_, hq⟩ := exists_analyze_eq_some (a := a) hsq hn
      rw [List.filterMap_cons_some <| query?_eq_some_iff.mpr hq, List.filter_cons_of_pos hn,
        List.map_cons, List.map_cons, hk, hi h]
    case neg =>
      have hq : a.query? sq = none :=
        Option.eq_none_iff_forall_ne_some.mpr fun q hq =>
          hn (analyze_eq_some_iff.mp (query?_eq_some_iff.mp hq)).left
      rw [List.filterMap_cons_none hq, List.filter_cons_of_neg hn, hi h]

end Analyzer

-- No method overrides another one, nor does a constant.
structure QueryFile.Distinct (f : QueryFile) : Prop where
  methods : ∀ querier ∈ f.queriers, (querier.methods.map (·.name)).Nodup
  constants : (f.queries.map (·.constantName)).Nodup

namespace Request

variable {r : Request} {g : Generation} {f : QueryFile}

-- The queries that a file is generated for.
def queriesOf (r : Request) (source : String) : List SourceQuery :=
  r.queries.filter fun q => q.isNamed && q.filename = source

-- All that have names and known tags are analyzed, and nothing else gets into the file.
theorem queries_perm (h : r.generate o = .ok g) (hf : f ∈ g.queryFiles) : ∃ a : Analyzer,
    (∀ sq ∈ r.queries.filter (·.filename = f.sourceName), sq.Admitted) ∧
      f.queries.Perm ((r.queries.filter (·.filename = f.sourceName)).filterMap a.query?) := by
  have ⟨an, ha, hg⟩ := generate_eq_ok_iff.mp h
  obtain ⟨source, _, rfl⟩ := Analysis.mem_queryFiles hg |>.mp hf
  have ⟨_, _, ⟨a, _, _, hq⟩, _⟩ := analyze_eq_ok_iff.mp ha
  have ⟨hs, hq⟩ := Analyzer.analyzeAll_eq_ok_iff.mp <| Analyzer.analyzeAll_filename hq source
  have hp := List.mergeSort_perm ((r.queries.filter (·.filename = source)).filterMap a.query?)
    Query.byMethodName
  rw [hq] at hp
  exact ⟨a, hs, hp⟩

theorem map_queries_perm (h : r.generate o = .ok g) (hf : f ∈ g.queryFiles) {k : Query → β}
    {k' : SourceQuery → β} (hk : ∀ a sq kind, k (Analyzer.queryOf a sq kind) = k' sq) :
    (f.queries.map k).Perm ((r.queriesOf f.sourceName).map k') := by
  have ⟨a, hs, hp⟩ := queries_perm h hf
  have hp := hp.map k
  rw [Analyzer.map_filterMap_query? (hk a) hs, List.filter_filter] at hp
  exact hp

-- In every querier, there is a method for each query.
theorem map_name_methods (h : r.generate o = .ok g) (hf : f ∈ g.queryFiles)
    (hq : querier ∈ f.queriers) :
    querier.methods.map (·.name) = f.queries.map (·.methodName) := by
  have ⟨_, _, hg⟩ := generate_eq_ok_iff.mp h
  obtain ⟨_, _, rfl⟩ := Analysis.mem_queryFiles hg |>.mp hf
  obtain ⟨_, _, rfl⟩ := List.mem_map.mp hq
  exact List.map_map

theorem methods_nodup_iff (h : r.generate o = .ok g) (hf : f ∈ g.queryFiles)
    (hq : querier ∈ f.queriers) : (querier.methods.map (·.name)).Nodup ↔
      ((r.queriesOf f.sourceName).map (·.methodName)).Nodup := by
  rw [map_name_methods h hf hq]
  exact map_queries_perm h hf (fun _ _ _ => rfl) |>.nodup_iff

theorem constants_nodup_iff (h : r.generate o = .ok g) (hf : f ∈ g.queryFiles) :
    (f.queries.map (·.constantName)).Nodup ↔
      ((r.queriesOf f.sourceName).map (·.constantName)).Nodup :=
  map_queries_perm h hf (fun _ _ _ => rfl) |>.nodup_iff

-- Constants are made of methods, so they are distinct only if these are.
theorem distinct_iff (h : r.generate o = .ok g) (hf : f ∈ g.queryFiles) :
    f.Distinct ↔ ((r.queriesOf f.sourceName).map (·.constantName)).Nodup := by
  rw [← constants_nodup_iff h hf]
  refine ⟨fun hd => hd.constants, fun hc => ⟨fun querier hq => ?_, hc⟩⟩
  rw [methods_nodup_iff h hf hq]
  apply List.Nodup.of_map Text.upper
  rw [List.map_map]
  exact constants_nodup_iff h hf |>.mp hc

-- Names that are distinct without regard to underscores and case are kept apart.
theorem constants_nodup_of_folded {sqs : List SourceQuery}
    (h : (sqs.map fun q => Naming.folded q.name).Nodup) : (sqs.map (·.constantName)).Nodup := by
  apply List.Nodup.of_map fun name => Naming.withoutUnderscores name.toList
  rw [List.map_map]
  simpa only [Function.comp_def, SourceQuery.withoutUnderscores_constantName] using h

-- Which queries are kept apart: those that are still distinct in snake case, methods by its small
-- letters and constants by its capitals.
theorem generate_distinct (h : r.generate o = .ok g) (hf : f ∈ g.queryFiles) :
    (f.Distinct ↔ ((r.queriesOf f.sourceName).map (·.constantName)).Nodup) ∧
    (∀ querier ∈ f.queriers, (querier.methods.map (·.name)).Nodup ↔
      ((r.queriesOf f.sourceName).map (·.methodName)).Nodup) ∧
    (((r.queriesOf f.sourceName).map fun q => Naming.folded q.name).Nodup → f.Distinct) := by
  refine ⟨distinct_iff h hf, fun _ => methods_nodup_iff h hf, fun hn => ?_⟩
  exact distinct_iff h hf |>.mpr <| constants_nodup_of_folded hn

-- A file with two queries. How their names are written is left open.
def users (first second : String) : Request where
  queries := [
    { name := first, cmd := ":one", filename := "users.sql", columns := [{ name := "id" }] },
    { name := second, cmd := ":exec", filename := "users.sql" },
    { name := "Draft", filename := "users.sql" }]

theorem generate_distinct_users : ∃ g f,
    (users "GetUser" "Get_Users").generate { syncQuerier := true } = .ok g ∧
      f ∈ g.queryFiles ∧ f.Distinct := by
  have ⟨g, hg⟩ : ∃ g, (users "GetUser" "Get_Users").generate { syncQuerier := true } = .ok g :=
    Stage.generate_decide.ok.mpr (by decide +kernel)
  have ⟨f, hf, hs⟩ := exists_file hg (hasSource_iff.mpr (.head _))
  have ⟨_, _, hd⟩ := generate_distinct hg hf
  exact ⟨g, f, hg, hf, hd <| hs ▸ by decide +kernel⟩

-- The names of these queries are distinct, but those of their methods and constants are not.
theorem generate_overridden_users :
    (((users "GetUser" "getUser").queries.filter (·.isNamed)).map (·.name)).Nodup ∧
    ∃ g f querier, (users "GetUser" "getUser").generate { syncQuerier := true } = .ok g ∧
      f ∈ g.queryFiles ∧ querier ∈ f.queriers ∧
      ¬(querier.methods.map (·.name)).Nodup ∧ ¬(f.queries.map (·.constantName)).Nodup := by
  have ⟨g, hg⟩ : ∃ g, (users "GetUser" "getUser").generate { syncQuerier := true } = .ok g :=
    Stage.generate_decide.ok.mpr (by decide +kernel)
  have ⟨f, hf, hs⟩ := exists_file hg (hasSource_iff.mpr (.head _))
  have ⟨querier, hq⟩ : ∃ querier, querier ∈ f.queriers := by
    have ⟨_, _, hg⟩ := generate_eq_ok_iff.mp hg
    obtain ⟨_, _, rfl⟩ := Analysis.mem_queryFiles hg |>.mp hf
    exact ⟨_, .head _⟩
  refine ⟨by decide, g, f, querier, hg, hf, hq, ?_, ?_⟩
  · rw [methods_nodup_iff hg hf hq, hs]
    decide +kernel
  · rw [constants_nodup_iff hg hf, hs]
    decide +kernel

end Request
end DataAccess
