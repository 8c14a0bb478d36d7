import DataAccess.Proofs.Generation.Methods
import DataAccess.Proofs.Query.Rows
/-!
What a file of queries declares is told apart by name: its records as far as its queries are, and
always the fields of a record and the arguments of a method.
-/

namespace DataAccess

namespace Analyzer

variable {a : Analyzer} {sq sq' : SourceQuery}

-- The records that are made for a query: of its parameters and of its rows.
def records (a : Analyzer) (sq : SourceQuery) : List RecordDecl :=
  [a.recordOf (sq.name ++ "Params") sq.paramEntries, a.recordOf (sq.name ++ "Row") sq.columnEntries]

theorem emitted_args_sublist : ((a.args sq).filterMap (·.emitted?)).Sublist
    [a.recordOf (sq.name ++ "Params") sq.paramEntries] := by
  rw [args]
  split
  case isTrue  => exact .refl _
  case isFalse => simp [QueryValue.emitted?]

theorem emitted_ret_sublist : (a.ret sq).emitted?.toList.Sublist
    [a.recordOf (sq.name ++ "Row") sq.columnEntries] := by
  rw [ret]
  split
  case h_1 => exact List.nil_sublist _
  case h_2 => exact List.nil_sublist _
  case h_3 =>
    split
    case h_1 => exact List.nil_sublist _
    case h_2 => exact .refl _

-- They are emitted if they are needed, and nothing else is.
theorem emitted_sublist (h : a.query? sq = some q) : q.emitted.Sublist (a.records sq) := by
  have ⟨_, hq⟩ := queryOf_of_query? h
  rw [← hq, Query.emitted_eq]
  exact emitted_args_sublist.append emitted_ret_sublist

theorem emitted_nodup (h : a.query? sq = some q) : (q.emitted.map (·.name)).Nodup := by
  refine List.Nodup.sublist ((emitted_sublist h).map _) ?_
  simp [records, recordOf, String.append_right_inj]

-- Records of parameters and of rows end in different letters, so a name of one kind is none of the
-- other, even if there are queries that are named like records.
theorem records_disjoint (h : sq.name ≠ sq'.name) :
    ((a.records sq).map (·.name)).Disjoint ((a.records sq').map (·.name)) := by
  have kinds (m n : String) : m ++ "Params" ≠ n ++ "Row" := by
    intro he
    simpa using congrArg (·.toList.getLast?) he
  simp [records, recordOf, kinds, (kinds _ _).symm, String.append_left_inj, h.symm]

-- Queries with different names have different records.
theorem flatMap_emitted_nodup {sqs : List SourceQuery}
    (h : ((sqs.filter (·.isNamed)).map (·.name)).Nodup) :
    (((sqs.filterMap a.query?).flatMap (·.emitted)).map (·.name)).Nodup := by
  rw [List.map_flatMap, List.nodup_flatMap]
  constructor
  case left =>
    intro q hq
    have ⟨_, _, hq⟩ := List.mem_filterMap.mp hq
    exact emitted_nodup hq
  case right =>
    rw [List.pairwise_filterMap]
    refine List.pairwise_filter.mp (List.pairwise_map.mp h) |>.imp fun hn q hq q' hq' => ?_
    have named {sq q} (hq : a.query? sq = some q) : sq.isNamed :=
      analyze_eq_some_iff.mp (query?_eq_some_iff.mp hq) |>.left
    have hs := (emitted_sublist hq).map (·.name)
    have hs' := (emitted_sublist hq').map (·.name)
    have hd := records_disjoint (a := a) (hn (named hq) (named hq'))
    exact fun x hx hx' => hd (hs.subset hx) (hs'.subset hx')

theorem emitted_fields_nodup (h : a.query? sq = some q) (hd : d ∈ q.emitted) :
    (d.fields.map (·.name)).Nodup := by
  have hd := (emitted_sublist h).subset hd
  simp only [records, List.mem_cons, List.not_mem_nil, or_false] at hd
  obtain rfl | rfl := hd <;> exact recordOf_nodup

-- Packed parameters are one argument, and others have the names that are allocated for them.
theorem method_args_nodup (h : a.query? sq = some q) (k : Flavor) :
    ((q.method k).args.map (·.name)).Nodup := by
  have ⟨_, hq⟩ := queryOf_of_query? h
  have hn := Naming.Allocator.allocateAll_nodup {} sq.paramEntries
  rw [← hq, Query.method, queryOf_args, args]
  split
  case isTrue  => exact List.nodup_singleton _
  case isFalse =>
    simpa [List.filterMap_map, Function.comp_def, QueryValue.methodArg?, QueryValue.name?,
      QueryValue.typeRef?] using hn

end Analyzer

-- Nothing that a file of queries declares is declared a second time.
structure QueryFile.WellFormed (f : QueryFile) : Prop where
  declarations : (f.declarations.map (·.name)).Nodup
  fields : ∀ d ∈ f.declarations, (d.fields.map (·.name)).Nodup
  args : ∀ querier ∈ f.queriers, ∀ m ∈ querier.methods, (m.args.map (·.name)).Nodup

namespace Request

variable {r : Request} {g : Generation} {f : QueryFile}

-- Skipped queries do not matter, nor do those of other files.
theorem generate_wellFormed (h : r.generate o = .ok g) (hf : f ∈ g.queryFiles)
    (hn : ((r.queriesOf f.sourceName).map (·.name)).Nodup) : f.WellFormed := by
  have ⟨a, _, hp⟩ := queries_perm h hf
  have analyzed {q} (hq : q ∈ f.queries) : ∃ sq, a.query? sq = some q := by
    have ⟨sq, _, hq⟩ := List.mem_filterMap.mp (hp.mem_iff.mp hq)
    exact ⟨sq, hq⟩
  have ⟨_, _, hg⟩ := generate_eq_ok_iff.mp h
  obtain ⟨source, _, rfl⟩ := Analysis.mem_queryFiles hg |>.mp hf
  constructor
  case declarations =>
    have hd := (hp.flatMap_right (·.emitted)).map (·.name)
    refine hd.nodup_iff.mpr <| Analyzer.flatMap_emitted_nodup ?_
    rwa [List.filter_filter]
  case fields =>
    intro d hd
    have ⟨q, hq, hd⟩ := List.mem_flatMap.mp hd
    have ⟨_, hq⟩ := analyzed hq
    exact Analyzer.emitted_fields_nodup hq hd
  case args =>
    intro querier hq m hm
    obtain ⟨k, _, rfl⟩ := List.mem_map.mp hq
    obtain ⟨q, hq, rfl⟩ := List.mem_map.mp hm
    have ⟨_, hq⟩ := analyzed hq
    exact Analyzer.method_args_nodup hq k

-- Queries that are named like records of each other. Their parameters and columns are named like
-- each other, too, and like names that have got a number.
def lookups : Request where
  queries := ["Get", "GetRow", "GetParams"].map fun name => {
    name, cmd := ":one", filename := "get.sql"
    params := [⟨1, { name := "id" }⟩, ⟨2, { name := "id" }⟩, ⟨3, { name := "id_2" }⟩]
    columns := [{ name := "id" }, { name := "id" }, { name := "id_2" }] }

theorem generate_wellFormed_lookups : ∃ g f,
    lookups.generate { syncQuerier := true, parameterLimit := some 0 } = .ok g ∧
      f ∈ g.queryFiles ∧ f.sourceName = "get.sql" ∧
      ((lookups.queriesOf "get.sql").map (·.name)).Nodup ∧ f.WellFormed := by
  have ⟨g, hg⟩ : ∃ g, lookups.generate { syncQuerier := true, parameterLimit := some 0 } = .ok g :=
    Stage.generate_decide.ok.mpr (by decide +kernel)
  have ⟨f, hf, hs⟩ := exists_file hg (hasSource_iff.mpr (.head _))
  have hn : ((lookups.queriesOf "get.sql").map (·.name)).Nodup := by decide +kernel
  exact ⟨g, f, hg, hf, hs, hn, generate_wellFormed hg hf (hs ▸ hn)⟩

end Request
end DataAccess
