import DataAccess.Proofs.Generation.Success
import Mathlib.Data.List.Perm.Basic
/-!
Splitting an analysis into files: no query is lost and none is generated twice, and every file has
what its own queries need.
-/

namespace DataAccess

-- The records to declare for values: those that are no models, in their order.
inductive QueryValue.Declares : List QueryValue → List RecordDecl → Prop
  | nil    : Declares [] []
  | empty  : Declares vs ds → Declares (.empty :: vs) ds
  | scalar : Declares vs ds → Declares (.scalar name t :: vs) ds
  | model  : Declares vs ds → Declares (.record name d false :: vs) ds
  | own    : Declares vs ds → Declares (.record name d true :: vs) (d :: ds)

namespace QueryFile

-- A file is about queries of its source, all in the order in which they have been analyzed.
structure Covers (f : QueryFile) (qs : List Query) : Prop where
  nonempty : f.queries ≠ []
  source : ∀ q ∈ f.queries, q.sourceName = f.sourceName
  order : f.queries.Sublist qs
  declarations : QueryValue.Declares (f.queries.flatMap fun q => q.args ++ [q.ret]) f.declarations
  methods : ∀ querier ∈ f.queriers, querier.methods = f.queries.map (·.method querier.flavor)

end QueryFile

-- Files are about all queries.
structure Generation.Covers (g : Generation) (qs : List Query) : Prop where
  sources_nodup : (g.queryFiles.map (·.sourceName)).Nodup
  mem_sources : ∀ s, s ∈ g.queryFiles.map (·.sourceName) ↔ s ∈ qs.map (·.sourceName)
  queries : (g.queryFiles.flatMap (·.queries)).Perm qs
  files : ∀ f ∈ g.queryFiles, f.Covers qs

theorem QueryValue.declares_emitted (vs : List QueryValue) :
    Declares vs (vs.filterMap (·.emitted?)) := by
  induction vs
  case nil => exact .nil
  case cons v vs hi =>
    cases v
    case empty  => exact .empty hi
    case scalar => exact .scalar hi
    case record _ _ emit =>
      cases emit
      case false => exact .model hi
      case true  => exact .own hi

namespace Analysis

variable {an : Analysis} {g : Generation}

theorem queriesOf_ne_nil (h : source ∈ an.sourceNames) : an.queriesOf source ≠ [] := by
  have ⟨_, hq, hs⟩ := mem_sourceNames.mp h
  exact List.ne_nil_of_mem <| mem_queriesOf.mpr ⟨hq, hs⟩

-- Queries of one more file are not those of the other files, for sources are distinct.
theorem flatMap_queriesOf_perm {sources : List String} (h : sources.Nodup) :
    (sources.flatMap an.queriesOf).Perm (an.queries.filter (·.sourceName ∈ sources)) := by
  induction sources
  case nil => simp
  case cons source sources hi =>
    have ⟨hs, h⟩ := List.nodup_cons.mp h
    let all := an.queries.filter (·.sourceName ∈ source :: sources)
    have hl : all.filter (·.sourceName = source) = an.queriesOf source := by
      rw [List.filter_filter, queriesOf]
      exact List.filter_congr fun q _ => by simp +contextual
    have hr : all.filter (fun q => !decide (q.sourceName = source)) =
        an.queries.filter (·.sourceName ∈ sources) := by
      rw [List.filter_filter]
      exact List.filter_congr fun q _ => by grind
    calc
      _ = an.queriesOf source ++ sources.flatMap an.queriesOf := List.flatMap_cons
      List.Perm _ (an.queriesOf source ++ an.queries.filter (·.sourceName ∈ sources)) :=
        hi h |>.append_left _
      List.Perm _ all := hl ▸ hr ▸ List.filter_append_perm ..

theorem covers_ofQueries (h : source ∈ an.sourceNames) :
    (QueryFile.ofQueries o source (an.queriesOf source)).Covers an.queries where
  nonempty := queriesOf_ne_nil h
  source _ hq := mem_queriesOf.mp hq |>.right
  order := List.filter_sublist
  declarations := by
    simp only [QueryFile.ofQueries, Query.emitted, Query.values, ← List.filterMap_flatMap]
    exact QueryValue.declares_emitted _
  methods querier hq := by
    obtain ⟨_, _, rfl⟩ := List.mem_map.mp hq
    rfl

theorem assemble_covers (h : an.assemble o version = .ok g) : g.Covers an.queries := by
  have hp : g.queryFiles.Perm (an.queryFiles o) := by
    rw [← (assemble_eq_ok_iff.mp h).right]
    exact List.mergeSort_perm _ _
  have hs : (g.queryFiles.map (·.sourceName)).Perm an.sourceNames := by
    simpa [queryFiles, Function.comp_def, QueryFile.ofQueries] using hp.map (·.sourceName)
  have hn : an.sourceNames.Nodup := sourceNames_pairwise_lt.imp ne_of_lt
  constructor
  case sources_nodup => exact hs.nodup_iff.mpr hn
  case mem_sources   => intro s; simp [hs.mem_iff, mem_sourceNames]
  case queries =>
    have hq : an.queries.filter (·.sourceName ∈ an.sourceNames) = an.queries :=
      List.filter_eq_self.mpr fun q hq => by simpa using mem_sourceNames.mpr ⟨q, hq, rfl⟩
    calc
      List.Perm _ ((an.queryFiles o).flatMap (·.queries)) := hp.flatMap_right _
      _ = an.sourceNames.flatMap an.queriesOf := by
        simp [queryFiles, QueryFile.ofQueries, List.flatMap_map]
      List.Perm _ _ := hq ▸ flatMap_queriesOf_perm hn
  case files =>
    intro f hf
    obtain ⟨_, hs, rfl⟩ := mem_queryFiles h |>.mp hf
    exact covers_ofQueries hs

-- Queries of two files, in turns. One of them has records to declare, for its argument and for its
-- result, and the result of another one is a model.
def interleaved : Analysis where
  enums := []
  models := [{ name := "Entry", fields := [] }]
  queries := [
    { kind := .fetchOne, methodName := "archive", fieldName := "archiveStmt"
      constantName := "ARCHIVE", sql := "", sourceName := "b.sql", args := []
      ret := .record "i" { name := "Entry", fields := [] } false },
    { kind := .fetchOne, methodName := "block", fieldName := "blockStmt", constantName := "BLOCK"
      sql := "", sourceName := "a.sql"
      args := [.record "arg" { name := "BlockParams", fields := [] } true]
      ret := .record "i" { name := "BlockRow", fields := [] } true },
    { kind := .exec, methodName := "clear", fieldName := "clearStmt", constantName := "CLEAR"
      sql := "", sourceName := "b.sql", args := [], ret := .empty }]

theorem assemble_covers_interleaved :
    ∃ g a b, interleaved.assemble { asyncQuerier := true } "" = .ok g ∧
      g.Covers interleaved.queries ∧ g.queryFiles = [a, b] ∧
      a.queries.map (·.methodName) = ["block"] ∧
      a.declarations.map (·.name) = ["BlockParams", "BlockRow"] ∧
      a.queriers.map (·.methods.map (·.name)) = [["block"]] ∧
      b.queries.map (·.methodName) = ["archive", "clear"] ∧
      b.declarations = [] ∧
      b.queriers.map (·.methods.map (·.name)) = [["archive", "clear"]] := by
  have hs : interleaved.sourceNames = ["a.sql", "b.sql"] :=
    sourceNames_pairwise_lt.eq_of_mem_iff (by decide +kernel) fun s => by
      simp [mem_sourceNames, interleaved]
      grind
  have hn : ((interleaved.outputEntries { asyncQuerier := true }).map (·.1)).Nodup := by
    rw [outputEntries_eq, hs]
    decide +kernel
  have hf : (interleaved.queryFiles { asyncQuerier := true }).mergeSort QueryFile.byName =
      ["a.sql", "b.sql"].map fun source =>
        .ofQueries { asyncQuerier := true } source (interleaved.queriesOf source) := by
    rw [queryFiles, hs]
    exact List.mergeSort_of_pairwise (by decide +kernel)
  have hg : interleaved.assemble { asyncQuerier := true } "" = .ok _ :=
    assemble_eq_ok_iff.mpr ⟨hn, rfl⟩
  exact ⟨_, _, _, hg, assemble_covers hg, hf, rfl, rfl, rfl, rfl, rfl, rfl⟩

end Analysis
end DataAccess
