import DataAccess.Proofs.Generation.References
import DataAccess.Proofs.Naming.Allocation
import DataAccess.Proofs.Query.Reuse
/-!
How the rows of a result are read: every column once and in its place, whether the fields are those
of a model or those of a record that is made for the query.
-/

namespace DataAccess

-- The fields of a record are filled from the columns of a row, each from the one in its place.
structure RecordDecl.Fills (d : RecordDecl) (entries : List (String × Nat)) (columns : List Column)
    (type : Column → SemanticType) : Prop where
  fields_length : d.fields.length = columns.length
  entries_length : entries.length = columns.length
  entry : ∀ (i : Nat) f c, d.fields[i]? = some f → columns[i]? = some c →
    entries[i]? = some (f.name, i) ∧ f.type = type c

-- The type of a row and its mapping are made for the columns of a result.
inductive Analyzer.Reads (a : Analyzer) (columns : List Column) (ret : QueryValue) :
    TypeRef → RowMapping → Prop
  -- Nothing is known of what is in the first column.
  | unknown : columns = [] → a.Reads columns ret (.scalar { base := .dynamic }) (.column 0)
  | scalar  : columns = [c] → a.Reads columns ret (.scalar (a.scope.resolve c)) (.column 0)
  | own     : 2 ≤ columns.length → ret = .record "i" d true → (d.fields.map (·.name)).Nodup →
    d.Fills entries columns a.scope.resolve →
    a.Reads columns ret (.own d.name) (.construct (.own d.name) entries)
  -- Inside of the models module, enums are referred to without it.
  | model   : 2 ≤ columns.length → ret = .record "i" d false → d ∈ a.models →
    d.Fills entries columns a.scope.resolveLocal →
    a.Reads columns ret (.model d.name) (.construct (.model d.name) entries)

namespace SourceQuery

variable {sq : SourceQuery}

-- Places are told apart as long as they fit into a key.
theorem columnEntries_nodup (h : sq.columns.length < 2 ^ 30) :
    (sq.columnEntries.map (·.1)).Nodup := by
  have hm : sq.columnEntries.map (·.1) = (List.range sq.columns.length).map Int32.ofNat := by
    rw [columnEntries, List.map_map]
    simp [Function.comp_def, List.range_eq_range', ← List.zipIdx_map_snd]
  rw [hm, List.nodup_map_iff_inj_on List.nodup_range]
  intro i hi j hj he
  rw [List.mem_range] at hi hj
  have he := congrArg Int32.toInt he
  rw [Int32.toInt_ofNat_of_lt (by omega), Int32.toInt_ofNat_of_lt (by omega)] at he
  omega

theorem columnEntries_columns : sq.columnEntries.map (·.2.2) = sq.columns := by
  rw [columnEntries, List.map_map]
  exact List.zipIdx_map_fst 0 sq.columns

end SourceQuery

namespace Analyzer

variable {a : Analyzer} {sq : SourceQuery} {q : Query} {columns : List Column} {d m : RecordDecl}

theorem recordOf_nodup : ((a.recordOf name entries).fields.map (·.name)).Nodup := by
  simpa [recordOf, Function.comp_def] using Naming.Allocator.allocateAll_nodup {} entries

theorem recordOf_types (h : sq.columns.length < 2 ^ 30) :
    (a.recordOf name sq.columnEntries).fields.map (·.type) = sq.columns.map a.scope.resolve := by
  have hc := Naming.Allocator.allocateAll_of_nodup (sq.columnEntries_nodup h)
  rw [SourceQuery.columnEntries_columns] at hc
  simpa [recordOf, Function.comp_def] using congrArg (List.map a.scope.resolve) hc

theorem findModel?_types (h : a.findModel? columns = some m) :
    m.fields.map (·.type) = columns.map a.scope.resolveLocal := by
  have ⟨_, _, hl, hm⟩ := fits_iff.mp <| List.find?_some h
  refine List.ext_getElem (by simpa using hl) fun i hf hc => ?_
  rw [List.length_map] at hf hc
  simpa using hm i _ _ (List.getElem?_eq_getElem hf) (List.getElem?_eq_getElem hc) |>.type

-- The mapping goes through the fields by itself, so it fits if these are those of the columns.
theorem fills_of_types (h : d.fields.map (·.type) = columns.map type) :
    d.Fills (d.fields.zipIdx.map fun (f, i) => (f.name, i)) columns type where
  fields_length := by simpa using congrArg List.length h
  entries_length := by simpa using congrArg List.length h
  entry i f c hf hc := by
    constructor
    case left  => simp [hf]
    case right => simpa [hf, hc] using congrArg (·[i]?) h

theorem rowMapping_reads (h : sq.columns.length < 2 ^ 30) (hq : q.ret = a.ret sq) :
    a.Reads sq.columns q.ret q.rowMapping.1 q.rowMapping.2 := by
  rw [Query.rowMapping, hq]
  cases hc : sq.columns
  case nil =>
    simp only [ret, hc]
    exact .unknown rfl
  case cons c cs =>
    cases cs
    case nil =>
      simp only [ret, hc]
      exact .scalar rfl
    case cons =>
      have hn : 2 ≤ sq.columns.length := by simp [hc]
      rw [ret_of_two_le hn, ← hc]
      cases hm : a.findModel? sq.columns
      case some =>
        exact .model hn rfl (List.mem_of_find?_eq_some hm) (fills_of_types <| findModel?_types hm)
      case none => exact .own hn rfl recordOf_nodup (fills_of_types <| recordOf_types h)

-- A query of rows is analyzed, and all methods that can be planned for it read its rows. What they
-- return is of the type that is made from a row.
theorem analyze_reads (hn : sq.name ≠ "") (ht : sq.cmd = ":one" ∨ sq.cmd = ":many")
    (hl : sq.columns.length < 2 ^ 30) : ∃ q, a.analyze sq = .ok (some q) ∧
      ∀ k, ∃ t ∈ (q.method k).returns.type?, ∃ row ∈ (q.method k).result.row?,
        a.Reads sq.columns q.ret t row := by
  have ⟨kind, hr, hk⟩ : ∃ kind : QueryKind, kind.returnsRows ∧ kind.tag = sq.cmd := by
    cases ht
    case inl h => exact ⟨.fetchOne, rfl, h.symm⟩
    case inr h => exact ⟨.fetchMany, rfl, h.symm⟩
  refine ⟨_, analyze_of_tag hn hk, fun k => ?_⟩
  exact ⟨_, Query.mem_type?_returns.mpr ⟨hr, rfl⟩, _, Query.mem_row?_resultHandling.mpr ⟨hr, rfl⟩,
    rowMapping_reads hl rfl⟩

-- Two columns of one name, and one without a name.
def pairs : SourceQuery where
  name := "ListPairs"
  cmd := ":many"
  columns := [{ name := "id", type := { name := "int4" } }, { name := "id" }, {}]

theorem analyze_reads_pairs : ∃ a q,
    Scope.analyzer ⟨.postgresql, {}⟩ {} = .ok a ∧ a.analyze pairs = .ok (some q) ∧
      (q.method .async).result =
        .eachRow (.construct (.own "ListPairsRow") [("id", 0), ("id_2", 1), ("column_3", 2)]) ∧
      ∃ t ∈ (q.method .async).returns.type?, ∃ row ∈ (q.method .async).result.row?,
        a.Reads pairs.columns q.ret t row := by
  have ha := Scope.analyzer_empty .postgresql {}
  have ⟨q, hq, h⟩ := analyze_reads (a := ⟨⟨.postgresql, {}⟩, {}, []⟩)
    (by decide : pairs.name ≠ "") (.inr rfl) (by decide)
  have hr : Analyzer.analyze ⟨⟨.postgresql, {}⟩, {}, []⟩ pairs = .ok (some _) := rfl
  injection hr.symm.trans hq with he
  injection he with he
  exact ⟨_, q, ha, hq, he ▸ by decide +kernel, h .async⟩

end Analyzer
end DataAccess
