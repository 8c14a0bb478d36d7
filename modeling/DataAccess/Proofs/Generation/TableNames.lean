import DataAccess.Proofs.Generation.Names
import DataAccess.Proofs.Query.Reuse
/-!
Options on the names of tables change how models are called, and with it their order, but nothing
else. In particular, a query returns the same table, for no more than one fits under either options.
-/

namespace DataAccess

def Options.withTableNames (o : Options) (exact : Bool) (exclusions : List String) : Options :=
  { o with exactTableNames := exact, inflectionExclusions := exclusions }

-- All of a model but how it is called.
def RecordDecl.unnamed (d : RecordDecl) : RecordDecl :=
  { d with name := "" }

-- Only models are called after tables, so records that are emitted keep their names.
def QueryValue.unnamed : QueryValue → QueryValue
  | record name decl false => record name decl.unnamed false
  | v => v

def Query.unnamed (q : Query) : Query :=
  { q with args := q.args.map (·.unnamed), ret := q.ret.unnamed }

theorem QueryValue.unnamed_eq_record {v : QueryValue} (h : v.unnamed = record name d false) :
    ∃ d', v = record name d' false ∧ d'.unnamed = d := by
  match v with
  | empty             => simp [unnamed] at h
  | scalar _ _        => simp [unnamed] at h
  | record _ _ true   => simp [unnamed] at h
  | record _ d' false =>
    injection h with hn hd
    exact ⟨d', by rw [hn], hd⟩

namespace Scope

variable {sc : Scope} {ms ms' : List RecordDecl}

theorem models_unnamed_perm (h : sc.models o = .ok ms) (h' : sc.models o' = .ok ms') :
    (ms.map (·.unnamed)).Perm (ms'.map (·.unnamed)) := by
  have he : ((sc.modelEntries o).map (·.1)).map (·.unnamed) =
      ((sc.modelEntries o').map (·.1)).map (·.unnamed) := by
    simp only [modelEntries, List.map_map]
    rfl
  exact (models_perm h).map _ |>.symm.trans <| he ▸ (models_perm h').map _

-- Models that differ in their names only are models of the same table.
theorem exists_table_of_unnamed (h : sc.models o = .ok ms) (h' : sc.models o' = .ok ms')
    (hd : d ∈ ms) (hd' : d' ∈ ms') (hu : d'.unnamed = d.unnamed) :
    ∃ s t, (s, t) ∈ sc.catalog.tables ∧ .ofTable sc o s t = d ∧ .ofTable sc o' s t = d' := by
  obtain ⟨s, t, ht, rfl⟩ := (mem_models h).mp hd
  obtain ⟨s', t', ht', rfl⟩ := (mem_models h').mp hd'
  injection hu with htable
  injection htable with htable
  injection htable with _ hs hn
  have hn : (s'.name, t'.rel.name) = (s.name, t.rel.name) := by rw [hs, hn]
  cases List.inj_on_of_nodup_map (tables_nodup_of_models h) ht' ht hn
  exact ⟨_, _, ht, rfl, rfl⟩

end Scope

namespace Analyzer

theorem mem_models_of_ret {a : Analyzer} {sq : SourceQuery} (h : a.ret sq = .record name d false) :
    d ∈ a.models := by
  rw [ret] at h
  split at h
  case h_1 => contradiction
  case h_2 => contradiction
  case h_3 =>
    split at h
    case h_1 hm =>
      injection h with _ hd
      exact hd ▸ List.mem_of_find?_eq_some hm
    case h_2 => injection h with _ _ he; contradiction

theorem unnamed_ret {a : Analyzer} {sq : SourceQuery} (hl : 2 ≤ sq.columns.length) :
    (a.ret sq).unnamed =
      match (a.findModel? sq.columns).map (·.unnamed) with
      | some m => .record "i" m false
      | none => .record "i" (a.recordOf (sq.name ++ "Row") sq.columnEntries) true := by
  rw [ret_of_two_le hl]
  cases a.findModel? sq.columns <;> rfl

variable {sc : Scope} {a a' : Analyzer} (ha : sc.analyzer o = .ok a) (ha' : sc.analyzer o' = .ok a')
include ha ha'

-- Each model that is found is that of the only table that is selected.
theorem findModel?_unnamed (hn : columns ≠ []) :
    (a.findModel? columns).map (·.unnamed) = (a'.findModel? columns).map (·.unnamed) := by
  ext d
  simp only [Option.map_eq_some_iff, findModel?_eq_some_iff ha hn, findModel?_eq_some_iff ha' hn]
  constructor
  case mp =>
    rintro ⟨_, ⟨s, t, ht, h, rfl⟩, rfl⟩
    exact ⟨_, ⟨s, t, ht, h, rfl⟩, rfl⟩
  case mpr =>
    rintro ⟨_, ⟨s, t, ht, h, rfl⟩, rfl⟩
    exact ⟨_, ⟨s, t, ht, h, rfl⟩, rfl⟩

theorem scope_eq : a.scope = a'.scope :=
  (Scope.analyzer_eq_ok_iff.mp ha).left.trans (Scope.analyzer_eq_ok_iff.mp ha').left.symm

theorem recordOf_eq (name : String) (es : List (Int32 × String × Column)) :
    a.recordOf name es = a'.recordOf name es := by
  rw [recordOf, recordOf, scope_eq ha ha']

theorem ret_unnamed (sq : SourceQuery) : (a.ret sq).unnamed = (a'.ret sq).unnamed := by
  by_cases hl : 2 ≤ sq.columns.length
  case pos =>
    have hn : sq.columns ≠ [] := List.ne_nil_of_length_pos <| Nat.zero_lt_of_lt hl
    rw [unnamed_ret hl, unnamed_ret hl, findModel?_unnamed ha ha' hn, recordOf_eq ha ha']
  case neg =>
    match hc : sq.columns with
    | []          => simp [ret, hc]
    | [_]         => simp [ret, hc, scope_eq ha ha']
    | _ :: _ :: _ => simp [hc] at hl

theorem args_eq_of_limit (hl : o.limit = o'.limit) (sq : SourceQuery) : a.args sq = a'.args sq := by
  have ho : a.options.limit = a'.options.limit := by
    rw [(Scope.analyzer_eq_ok_iff.mp ha).right.left, hl]
    rw [(Scope.analyzer_eq_ok_iff.mp ha').right.left]
  have hp : a.Packs sq ↔ a'.Packs sq := by rw [Packs, Packs, ho]
  simp only [args, hp, recordOf_eq ha ha', scope_eq ha ha']

theorem query?_unnamed (hl : o.limit = o'.limit) (sq : SourceQuery) :
    (a.query? sq).map (·.unnamed) = (a'.query? sq).map (·.unnamed) := by
  have hq kind : (a.queryOf sq kind).unnamed = (a'.queryOf sq kind).unnamed := by
    simp only [queryOf, Query.unnamed, args_eq_of_limit ha ha' hl, ret_unnamed ha ha',
      scope_eq ha ha']
  ext q
  simp only [Option.map_eq_some_iff, query?_eq_some_iff, analyze_eq_some_iff]
  constructor
  case mp =>
    rintro ⟨_, ⟨hn, kind, hk, rfl⟩, rfl⟩
    exact ⟨_, ⟨hn, kind, hk, rfl⟩, (hq kind).symm⟩
  case mpr =>
    rintro ⟨_, ⟨hn, kind, hk, rfl⟩, rfl⟩
    exact ⟨_, ⟨hn, kind, hk, rfl⟩, hq kind⟩

-- The names of models have no part in the order of queries.
theorem analyzeAll_unnamed (hl : o.limit = o'.limit) (h : a.analyzeAll sqs = .ok qs)
    (h' : a'.analyzeAll sqs = .ok qs') : qs.map (·.unnamed) = qs'.map (·.unnamed) := by
  have hs (qs : List Query) : (qs.mergeSort Query.byMethodName).map (·.unnamed) =
      (qs.map (·.unnamed)).mergeSort Query.byMethodName :=
    List.map_mergeSort fun _ _ _ _ => rfl
  rw [← (analyzeAll_eq_ok_iff.mp h).right, ← (analyzeAll_eq_ok_iff.mp h').right, hs, hs,
    List.map_filterMap, List.map_filterMap]
  simp only [query?_unnamed ha ha' hl]

end Analyzer

-- Two analyses under options that call models differently. Queries at one place are the same query,
-- and if one of them returns a model, so does the other, and both models are of one table.
structure Analysis.Renames (an an' : Analysis) (sc : Scope) (o o' : Options) : Prop where
  enums : an.enums = an'.enums
  models : (an.models.map (·.unnamed)).Perm (an'.models.map (·.unnamed))
  queries : an.queries.map (·.unnamed) = an'.queries.map (·.unnamed)
  tables : ∀ (i : Nat) q q' name d, an.queries[i]? = some q → an'.queries[i]? = some q' →
    q.ret = .record name d false → ∃ s t, (s, t) ∈ sc.catalog.tables ∧
      .ofTable sc o s t = d ∧ q'.ret = .record name (.ofTable sc o' s t) false

namespace Request

variable {r : Request} {an an' : Analysis}

-- A model that a query returns is one of all models.
theorem mem_models_of_ret (h : r.analyze o = .ok an) (hq : q ∈ an.queries)
    (hr : q.ret = .record name d false) : d ∈ an.models := by
  have ⟨_, _, ⟨a, _, hm, ha⟩, _⟩ := analyze_eq_ok_iff.mp h
  have ⟨sq, _, hq⟩ := Analyzer.mem_analyzeAll ha |>.mp hq
  have ⟨_, _, _, hq⟩ := Analyzer.analyze_eq_some_iff.mp hq
  rw [← hq, Analyzer.queryOf_ret] at hr
  exact hm ▸ Analyzer.mem_models_of_ret hr

theorem analyze_withTableNames (h : r.analyze o = .ok an)
    (h' : r.analyze (o.withTableNames exact exclusions) = .ok an') :
    an.Renames an' r.scope o (o.withTableNames exact exclusions) := by
  have ⟨_, he, hm, _⟩ := analyze_eq_ok_iff_models.mp h
  have ⟨_, he', hm', _⟩ := analyze_eq_ok_iff_models.mp h'
  have ⟨_, _, ⟨a, ha, _, hq⟩, _⟩ := analyze_eq_ok_iff.mp h
  have ⟨_, _, ⟨a', ha', _, hq'⟩, _⟩ := analyze_eq_ok_iff.mp h'
  have hu := Analyzer.analyzeAll_unnamed ha ha' rfl hq hq'
  refine ⟨Except.ok.inj <| he.symm.trans he', Scope.models_unnamed_perm hm hm', hu, ?tables⟩
  case tables =>
    intro i q q' name d hi hi' hr
    have hqu : q'.unnamed = q.unnamed := by
      simpa [hi, hi'] using congrArg (·[i]?) hu.symm
    have hru : q'.ret.unnamed = .record name d.unnamed false :=
      calc
        _ = q.ret.unnamed := congrArg Query.ret hqu
        _ = _             := by rw [hr]; rfl
    have ⟨d', hr', hd⟩ := QueryValue.unnamed_eq_record hru
    have hd₁ := mem_models_of_ret h (List.mem_of_getElem? hi) hr
    have hd₂ := mem_models_of_ret h' (List.mem_of_getElem? hi') hr'
    have ⟨s, t, ht, hs, hs'⟩ := Scope.exists_table_of_unnamed hm hm' hd₁ hd₂ hd
    exact ⟨s, t, ht, hs, hs' ▸ hr'⟩

-- Tables whose models change their order with their names: Mice and Minds, but Mind and Mouse.
def mind : Table where
  rel := { name := "minds" }
  columns := [{ name := "id", type := { name := "int4" } }, { name := "thought" }]

def house : Request where
  catalog := {
    defaultSchema := "public"
    schemas := [
      { name := "public"
        tables := [{ mind with rel := { name := "mice" } }, mind] }] }
  queries := [
    { name := "ListMinds", cmd := ":many"
      columns := mind.columns.map ({ · with table := some { name := "minds" } }) }]

theorem analyze_withTableNames_house : ∃ an an',
    house.analyze {} = .ok an ∧ house.analyze { exactTableNames := true } = .ok an' ∧
      an.models.map (·.name) = ["Mind", "Mouse"] ∧ an'.models.map (·.name) = ["Mice", "Minds"] ∧
      an.Renames an' house.scope {} { exactTableNames := true } := by
  have ⟨an, h⟩ : ∃ an, house.analyze {} = .ok an :=
    Stage.analyze_decide.ok.mpr (by decide +kernel)
  have ⟨an', h'⟩ : ∃ an', house.analyze { exactTableNames := true } = .ok an' :=
    Stage.analyze_decide.ok.mpr (by decide +kernel)
  have hn : an.models.map (·.name) = ["Mind", "Mouse"] :=
    models_names_eq h (by decide +kernel) (by decide +kernel)
  have hn' : an'.models.map (·.name) = ["Mice", "Minds"] :=
    models_names_eq h' (by decide +kernel) (by decide +kernel)
  exact ⟨an, an', h, h', hn, hn', analyze_withTableNames h h'⟩

end Request
end DataAccess
