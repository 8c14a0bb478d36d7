import DataAccess.Proofs.Declaration.Extraction
import DataAccess.Query.Analysis
/-!
Which queries are analyzed, that none of them is lost, and which one is reported if there is one
that cannot be analyzed.
-/

namespace DataAccess

theorem QueryKind.ofTag_tag (query : String) (k : QueryKind) : ofTag query k.tag = .ok k := by
  cases k <;> rfl

theorem Query.byMethodName_eq (p q : Query) :
    p.byMethodName q = decide (p.methodName ≤ q.methodName) :=
  rfl

theorem Query.emitted_eq (q : Query) :
    q.emitted = q.args.filterMap (·.emitted?) ++ q.ret.emitted?.toList := by
  cases h : q.ret.emitted? <;> simp [emitted, values, h]

namespace SourceQuery

-- A query is passed over, or its tag is that of a kind.
def Admitted (q : SourceQuery) : Prop :=
  q.isNamed → ∃ k : QueryKind, k.tag = q.cmd

instance (q : SourceQuery) : Decidable q.Admitted :=
  decidable_of_iff (q.isNamed → ∃ k ∈ QueryKind.all, k.tag = q.cmd) <| by
    simp [Admitted, QueryKind.mem_all]

-- What is reported of a query that is not admitted.
def problem (q : SourceQuery) : Problem :=
  if q.cmd = ":copyfrom" then .unsupportedCommand q.name "CopyFrom"
  else .unknownCommand q.name q.cmd

theorem ofTag_of_unknown {q : SourceQuery} (h : ∀ k : QueryKind, k.tag ≠ q.cmd) :
    QueryKind.ofTag q.name q.cmd = .error q.problem := by
  have hf : QueryKind.all.find? (·.tag = q.cmd) = none := by simpa using fun k _ => h k
  simp only [QueryKind.ofTag, Command.parse, hf, problem]
  split <;> rfl

end SourceQuery

-- What queries are analyzed with, once the models are known.
def Scope.analyzer (sc : Scope) (o : Options) : Except Problem Analyzer :=
  (sc.models o).map fun models => { scope := sc, options := o, models }

theorem Scope.analyzer_eq_ok_iff {sc : Scope} {a : Analyzer} : sc.analyzer o = .ok a ↔
    a.scope = sc ∧ a.options = o ∧ sc.models o = .ok a.models := by
  rw [analyzer, Check.map_eq_ok_iff]
  constructor
  case mp  => exact fun ⟨_, hm, ha⟩ => ha ▸ ⟨rfl, rfl, hm⟩
  case mpr => exact fun ⟨hs, ho, hm⟩ => ⟨_, hm, hs ▸ ho ▸ rfl⟩

-- An empty catalog has no models.
theorem Scope.analyzer_empty (e : Engine) (o : Options) :
    Scope.analyzer ⟨e, {}⟩ o = .ok ⟨⟨e, {}⟩, o, []⟩ := by
  simp [analyzer_eq_ok_iff, models_eq_ok_iff, modelEntries, Catalog.tables, Catalog.visibleSchemas]

namespace Analyzer

variable {a : Analyzer} {sq : SourceQuery} {q : Query}

@[simp]
theorem queryOf_args : (a.queryOf sq kind).args = a.args sq := rfl

@[simp]
theorem queryOf_ret : (a.queryOf sq kind).ret = a.ret sq := rfl

theorem analyze_eq_some_iff : a.analyze sq = .ok (some q) ↔
    sq.isNamed ∧ ∃ kind, QueryKind.ofTag sq.name sq.cmd = .ok kind ∧ a.queryOf sq kind = q := by
  rw [analyze]
  split
  case isTrue h  => simp [h]
  case isFalse h => simp [h]

theorem analyze_of_tag (hn : sq.name ≠ "") (hk : kind.tag = sq.cmd) :
    a.analyze sq = .ok (some (a.queryOf sq kind)) := by
  have hc : sq.cmd ≠ "" := hk ▸ by cases kind <;> decide
  have hk : QueryKind.ofTag sq.name sq.cmd = .ok kind := hk ▸ QueryKind.ofTag_tag ..
  exact analyze_eq_some_iff.mpr ⟨by simp [SourceQuery.isNamed, hn, hc], kind, hk, rfl⟩

theorem exists_analyze_eq_some (h : sq.Admitted) (hn : sq.isNamed) :
    ∃ kind, a.analyze sq = .ok (some (a.queryOf sq kind)) :=
  have ⟨kind, hk⟩ := h hn
  ⟨kind, analyze_eq_some_iff.mpr ⟨hn, kind, hk ▸ QueryKind.ofTag_tag .., rfl⟩⟩

theorem exists_analyze_eq_ok (h : sq.Admitted) : ∃ x, a.analyze sq = .ok x := by
  rw [analyze]
  split
  case isFalse    => exact ⟨_, rfl⟩
  case isTrue hn =>
    have ⟨k, hk⟩ := h hn
    exact ⟨_, by rw [← hk, QueryKind.ofTag_tag]; rfl⟩

theorem analyze_eq_error (h : ¬sq.Admitted) : a.analyze sq = .error sq.problem := by
  simp only [SourceQuery.Admitted, Classical.not_imp, not_exists] at h
  rw [analyze, if_pos h.left, SourceQuery.ofTag_of_unknown h.right]
  rfl

theorem exists_analyze_eq_ok_iff : (∃ x, a.analyze sq = .ok x) ↔ sq.Admitted := by
  refine ⟨fun ⟨x, hx⟩ => ?_, exists_analyze_eq_ok⟩
  by_contra h
  simp [analyze_eq_error h] at hx

theorem analyze_eq_error_iff : a.analyze sq = .error p ↔ ¬sq.Admitted ∧ sq.problem = p := by
  constructor
  case mp =>
    intro h
    have hn : ¬sq.Admitted := mt (exists_analyze_eq_ok (a := a)) (by simp [h])
    exact ⟨hn, Except.error.inj <| (analyze_eq_error hn).symm.trans h⟩
  case mpr => exact fun ⟨h, hp⟩ => hp ▸ analyze_eq_error h

-- What a query is analyzed to, if it is not passed over.
def query? (a : Analyzer) (sq : SourceQuery) : Option Query :=
  (a.analyze sq).toOption.join

theorem query?_eq_some_iff : a.query? sq = some q ↔ a.analyze sq = .ok (some q) := by
  rw [query?]
  cases a.analyze sq <;> simp [Except.toOption]

theorem queryOf_of_query? (h : a.query? sq = some q) : ∃ kind, a.queryOf sq kind = q :=
  have ⟨_, kind, _, hq⟩ := analyze_eq_some_iff.mp (query?_eq_some_iff.mp h)
  ⟨kind, hq⟩

-- What can be told of a query before its analysis can be told after it.
theorem filter_filterMap_query? {sqs : List SourceQuery} {p : Query → Bool}
    {p' : SourceQuery → Bool} (h : ∀ sq kind, p (a.queryOf sq kind) = p' sq) :
    (sqs.filterMap a.query?).filter p = (sqs.filter p').filterMap a.query? := by
  rw [List.filter_filterMap, List.filterMap_filter]
  apply List.filterMap_congr
  intro sq _
  cases hq : a.query? sq
  case none   => simp
  case some q =>
    have ⟨kind, hk⟩ := queryOf_of_query? hq
    simp [← hk, h, Option.filter_some]

theorem analyzeAll_eq_ok_iff : a.analyzeAll sqs = .ok qs ↔
    (∀ sq ∈ sqs, sq.Admitted) ∧ (sqs.filterMap a.query?).mergeSort Query.byMethodName = qs := by
  simp only [analyzeAll, Check.bind_eq_ok_iff, Check.pure_eq_ok_iff,
    Check.mapM_eq_ok_iff_filterMap, exists_analyze_eq_ok_iff, and_assoc, exists_and_left,
    exists_eq_left', List.filterMap_filterMap]
  rfl

theorem analyzeAll_eq_error_iff : a.analyzeAll sqs = .error p ↔
    ∃ before sq after, sqs = before ++ sq :: after ∧
      (∀ sq ∈ before, sq.Admitted) ∧ ¬sq.Admitted ∧ sq.problem = p := by
  simp only [analyzeAll, Check.bind_eq_error_iff, Check.pure_ne_error, and_false, exists_false,
    or_false, Check.mapM_eq_error_iff, exists_analyze_eq_ok_iff, analyze_eq_error_iff]

theorem mem_analyzeAll (h : a.analyzeAll sqs = .ok qs) :
    q ∈ qs ↔ ∃ sq ∈ sqs, a.analyze sq = .ok (some q) := by
  simp [← (analyzeAll_eq_ok_iff.mp h).right, query?_eq_some_iff]

end Analyzer
end DataAccess
