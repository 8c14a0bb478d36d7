import DataAccess.Proofs.Generation.Success
/-!
The order of the queries of a request does not matter, but for those whose methods have one name.
Queries that are passed over do not matter at all.
-/

namespace DataAccess

-- The name of the method that a query is analyzed to.
def SourceQuery.methodName (q : SourceQuery) : String :=
  Naming.methodName q.name

namespace Analyzer

variable {a : Analyzer} {sq : SourceQuery} {sqs sqs' : List SourceQuery}

theorem analyzeAll_toOption_eq
    (h : ∀ m, sqs.filter (·.methodName = m) = sqs'.filter (·.methodName = m)) :
    (a.analyzeAll sqs).toOption = (a.analyzeAll sqs').toOption := by
  have hm {sq} : sq ∈ sqs ↔ sq ∈ sqs' := Naming.mem_iff_of_filter_eq h
  have hf (sqs : List SourceQuery) (m : String) :
      (sqs.filterMap a.query?).filter (·.methodName = m) =
        (sqs.filter (·.methodName = m)).filterMap a.query? :=
    filter_filterMap_query? fun _ _ => rfl
  have hs : (sqs.filterMap a.query?).mergeSort Query.byMethodName =
      (sqs'.filterMap a.query?).mergeSort Query.byMethodName := by
    apply Naming.mergeSort_eq_of_filter_eq Query.methodName Query.byMethodName_eq
    simp only [hf, h, implies_true]
  rw [Check.toOption_eq_iff]
  intro qs
  simp only [analyzeAll_eq_ok_iff, hm, hs]

-- What is analyzed first is in front of what is analyzed later.
theorem mapM_analyze_cons (h : a.analyze sq = .ok q) :
    ((sq :: sqs).mapM a.analyze).map (·.filterMap id) =
      ((sqs.mapM a.analyze).map (·.filterMap id)).map (q.toList ++ ·) := by
  rw [List.mapM_cons, h]
  cases sqs.mapM a.analyze <;> cases q <;> rfl

-- Queries that are passed over neither fail nor have a result.
theorem mapM_analyze_filter_isNamed :
    ((sqs.filter (·.isNamed)).mapM a.analyze).map (·.filterMap id) =
      (sqs.mapM a.analyze).map (·.filterMap id) := by
  induction sqs
  case nil => rfl
  case cons sq sqs hi =>
    by_cases hn : sq.isNamed
    case pos =>
      rw [List.filter_cons_of_pos hn]
      cases h : a.analyze sq
      case error => rw [List.mapM_cons, List.mapM_cons, h]; rfl
      case ok    => rw [mapM_analyze_cons h, mapM_analyze_cons h, hi]
    case neg =>
      rw [List.filter_cons_of_neg hn, hi, List.mapM_cons, analyze, if_neg hn]
      cases sqs.mapM a.analyze <;> rfl

theorem analyzeAll_filter_isNamed : a.analyzeAll (sqs.filter (·.isNamed)) = a.analyzeAll sqs := by
  have h : ∀ sqs, a.analyzeAll sqs =
      ((sqs.mapM a.analyze).map (·.filterMap id)).map (·.mergeSort Query.byMethodName) := by
    intro sqs
    rw [analyzeAll]
    cases sqs.mapM a.analyze <;> rfl
  rw [h, h, mapM_analyze_filter_isNamed]

end Analyzer

namespace Request

-- Two lists are reorderings of each other if they have the same queries of every method, in the same
-- order.
theorem generate_reorder (r : Request) (o : Options) (qs : List SourceQuery) :
    ((∀ m, qs.filter (·.methodName = m) = r.queries.filter (·.methodName = m)) →
      ({ r with queries := qs }.generate o).toOption = (r.generate o).toOption) ∧
    (qs.filter (·.isNamed) = r.queries.filter (·.isNamed) →
      { r with queries := qs }.generate o = r.generate o) := by
  constructor
  case left =>
    intro h
    have hq a := Check.toOption_eq_iff.mp (Analyzer.analyzeAll_toOption_eq (a := a) h)
    rw [Check.toOption_eq_iff]
    intro g
    simp only [generate_eq_ok_iff, analyze_eq_ok_iff, hq]
    rfl
  case right =>
    intro h
    have hq (a : Analyzer) : a.analyzeAll qs = a.analyzeAll r.queries := by
      rw [← Analyzer.analyzeAll_filter_isNamed, h, Analyzer.analyzeAll_filter_isNamed]
    simp only [generate, analyze, hq]
    rfl

-- Queries of two methods, in two files.
def feed : Request where
  queries := [{ name := "ListPosts", cmd := ":many", filename := "b.sql" },
    { name := "GetPost", cmd := ":one", filename := "a.sql" }]

theorem generate_reorder_feed :
    ({ feed with queries := feed.queries.reverse }.generate {}).toOption =
        (feed.generate {}).toOption ∧
      { feed with queries := { name := "Draft" } :: feed.queries }.generate {} =
        feed.generate {} := by
  constructor
  case left =>
    refine generate_reorder feed {} feed.queries.reverse |>.left fun m => ?_
    have hn : Naming.methodName "ListPosts" ≠ Naming.methodName "GetPost" := by decide +kernel
    simp [feed, SourceQuery.methodName, List.filter_cons]
    grind
  case right => exact generate_reorder feed {} ({ name := "Draft" } :: feed.queries) |>.right rfl

end Request
end DataAccess
