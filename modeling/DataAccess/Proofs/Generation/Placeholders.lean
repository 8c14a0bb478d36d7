import DataAccess.Proofs.Generation.Success
import DataAccess.Proofs.Query.Parameters
import DataAccess.Proofs.Query.Placeholder
/-!
The ordinals of placeholders and the values that are bound to them. The SQL text keeps an ordinal as
it is written, but placeholders are bound by place: a parameter gets the value that is passed for it
only where the two agree.
-/

namespace DataAccess

namespace SourceQuery

variable {sq : SourceQuery}

-- The ordinals of all parameters, in the order in which they first occur.
def ordinals (sq : SourceQuery) : List Int32 :=
  sq.firstParams.map (·.number)

theorem mem_ordinals (h : p ∈ sq.params) : p.number ∈ sq.ordinals :=
  mem_keys_firstsBy.mpr <| List.mem_map_of_mem h

theorem ordinals_nodup : sq.ordinals.Nodup :=
  firstsBy_keys_nodup

end SourceQuery

namespace Analyzer

variable {a : Analyzer} {sq : SourceQuery} {q : Query}

-- At every place, the binding is for the ordinal that occurs there first.
theorem mem_bindings (h : a.analyze sq = .ok (some q)) : b ∈ (q.method k).execution.bindings ↔
    ∃ i n x, sq.ordinals[i]? = some n ∧ sq.paramName? n = some x ∧
      { placeholder := "p" ++ toString (i + 1), source := a.sourceOf sq x } = b := by
  have hn (i : Nat) : (q.passed[i]?).map (some ·.1) = (sq.ordinals[i]?).map sq.paramName? := by
    simpa [SourceQuery.ordinals, Function.comp_def] using congrArg (·[i]?) (passed_names h)
  simp only [(passes h).bindings, List.mem_map, Prod.exists, List.mk_mem_zipIdx_iff_getElem?]
  constructor
  case mp =>
    intro ⟨x, t, i, hi, hb⟩
    have hn := hn i
    rw [hi] at hn
    have ⟨n, ho, hx⟩ := Option.map_eq_some_iff.mp hn.symm
    exact ⟨i, n, x, ho, hx, hb⟩
  case mpr =>
    intro ⟨i, n, x, ho, hx, hb⟩
    have hn := hn i
    rw [ho, Option.map_some, hx] at hn
    have ⟨(y, t), hi, hy⟩ := Option.map_eq_some_iff.mp hn
    injection hy with hy
    exact ⟨y, t, i, hi, by simpa only [← hy] using hb⟩

theorem sourceOf_injective (h : a.sourceOf sq x = a.sourceOf sq y) : x = y := by
  simp only [sourceOf] at h
  split at h <;> injection h

-- The value for an ordinal is bound to the placeholder of the ordinal's place.
theorem binding_mem_iff (h : a.analyze sq = .ok (some q)) (ho : n ∈ sq.ordinals)
    (hx : sq.paramName? n = some x) :
    { placeholder := "p" ++ toString i, source := a.sourceOf sq x }
      ∈ (q.method k).execution.bindings ↔ sq.ordinals.idxOf n + 1 = i := by
  rw [mem_bindings h]
  constructor
  case mp =>
    intro ⟨j, m, y, hj, hy, hb⟩
    injection hb with hp hs
    have hm := SourceQuery.number_eq_of_paramName? hx (sourceOf_injective hs ▸ hy)
    have ⟨hl, he⟩ := List.getElem?_eq_some_iff.mp hj
    have hi := SourceQuery.ordinals_nodup.idxOf_getElem j hl
    rw [he, ← hm] at hi
    rw [hi]
    exact Naming.numbered_injective hp
  case mpr =>
    intro hi
    subst hi
    exact ⟨_, n, x, List.getElem?_idxOf ho, hx, rfl⟩

end Analyzer

namespace Generation

variable {r : Request} {g : Generation} {a : Analyzer} {sq : SourceQuery} {q : Query} {n : Nat}

-- A placeholder keeps its ordinal in the statement. It gets the value of the parameter with this
-- ordinal exactly if the ordinal is the place at which it first occurs among the parameters.
theorem placeholder_bound_iff (hg : r.generate o = .ok g) (he : r.settings.engine = .postgresql)
    (ha : r.scope.analyzer o = .ok a) (hq : a.analyze sq = .ok (some q)) (hm : g.Plans q m)
    (hp : p ∈ sq.params) (hn : p.number.toInt = n)
    (hs : Sql.Occurs n sq.text.toList before after) :
    q.sql = .ofList (Sql.toNamedAfter true none before ++ ([':', 'p'] ++ (toString n).toList ++
      Sql.toNamedAfter true (toString n).toList.getLast? after)) ∧
      ∃ x ∈ q.passed.map (·.1), sq.paramName? p.number = some x ∧
        ({ placeholder := "p" ++ toString n, source := a.sourceOf sq x } ∈ m.execution.bindings ↔
          (sq.ordinals.idxOf p.number : Int) + 1 = p.number.toInt) := by
  have ⟨_, _, hg⟩ := Request.generate_eq_ok_iff.mp hg
  have ⟨_, k, _, hk⟩ := (plans_iff hg).mp hm
  have ⟨_, kind, _, hq'⟩ := Analyzer.analyze_eq_some_iff.mp hq
  have ho := SourceQuery.mem_ordinals hp
  have ⟨p₁, hp₁, hn₁⟩ := List.mem_map.mp ho
  have ⟨x, hx⟩ := SourceQuery.exists_paramName? hp₁
  have hmem := Analyzer.mem_passed hq hp₁ hx
  rw [hn₁] at hx
  constructor
  case left =>
    have hsc := (Scope.analyzer_eq_ok_iff.mp ha).left
    subst hq'
    simp only [Analyzer.queryOf, Sql.toNamed, hsc, Request.scope, he, Engine.isPositional]
    exact congrArg _ <| Sql.toNamedChars_of_occurs hs
  case right =>
    subst hk
    exact ⟨x, hmem, hx, (Analyzer.binding_mem_iff hq ho hx).trans (by omega)⟩

-- A request of one query.
def alone (sq : SourceQuery) : Request where
  queries := [sq]

def aloneAnalyzer : Analyzer where
  scope := ({} : Request).scope
  options := { syncQuerier := true }
  models := []

theorem alone_analyzer (sq : SourceQuery) :
    (alone sq).scope.analyzer { syncQuerier := true } = .ok aloneAnalyzer :=
  Scope.analyzer_empty .postgresql { syncQuerier := true }

theorem alone_plans (hg : ((alone sq).generate { syncQuerier := true }).isOk)
    (hq : aloneAnalyzer.analyze sq = .ok (some q)) :
    ∃ g, (alone sq).generate { syncQuerier := true } = .ok g ∧ g.Plans q (q.method .sync) := by
  have ⟨g, hg⟩ := Check.isOk_iff.mp hg
  have ⟨an, ha, hg'⟩ := Request.generate_eq_ok_iff.mp hg
  have ⟨_, _, ⟨a, ha, _, hqs⟩, _⟩ := Request.analyze_eq_ok_iff.mp ha
  injection alone_analyzer sq ▸ ha with ha
  subst ha
  refine ⟨g, hg, (plans_iff hg').mpr ⟨?_, .sync, by decide, rfl⟩⟩
  exact Analyzer.mem_analyzeAll hqs |>.mpr ⟨sq, List.mem_singleton_self _, hq⟩

-- Two parameters that are listed in the other order.
def swapped : SourceQuery where
  text := "SELECT $1, $2"
  name := "Swapped"
  cmd := ":exec"
  params := [⟨2, { name := "b" }⟩, ⟨1, { name := "a" }⟩]
  filename := "query.sql"

-- A third one is listed at its place.
def partlySwapped : SourceQuery :=
  { swapped with
    text := "SELECT $1, $2, $3"
    params := swapped.params ++ [⟨3, { name := "c" }⟩] }

theorem partlySwapped_bound : ∃ g q,
    (alone partlySwapped).generate { syncQuerier := true } = .ok g ∧
    aloneAnalyzer.analyze partlySwapped = .ok (some q) ∧ g.Plans q (q.method .sync) ∧
    q.sql = "SELECT :p1, :p2, :p3" ∧
    { placeholder := "p2", source := .arg "b" } ∉ (q.method .sync).execution.bindings ∧
    { placeholder := "p3", source := .arg "c" } ∈ (q.method .sync).execution.bindings := by
  have hq : aloneAnalyzer.analyze partlySwapped = .ok (some _) := rfl
  have ⟨g, hg, hm⟩ := alone_plans (by decide +kernel) hq
  have hs₂ : Sql.Occurs 2 partlySwapped.text.toList "SELECT $1, ".toList ", $3".toList :=
    ⟨by decide +kernel, by decide +kernel, by decide⟩
  have hs₃ : Sql.Occurs 3 partlySwapped.text.toList "SELECT $1, $2, ".toList [] :=
    ⟨by decide +kernel, by decide +kernel, by decide⟩
  have ⟨_, x, _, hx, hb⟩ := placeholder_bound_iff hg rfl (alone_analyzer _) hq hm
    (.head _) rfl hs₂
  have ⟨_, y, _, hy, hc⟩ := placeholder_bound_iff hg rfl (alone_analyzer _) hq hm
    (.tail _ (.tail _ (.head _))) rfl hs₃
  cases (by decide +kernel : partlySwapped.paramName? 2 = some "b").symm.trans hx
  cases (by decide +kernel : partlySwapped.paramName? 3 = some "c").symm.trans hy
  exact ⟨g, _, hg, hq, hm, by decide +kernel, mt hb.mp (by decide), hc.mpr (by decide)⟩

theorem swapped_misbound : ∃ g q, (alone swapped).generate { syncQuerier := true } = .ok g ∧
    aloneAnalyzer.analyze swapped = .ok (some q) ∧ g.Plans q (q.method .sync) ∧
    Sql.Occurs 2 swapped.text.toList "SELECT $1, ".toList [] ∧
    swapped.paramName? 2 = some "b" ∧
      { placeholder := "p2", source := .arg "b" } ∉ (q.method .sync).execution.bindings := by
  have hq : aloneAnalyzer.analyze swapped = .ok (some _) := rfl
  have ⟨g, hg, hm⟩ := alone_plans (by decide +kernel) hq
  have hs : Sql.Occurs 2 swapped.text.toList "SELECT $1, ".toList [] :=
    ⟨by decide +kernel, by decide +kernel, by decide⟩
  have hx : swapped.paramName? 2 = some "b" := by decide +kernel
  refine ⟨g, _, hg, hq, hm, hs, hx, fun hb => ?_⟩
  have := Analyzer.binding_mem_iff hq (by decide) hx (i := 2) |>.mp hb
  contradiction

end Generation
end DataAccess
