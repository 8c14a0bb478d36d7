import DataAccess.Proofs.Naming.Allocation
import DataAccess.Proofs.Query.Analysis
import DataAccess.Querier
/-!
What is passed for the parameters of a query: one entry for every ordinal, in the order in which the
ordinals first occur. The limit on parameters decides where an entry is found and nothing else.
-/

namespace DataAccess

open Naming (Allocator)

namespace SourceQuery

variable (sq : SourceQuery)

-- The parameters with ordinals that no parameter before them has.
def firstParams : List Parameter :=
  firstsBy (·.number) sq.params

-- The name that is allocated for an ordinal, if there is a parameter with it.
def paramName? (number : Int32) : Option String :=
  (Allocator.after {} sq.paramEntries).byKey.lookup number

theorem allocated_params :
    (Allocator.allocateAll {} sq.paramEntries).map (fun (name, c) => (some name, c)) =
      sq.firstParams.map fun p => (sq.paramName? p.number, p.column) := by
  rw [Allocator.allocateAll_empty]
  simp only [paramEntries, firstParams, firstsBy_map, List.map_map]
  rfl

theorem allocated_names :
    (Allocator.allocateAll {} sq.paramEntries).map (some ·.1) =
      sq.firstParams.map fun p => sq.paramName? p.number := by
  simpa [Function.comp_def] using congrArg (List.map Prod.fst) sq.allocated_params

theorem allocated_columns :
    (Allocator.allocateAll {} sq.paramEntries).map (·.2) = sq.firstParams.map (·.column) := by
  simpa [Function.comp_def] using congrArg (List.map Prod.snd) sq.allocated_params

variable {sq}

theorem number_eq_of_paramName? {x : String} (h₁ : sq.paramName? m = some x)
    (h₂ : sq.paramName? n = some x) : m = n :=
  Allocator.Consistent.empty.after.key_eq h₁ h₂

theorem exists_paramName? (h : p ∈ sq.firstParams) : ∃ x, sq.paramName? p.number = some x := by
  replace h := List.mem_map_of_mem (f := fun p => sq.paramName? p.number) h
  rw [← allocated_names] at h
  have ⟨e, _, he⟩ := List.mem_map.mp h
  exact ⟨e.1, he.symm⟩

end SourceQuery

-- Name and type of what is passed in a value; in a record, of every field.
def QueryValue.passed : QueryValue → List (String × SemanticType)
  | empty => []
  | scalar name type => [(name, type)]
  | record _ decl _ => decl.fields.map fun f => (f.name, f.type)

def Query.passed (q : Query) : List (String × SemanticType) :=
  q.args.flatMap (·.passed)

namespace Analyzer

variable (a : Analyzer) (sq : SourceQuery)

-- Where the value of a name is found: in the packed record, or in an argument of that name.
def sourceOf (name : String) : BindingSource :=
  if a.Packs sq then .field "arg" name else .arg name

theorem passed_args : (a.args sq).flatMap (·.passed) =
    (Allocator.allocateAll {} sq.paramEntries).map fun (name, c) => (name, a.scope.resolve c) := by
  rw [args]
  split <;> simp [QueryValue.passed, recordOf, List.flatMap_map, ← List.map_eq_flatMap]

theorem sources_args : (a.args sq).flatMap (·.sources) =
    (Allocator.allocateAll {} sq.paramEntries).map (a.sourceOf sq ·.1) := by
  rw [args]
  split <;> simp [QueryValue.sources, recordOf, sourceOf, *, List.flatMap_map,
    ← List.map_eq_flatMap]

-- Arguments are one record for all parameters exactly if they are packed.
theorem packs_iff : a.Packs sq ↔
    ∃ d : RecordDecl, d.name = sq.name ++ "Params" ∧ a.args sq = [.record "arg" d true] := by
  rw [args]
  split
  case isTrue h => simp [h, recordOf]
  case isFalse h =>
    simp only [h, false_iff, not_exists, not_and]
    intro d _ he
    simp [List.map_eq_singleton_iff] at he

-- How the parameters of a query are passed.
structure Passes (q : Query) : Prop where
  -- There is one entry for every ordinal, with the type of the first parameter that has it.
  types : q.passed.map (·.2) = sq.firstParams.map (a.scope.resolve ·.column)
  nodup : (q.passed.map (·.1)).Nodup
  bindings : ∀ f, (q.method f).execution.bindings = q.passed.zipIdx.map fun ((name, _), i) =>
    { placeholder := "p" ++ toString (i + 1), source := a.sourceOf sq name }
  packed : (∃ d : RecordDecl, d.name = sq.name ++ "Params" ∧ q.args = [.record "arg" d true]) ↔
    sq.params ≠ [] ∧ (a.options.limit < sq.params.length ∨ a.options.limit = 0)

variable {a sq} {sc : Scope}

theorem passed_eq (h : a.analyze sq = .ok (some q)) : q.passed =
    (Allocator.allocateAll {} sq.paramEntries).map fun (name, c) => (name, a.scope.resolve c) := by
  have ⟨_, _, _, hq⟩ := analyze_eq_some_iff.mp h
  exact hq ▸ a.passed_args sq

theorem passed_names (h : a.analyze sq = .ok (some q)) :
    q.passed.map (some ·.1) = sq.firstParams.map (sq.paramName? ·.number) := by
  simpa [passed_eq h, Function.comp_def] using sq.allocated_names

theorem mem_passed (h : a.analyze sq = .ok (some q)) (hp : p ∈ sq.firstParams)
    (hx : sq.paramName? p.number = some x) : x ∈ q.passed.map (·.1) := by
  have hm := List.mem_map_of_mem (f := fun p => sq.paramName? p.number) hp
  rw [hx, ← passed_names h] at hm
  simpa using hm

theorem passes (h : a.analyze sq = .ok (some q)) : a.Passes sq q := by
  have ⟨_, kind, _, hq⟩ := analyze_eq_some_iff.mp h
  constructor
  case types =>
    have hc := congrArg (List.map a.scope.resolve) sq.allocated_columns
    simpa [passed_eq h, Function.comp_def] using hc
  case nodup =>
    simpa [passed_eq h, Function.comp_def] using Allocator.allocateAll_nodup {} sq.paramEntries
  case bindings =>
    intro f
    have hs : q.args.flatMap (·.sources) = q.passed.map (a.sourceOf sq ·.1) := by
      rw [passed_eq h, ← hq]
      simpa [Function.comp_def] using a.sources_args sq
    simp [Query.method, Query.bindings, hs, List.zipIdx_map, Function.comp_def]
  case packed =>
    rw [← hq]
    exact (a.packs_iff sq).symm

-- The analyzer under another limit on parameters.
def withLimit (a : Analyzer) (n : Option Int32) : Analyzer :=
  { a with options := { a.options with parameterLimit := n } }

theorem ret_withLimit : (a.withLimit n).ret sq = a.ret sq := by
  have hf columns : (a.withLimit n).fits columns = a.fits columns := by
    funext m
    simp [fits, matches_iff, withLimit]
  simp only [ret, findModel?, hf]
  rfl

-- The limit decides how parameters are packed. What is passed, and all else of a query, stays.
theorem passed_eq_of_limit (ha : sc.analyzer o = .ok a) (h : a.analyze sq = .ok (some q))
    (n : Option Int32) :
    sc.analyzer { o with parameterLimit := n } = .ok (a.withLimit n) ∧
      ∃ q', (a.withLimit n).analyze sq = .ok (some q') ∧
        { q' with args := q.args } = q ∧ q'.passed = q.passed ∧
        a.Passes sq q ∧ (a.withLimit n).Passes sq q' := by
  have ⟨hs, ho, hm⟩ := Scope.analyzer_eq_ok_iff.mp ha
  have ⟨hn, kind, hk, hq⟩ := analyze_eq_some_iff.mp h
  subst hq
  have h' : (a.withLimit n).analyze sq = .ok (some ((a.withLimit n).queryOf sq kind)) :=
    analyze_eq_some_iff.mpr ⟨hn, kind, hk, rfl⟩
  refine ⟨Scope.analyzer_eq_ok_iff.mpr ⟨hs, ho ▸ rfl, hm⟩, _, h', ?_, ?_, passes h, passes h'⟩
  · simp only [queryOf, ret_withLimit]
    rfl
  · exact ((a.withLimit n).passed_args sq).trans (a.passed_args sq).symm

-- An ordinal that is used twice, a name that is used twice, and a parameter without a name.
def search : SourceQuery where
  name := "Search"
  cmd := ":exec"
  params := [⟨1, { name := "name" }⟩, ⟨2, { name := "name" }⟩, ⟨1, { name := "other" }⟩, ⟨3, {}⟩]

theorem passed_eq_of_limit_search : ∃ a q,
    Scope.analyzer ⟨.postgresql, {}⟩ {} = .ok a ∧ a.analyze search = .ok (some q) ∧
      q.passed.map (·.1) = ["name", "name_2", "dollar_3"] ∧
      ∃ q', (a.withLimit (some 0)).analyze search = .ok (some q') ∧ q'.passed = q.passed := by
  have ha := Scope.analyzer_empty .postgresql {}
  have hq : Analyzer.analyze ⟨⟨.postgresql, {}⟩, {}, []⟩ search = .ok (some _) := rfl
  obtain ⟨_, q', h, _, hp, _⟩ := passed_eq_of_limit ha hq (some 0)
  exact ⟨_, _, ha, hq, by decide +kernel, q', h, hp⟩

end Analyzer
end DataAccess
