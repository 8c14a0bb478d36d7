import DataAccess.Proofs.Generation.Success
import Mathlib.Order.Bounds.Defs
/-!
When there is a generation, and which problem is reported otherwise. Checks are made one after the
other, and the first that does not pass decides.
-/

namespace DataAccess

namespace Request

variable (r : Request) (o : Options)

-- The generated names of enums and of models, with their origins, in the order of the catalog.
def enumOrigins : List (String × String) :=
  r.catalog.enums.map fun (s, e) => (r.catalog.enumName s e, s.name ++ "." ++ e.name)

def modelOrigins : List (String × String) :=
  r.catalog.tables.map fun (s, t) =>
    (o.modelName r.catalog s t.rel.name, s.name ++ "." ++ t.rel.name)

def enumNames : List String :=
  r.enumOrigins.map (·.1)

def modelNames : List String :=
  (r.modelOrigins o).map (·.1)

-- A file with a query that is not passed over.
def HasSource (source : String) : Prop :=
  ∃ q ∈ r.queries, q.isNamed ∧ q.filename = source

def sources : List String :=
  r.queries.filter (·.isNamed) |>.map (·.filename)

variable {r : Request} {o : Options}

theorem hasSource_iff : r.HasSource source ↔ source ∈ r.sources := by
  simp [HasSource, sources, and_assoc]

theorem map_enumEntries :
    r.catalog.enumEntries.map (fun (d, origin) => (d.name, origin)) = r.enumOrigins := by
  simp [Catalog.enumEntries, enumOrigins, EnumDecl.ofEnumeration]

theorem map_modelEntries :
    (r.scope.modelEntries o).map (fun (d, origin) => (d.name, origin)) = r.modelOrigins o := by
  simp [Scope.modelEntries, modelOrigins, RecordDecl.ofTable, scope]

theorem map_name_enumEntries : r.catalog.enumEntries.map (·.1.name) = r.enumNames := by
  rw [enumNames, ← map_enumEntries, List.map_map]
  rfl

theorem map_name_modelEntries : (r.scope.modelEntries o).map (·.1.name) = r.modelNames o := by
  rw [modelNames, ← map_modelEntries, List.map_map]
  rfl

theorem enumNames_perm (h : r.catalog.enumDecls = .ok es) : (es.map (·.name)).Perm r.enumNames := by
  rw [← map_name_enumEntries]
  simpa [Function.comp_def] using (Catalog.enumDecls_perm h).symm.map (·.name)

theorem modelNames_perm (h : r.scope.models o = .ok ms) :
    (ms.map (·.name)).Perm (r.modelNames o) := by
  rw [← map_name_modelEntries]
  simpa [Function.comp_def] using (Scope.models_perm h).symm.map (·.name)

theorem mem_sourceNames_iff (h : r.analyze o = .ok an) : s ∈ an.sourceNames ↔ r.HasSource s := by
  have ⟨_, _, ⟨a, _, _, ha⟩, _⟩ := analyze_eq_ok_iff.mp h
  rw [Analysis.mem_sourceNames]
  constructor
  case mp =>
    intro ⟨q, hq, hs⟩
    have ⟨sq, hsq, hq⟩ := Analyzer.mem_analyzeAll ha |>.mp hq
    have ⟨hn, _, _, hq⟩ := Analyzer.analyze_eq_some_iff.mp hq
    exact ⟨sq, hsq, hn, by rw [← hs, ← hq]; rfl⟩
  case mpr =>
    intro ⟨sq, hsq, hn, hs⟩
    have hq := Analyzer.analyzeAll_eq_ok_iff.mp ha |>.left sq hsq
    have ⟨_, hq⟩ := Analyzer.exists_analyze_eq_some (a := a) hq hn
    exact ⟨_, Analyzer.mem_analyzeAll ha |>.mpr ⟨sq, hsq, hq⟩, hs⟩

end Request

namespace Options

variable {o : Options}

theorem validate_eq_ok_iff : o.validate = .ok () ↔
    (∀ n ∈ o.parameterLimit, 0 ≤ n) ∧ ∀ name ∈ o.modelsFileName, ¬Text.isBlank name := by
  simp only [validate]
  cases o.parameterLimit <;> cases o.modelsFileName <;>
    simp [Int32.not_lt, ite_eq_iff, pure, Except.pure, bind, Except.bind]

theorem validate_eq_error_iff : o.validate = .error p ↔
    (∃ n ∈ o.parameterLimit, n < 0 ∧ .negativeParameterLimit n = p) ∨
      (∀ n ∈ o.parameterLimit, 0 ≤ n) ∧
        ∃ name ∈ o.modelsFileName, Text.isBlank name ∧ .blankModelsFileName = p := by
  simp only [validate]
  cases o.parameterLimit <;> cases o.modelsFileName <;>
    simp [Int32.not_lt, ite_eq_iff, pure, Except.pure, bind, Except.bind]

end Options

-- What is checked, in this order.
inductive Stage
  | options
  | enums
  | models
  | queries
  | types
  | files
deriving DecidableEq

namespace Stage

def all : List Stage :=
  [options, enums, models, queries, types, files]

variable (r : Request) (o : Options)

def Passes : Stage → Prop
  | options =>
    (∀ n ∈ o.parameterLimit, 0 ≤ n) ∧ ∀ name ∈ o.modelsFileName, ¬Text.isBlank name
  | enums => r.enumNames.Nodup
  | models => (r.modelNames o).Nodup
  | queries => ∀ q ∈ r.queries, q.Admitted
  | types => ∀ name ∈ r.enumNames, name ∉ r.modelNames o
  | files =>
    (∀ s, r.HasSource s → ∀ t, r.HasSource t → outputFileName s = outputFileName t → s = t) ∧
      ∀ s, r.HasSource s → outputFileName s ∉ o.modelsFileName

-- Whether a check passes can be told without sorting anything.
instance (s : Stage) : Decidable (s.Passes r o) :=
  match s with
  | options =>
    decidable_of_iff
      (o.parameterLimit.all (0 ≤ ·) ∧ ∀ name ∈ o.modelsFileName, ¬Text.isBlank name)
      (by simp [Passes, Option.all_eq_true])
  | enums   => inferInstanceAs (Decidable r.enumNames.Nodup)
  | models  => inferInstanceAs (Decidable (r.modelNames o).Nodup)
  | queries => inferInstanceAs (Decidable (∀ q ∈ r.queries, q.Admitted))
  | types   => inferInstanceAs (Decidable (∀ name ∈ r.enumNames, name ∉ r.modelNames o))
  | files   =>
    decidable_of_iff
      ((∀ s ∈ r.sources, ∀ t ∈ r.sources, outputFileName s = outputFileName t → s = t) ∧
        ∀ s ∈ r.sources, outputFileName s ∉ o.modelsFileName)
      (by simp only [Passes, Request.hasSource_iff])

-- What is reported by a check that does not pass.
def Reports (p : Problem) : Stage → Prop
  | options =>
    (∃ n ∈ o.parameterLimit, n < 0 ∧ .negativeParameterLimit n = p) ∨
      (∀ n ∈ o.parameterLimit, 0 ≤ n) ∧
        ∃ name ∈ o.modelsFileName, Text.isBlank name ∧ .blankModelsFileName = p
  | enums => ∃ name first second,
    Naming.Collides r.enumOrigins name first second ∧ .nameCollision .enum name first second = p
  | models => ∃ name first second,
    Naming.Collides (r.modelOrigins o) name first second ∧
      .nameCollision .model name first second = p
  -- The first query in the order of the request.
  | queries => ∃ before q after, r.queries = before ++ q :: after ∧
    (∀ q ∈ before, q.Admitted) ∧ ¬q.Admitted ∧ q.problem = p
  | types => ∃ name, IsLeast {name | name ∈ r.enumNames ∧ name ∈ r.modelNames o} name ∧
    .nameCollision .type name "an enum" "a table model" = p
  -- The models file comes first, then the others in the order of their sources.
  | files => ∃ (sources : List String) (name first second : String),
    sources.Pairwise (· < ·) ∧ (∀ s, s ∈ sources ↔ r.HasSource s) ∧
    Naming.Collides (o.modelsFileName.toList.map (·, "the models file") ++
      sources.map fun s => (outputFileName s, s)) name first second ∧
    .nameCollision .outputFile name first second = p

-- The first check of a list that does not pass reports a problem.
inductive Fails (p : Problem) : List Stage → Prop
  | here  : ¬s.Passes r o → s.Reports r o p → Fails p (s :: ss)
  | later : s.Passes r o → Fails p ss → Fails p (s :: ss)

-- A computation does what a list of checks says.
structure Decide (ss : List Stage) (x : Except Problem α) : Prop where
  ok : (∃ a, x = .ok a) ↔ ∀ s ∈ ss, s.Passes r o
  error : ∀ p, x = .error p ↔ Fails r o p ss

variable {r : Request} {o : Options} {x : Except Problem α}

theorem fails_append_iff : Fails r o p (ss ++ ss') ↔
    Fails r o p ss ∨ (∀ s ∈ ss, s.Passes r o) ∧ Fails r o p ss' := by
  induction ss
  case nil => simpa using nofun
  case cons s ss hi =>
    constructor
    case mp =>
      intro h
      cases h
      case here hn hr => exact .inl <| .here hn hr
      case later hp h =>
        cases hi.mp h
        case inl h => exact .inl <| .later hp h
        case inr h => exact .inr ⟨List.forall_mem_cons.mpr ⟨hp, h.left⟩, h.right⟩
    case mpr =>
      rintro (h | ⟨hp, h⟩)
      case inl =>
        cases h
        case here hn hr => exact .here hn hr
        case later hp h => exact .later hp <| hi.mpr <| .inl h
      case inr =>
        have ⟨hs, hp⟩ := List.forall_mem_cons.mp hp
        exact .later hs <| hi.mpr <| .inr ⟨hp, h⟩

namespace Decide

theorem single {s : Stage} (ok : (∃ a, x = .ok a) ↔ s.Passes r o)
    (error : ∀ p, x = .error p ↔ s.Reports r o p) : Decide r o [s] x where
  ok := by simpa using ok
  error p := by
    constructor
    case mp =>
      intro h
      exact .here (fun hp => by simpa [h] using ok.mpr hp) (error p |>.mp h)
    case mpr =>
      intro h
      cases h
      case here hr  => exact error p |>.mpr hr
      case later h  => contradiction

-- What comes later is only checked if all before has passed.
theorem bind {f : α → Except Problem β} (hx : Decide r o ss x)
    (hf : ∀ a, x = .ok a → Decide r o ss' (f a)) : Decide r o (ss ++ ss') (x >>= f) := by
  cases h : x
  case ok a =>
    have hp := hx.ok.mp ⟨a, h⟩
    have hn p : ¬Fails r o p ss := mt (hx.error p).mpr (by simp [h])
    constructor
    case ok =>
      rw [List.forall_mem_append, and_iff_right hp]
      exact (hf a h).ok
    case error =>
      intro p
      rw [fails_append_iff, or_iff_right (hn p), and_iff_right hp]
      exact (hf a h).error p
  case error e =>
    have hn : ¬∀ s ∈ ss, s.Passes r o := mt hx.ok.mpr (by simp [h])
    constructor
    case ok =>
      rw [List.forall_mem_append]
      simp [hn]
    case error =>
      intro p
      rw [fails_append_iff, ← hx.error p, h]
      simp [hn]

end Decide

-- Each check by itself.

theorem validate_decide : Decide r o [options] o.validate := by
  apply Decide.single
  case ok    => exact exists_const PUnit |>.trans Options.validate_eq_ok_iff
  case error => exact fun p => Options.validate_eq_error_iff

theorem enumDecls_decide : Decide r o [enums] r.catalog.enumDecls := by
  apply Decide.single
  case ok    => simp [Catalog.enumDecls_eq_ok_iff, Passes, Request.map_name_enumEntries]
  case error => simp [Catalog.enumDecls_eq_error_iff, Reports, Request.map_enumEntries]

theorem models_decide : Decide r o [models] (r.scope.models o) := by
  apply Decide.single
  case ok    => simp [Scope.models_eq_ok_iff, Passes, Request.map_name_modelEntries]
  case error => simp [Scope.models_eq_error_iff, Reports, Request.map_modelEntries]

theorem analyzeAll_decide {a : Analyzer} : Decide r o [queries] (a.analyzeAll r.queries) := by
  apply Decide.single
  case ok    => simp [Analyzer.analyzeAll_eq_ok_iff, Passes]
  case error => exact fun p => Analyzer.analyzeAll_eq_error_iff

theorem combine_decide (he : r.catalog.enumDecls = .ok es) (hm : r.scope.models o = .ok ms) :
    Decide r o [types] (Analysis.combine es ms qs) := by
  have hep := Request.enumNames_perm he
  have hmp := Request.modelNames_perm hm
  have hen : (es.map (·.name)).Nodup :=
    List.pairwise_map.mpr <| Catalog.enumDecls_pairwise_lt he |>.imp ne_of_lt
  have hml : (ms.map (·.name)).Pairwise (· < ·) :=
    List.pairwise_map.mpr <| Scope.models_pairwise_lt hm
  have hmn : (ms.map (·.name)).Nodup := hml.imp ne_of_lt
  apply Decide.single
  case ok =>
    simp only [Analysis.combine_eq_ok_iff, exists_and_left, exists_eq', and_true, Passes,
      List.nodup_append', hen, hmn, true_and]
    simp [List.disjoint_left, hep.mem_iff, hmp.mem_iff]
  case error =>
    intro p
    simp only [Analysis.combine_eq_error_iff, Naming.collides_append_iff hen hml]
    simp [hep.mem_iff, hmp.mem_iff, Reports]

theorem assemble_decide (h : r.analyze o = .ok an) :
    Decide r o [files] (an.assemble o version) := by
  have hs {s} : s ∈ an.sourceNames ↔ r.HasSource s := r.mem_sourceNames_iff h
  apply Decide.single
  case ok =>
    have hn : an.sourceNames.Nodup := Analysis.sourceNames_pairwise_lt.imp ne_of_lt
    simp only [Analysis.assemble_eq_ok_iff, exists_and_left, exists_eq', and_true, Passes, ← hs,
      Analysis.outputEntries_eq, List.map_append, List.map_map, List.nodup_append',
      Function.comp_def, List.nodup_map_iff_inj_on hn]
    cases o.modelsFileName
    case none      => simp
    case some name => simp [eq_comm (a := name)]
  case error =>
    intro p
    rw [Analysis.assemble_eq_error_iff, Analysis.outputEntries_eq]
    have hl : an.sourceNames.Pairwise (· < ·) := Analysis.sourceNames_pairwise_lt
    constructor
    case mp =>
      intro ⟨name, first, second, hc, hp⟩
      exact ⟨an.sourceNames, name, first, second, hl, fun _ => hs, hc, hp⟩
    case mpr =>
      intro ⟨sources, name, first, second, hl', hm, hc, hp⟩
      have he : sources = an.sourceNames := hl'.eq_of_mem_iff hl fun s => (hm s).trans hs.symm
      exact ⟨name, first, second, he ▸ hc, hp⟩

theorem analyze_decide : Decide r o [options, enums, models, queries, types] (r.analyze o) := by
  unfold Request.analyze
  exact validate_decide.bind fun _ _ =>
    enumDecls_decide.bind fun _ he =>
    models_decide.bind fun _ hm =>
    analyzeAll_decide.bind fun _ _ =>
    combine_decide he hm

theorem generate_decide : Decide r o all (r.generate o) :=
  analyze_decide.bind fun _ => assemble_decide

theorem mem_all (s : Stage) : s ∈ all := by
  cases s <;> decide

end Stage

-- There is a generation if all checks pass, else the first that does not pass says why not.
theorem Request.generate_outcome (r : Request) (o : Options) :
    ((∃ g, r.generate o = .ok g) ↔ ∀ s : Stage, s.Passes r o) ∧
      ∀ p, r.generate o = .error p ↔ Stage.Fails r o p Stage.all where
  left := by simpa [Stage.mem_all] using (Stage.generate_decide (r := r) (o := o)).ok
  right := Stage.generate_decide.error

end DataAccess
