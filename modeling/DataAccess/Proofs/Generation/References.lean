import DataAccess.Proofs.Generation.Success
import DataAccess.Proofs.Query.References
/-!
Generated files have no dangling references: every type, field and argument that a method uses is
declared, in its own file or in the models module.
-/

namespace DataAccess

-- What the code of a file of queries can refer to.
structure Definitions where
  own : List RecordDecl
  models : List RecordDecl
  enums : List EnumDecl

namespace TypeRef

-- A record of a name has all fields of a list.
def HasRecord (ds : List RecordDecl) (name : String) (fields : List String) : Prop :=
  ∃ d ∈ ds, d.name = name ∧ ∀ x ∈ fields, ∃ f ∈ d.fields, f.name = x

-- A type is defined with the fields that are used of it.
def Defined (ds : Definitions) (fields : List String) : TypeRef → Prop
  | scalar t => t.Declared ds.enums (some modelsModule) ∧ fields = []
  | own name => HasRecord ds.own name fields
  | model name => HasRecord ds.models name fields

end TypeRef

namespace BindingSource

def argName : BindingSource → String
  | arg name | field name _ => name

-- The field that is used of an argument.
def fieldOf? (name : String) : BindingSource → Option String
  | arg _ => none
  | field a x => if a = name then some x else none

end BindingSource

def ReturnType.type? : ReturnType → Option TypeRef
  | optional t | iterator t | asyncIterator t => some t
  | nothing | rowCount | driverResult => none

def ResultHandling.row? : ResultHandling → Option RowMapping
  | firstRow row | eachRow row => some row
  | discard | rowCount | passthrough => none

structure Method.Closed (m : Method) (ds : Definitions) : Prop where
  args : ∀ arg ∈ m.args,
    arg.type.Defined ds (m.execution.bindings.filterMap (·.source.fieldOf? arg.name))
  returns : ∀ t ∈ m.returns.type?, t.Defined ds []
  row : ∀ t fields, m.result.row? = some (.construct t fields) → t.Defined ds (fields.map (·.1))
  bindings : ∀ b ∈ m.execution.bindings, ∃ arg ∈ m.args, arg.name = b.source.argName

namespace QueryValue

variable {v : QueryValue}

theorem methodArg?_of_mem_sources (h : source ∈ v.sources) :
    ∃ arg, v.methodArg? = some arg ∧ arg.name = source.argName := by
  cases v
  case empty => simp [sources] at h
  case scalar =>
    cases List.mem_singleton.mp h
    exact ⟨_, rfl, rfl⟩
  case record decl emit =>
    have ⟨_, _, hs⟩ := List.mem_map.mp h
    cases emit <;> exact ⟨_, rfl, hs ▸ rfl⟩

end QueryValue

namespace Query

variable {q : Query} {ds : Definitions}

theorem mem_type?_returns : t ∈ (q.returns k).type? ↔ q.kind.returnsRows ∧ q.rowMapping.1 = t := by
  cases hk : q.kind <;> cases k <;> simp [returns, hk, ReturnType.type?, QueryKind.returnsRows]

theorem mem_row?_resultHandling :
    row ∈ q.resultHandling.row? ↔ q.kind.returnsRows ∧ q.rowMapping.2 = row := by
  cases hk : q.kind <;> simp [resultHandling, hk, ResultHandling.row?, QueryKind.returnsRows]

theorem exists_arg_of_mem_bindings (h : b ∈ q.bindings) : ∃ v ∈ q.args, b.source ∈ v.sources := by
  have ⟨(source, i), hs, hb⟩ := List.mem_map.mp h
  subst hb
  exact List.mem_flatMap.mp (List.fst_mem_of_mem_zipIdx hs)

theorem fieldOf?_of_scalars (h : ∀ v ∈ q.args, ∃ x t, v = .scalar x t) :
    q.bindings.filterMap (·.source.fieldOf? name) = [] := by
  rw [List.filterMap_eq_nil_iff]
  intro b hb
  have ⟨v, hv, hs⟩ := exists_arg_of_mem_bindings hb
  have ⟨_, _, hv⟩ := h v hv
  subst hv
  rw [List.mem_singleton.mp hs]
  rfl

theorem fieldOf?_of_record (h : q.args = [.record name d emit])
    (hx : x ∈ q.bindings.filterMap (·.source.fieldOf? name)) : ∃ f ∈ d.fields, f.name = x := by
  have ⟨b, hb, hx⟩ := List.mem_filterMap.mp hx
  have ⟨v, hv, hs⟩ := exists_arg_of_mem_bindings hb
  cases List.mem_singleton.mp (h ▸ hv)
  have ⟨f, hf, hs⟩ := List.mem_map.mp hs
  simp only [← hs, BindingSource.fieldOf?, ↓reduceIte, Option.some.injEq] at hx
  exact ⟨f, hf, hx⟩

theorem record_defined (h : q.Declared ds.enums ds.models) (ho : ∀ d ∈ q.emitted, d ∈ ds.own)
    (hv : .record name d emit ∈ q.values) (hf : ∀ x ∈ fields, ∃ f ∈ d.fields, f.name = x) :
    (if emit then .own d.name else .model d.name : TypeRef).Defined ds fields := by
  cases emit
  case false => exact ⟨d, h.values _ hv, rfl, hf⟩
  case true  => exact ⟨d, ho d (List.mem_filterMap.mpr ⟨_, hv, rfl⟩), rfl, hf⟩

theorem rowMapping_defined (h : q.Declared ds.enums ds.models) (ho : ∀ d ∈ q.emitted, d ∈ ds.own) :
    q.rowMapping.1.Defined ds [] ∧
      ∀ t fields, q.rowMapping.2 = .construct t fields → t.Defined ds (fields.map (·.1)) := by
  have hr : q.ret ∈ q.values := by simp [values]
  rw [rowMapping]
  cases hret : q.ret <;> rw [hret] at hr
  case empty        => exact ⟨⟨by simp [SemanticType.Declared, BaseType.enumRef?], rfl⟩, by simp⟩
  case scalar       => exact ⟨⟨h.values _ hr, rfl⟩, by simp⟩
  case record d emit =>
    refine ⟨record_defined h ho hr (by simp), fun t fields ht => ?_⟩
    injection ht with ht hf
    subst ht hf
    refine record_defined h ho hr fun x hx => ?_
    simp only [List.map_map, List.mem_map] at hx
    obtain ⟨⟨f, i⟩, hf, hx⟩ := hx
    exact ⟨f, List.fst_mem_of_mem_zipIdx hf, hx⟩

theorem method_closed (h : q.Declared ds.enums ds.models) (ho : ∀ d ∈ q.emitted, d ∈ ds.own) :
    (q.method k).Closed ds := by
  have hm := rowMapping_defined h ho
  constructor
  case args =>
    intro arg ha
    have ⟨v, hv, ha⟩ := List.mem_filterMap.mp ha
    have hvs : v ∈ q.values := List.mem_append_left _ hv
    cases h.args
    case inl hd =>
      have ⟨d, hd⟩ := hd
      cases List.mem_singleton.mp (hd ▸ hv)
      cases ha
      exact record_defined h ho hvs fun x => fieldOf?_of_record hd
    case inr hs =>
      have ⟨_, _, hv⟩ := hs v hv
      subst hv
      cases ha
      exact ⟨h.values _ hvs, fieldOf?_of_scalars hs⟩
  case returns =>
    intro t ht
    exact (mem_type?_returns.mp ht).right ▸ hm.left
  case row =>
    intro t fields ht
    exact hm.right t fields (mem_row?_resultHandling.mp ht).right
  case bindings =>
    intro b hb
    have ⟨v, hv, hs⟩ := exists_arg_of_mem_bindings hb
    have ⟨arg, ha, hn⟩ := QueryValue.methodArg?_of_mem_sources hs
    exact ⟨arg, List.mem_filterMap.mpr ⟨v, hv, ha⟩, hn⟩

end Query

-- All that a file refers to is found in the file itself or among models and enums.
structure QueryFile.Closed (f : QueryFile) (an : Analysis) : Prop where
  methods : ∀ querier ∈ f.queriers, ∀ m ∈ querier.methods,
    m.Closed { own := f.declarations, models := an.models, enums := an.enums }
  values : ∀ q ∈ f.queries, ∀ v ∈ q.values, v.Declared an.enums an.models
  declarations : ∀ d ∈ f.declarations, d.Declared an.enums (some modelsModule)

theorem QueryFile.closed_ofQueries {an : Analysis} {qs : List Query}
    (h : ∀ q ∈ qs, q.Declared an.enums an.models) :
    (QueryFile.ofQueries o source qs).Closed an where
  methods querier hk m hm := by
    have ⟨k, _, hk⟩ := List.mem_map.mp hk
    subst hk
    have ⟨q, hq, hm⟩ := List.mem_map.mp hm
    subst hm
    exact Query.method_closed (h q hq) fun d hd => List.mem_flatMap.mpr ⟨q, hq, hd⟩
  values q hq := h q hq |>.values
  declarations d hd := by
    have ⟨q, hq, hd⟩ := List.mem_flatMap.mp hd
    have ⟨v, hv, hd⟩ := List.mem_filterMap.mp hd
    match v, hd with
    | .record _ _ true, rfl => exact (h q hq).values _ hv

namespace Request

variable {r : Request} {an : Analysis} {g : Generation}

theorem analyze_declared (h : r.analyze o = .ok an) :
    (∀ q ∈ an.queries, q.Declared an.enums an.models) ∧
      ∀ d ∈ an.models, d.Declared an.enums none := by
  have ⟨_, he, ⟨a, ha, hm, hq⟩, _⟩ := analyze_eq_ok_iff.mp h
  have ⟨hs, _, hms⟩ := Scope.analyzer_eq_ok_iff.mp ha
  have hc : a.scope.catalog.enumDecls = .ok an.enums := by rw [hs]; exact he
  rw [← hm]
  constructor
  case left =>
    intro q hmem
    have ⟨_, _, hq⟩ := (Analyzer.mem_analyzeAll hq).mp hmem
    exact Analyzer.analyze_declared hc hq
  case right => exact Scope.models_declared (hs ▸ hc) hms

theorem generate_closed (hg : r.generate o = .ok g) : ∃ an, r.analyze o = .ok an ∧
    (∀ f ∈ g.queryFiles, f.Closed an) ∧ ∀ d ∈ an.models, d.Declared an.enums none := by
  have ⟨an, ha, hg⟩ := generate_eq_ok_iff.mp hg
  have ⟨hq, hm⟩ := analyze_declared ha
  refine ⟨an, ha, fun f hf => ?_, hm⟩
  have ⟨_, _, hf⟩ := (Analysis.mem_queryFiles hg).mp hf
  subst hf
  apply QueryFile.closed_ofQueries
  intro q h
  exact hq q (Analysis.mem_queriesOf.mp h).left

-- A table with an enum, of which a query returns the model and for which it packs its parameter.
def shop : Request where
  catalog := {
    defaultSchema := "public"
    schemas := [{
      name := "public"
      tables := [{
        rel := { name := "orders" }
        columns := [{ name := "id", type := { name := "int4" } },
          { name := "status", type := { name := "order_status" } }] }]
      enums := [{ name := "order_status", vals := ["open", "paid"] }] }] }
  queries := [{
    text := "SELECT id, status FROM orders WHERE status = $1"
    name := "OrdersByStatus"
    cmd := ":many"
    columns := [{ name := "id", type := { name := "int4" }, table := some { name := "orders" } },
      { name := "status", type := { name := "order_status" }, table := some { name := "orders" } }]
    params := [⟨1, { name := "status", type := { name := "order_status" } }⟩]
    filename := "query.sql" }]

theorem generate_closed_shop : ∃ g an,
    shop.generate { asyncQuerier := true, parameterLimit := some 0 } = .ok g ∧
      shop.analyze { asyncQuerier := true, parameterLimit := some 0 } = .ok an ∧
      ∀ f ∈ g.queryFiles, f.Closed an := by
  have ⟨g, hg⟩ := Check.isOk_iff.mp (by decide +kernel :
    (shop.generate { asyncQuerier := true, parameterLimit := some 0 }).isOk)
  have ⟨an, ha, hf, _⟩ := generate_closed hg
  exact ⟨g, an, hg, ha, hf⟩

end Request
end DataAccess
