import DataAccess.Proofs.Generation.References
/-!
What a file requires is what a scan of the finished file finds: in its declarations, in the values
of its queries and in the return types of its methods.
-/

namespace DataAccess

inductive BaseType.Needs : BaseType → Feature → Prop
  | dynamic  : Needs .dynamic .any
  | decimal  : Needs .decimal .decimal
  | date     : Needs .date .date
  | time     : Needs .time .time
  | dateTime : Needs .dateTime .dateTime
  | interval : Needs .interval .interval
  | uuid     : Needs .uuid .uuid
  | enum     : Needs (.enum ⟨some module, name⟩) .modelsModule

inductive SemanticType.Needs (t : SemanticType) : Feature → Prop
  | nullable : t.isNullable → t.Needs .optional
  | array    : t.isArray → t.Needs .list
  | base     : t.base.Needs x → t.Needs x

inductive QueryValue.Needs : QueryValue → Feature → Prop
  | scalar : t.Needs x → Needs (.scalar name t) x
  | model  : Needs (.record name d false) .modelsModule

inductive TypeRef.Needs : TypeRef → Feature → Prop
  | scalar : t.Needs x → Needs (.scalar t) x
  | model  : Needs (.model name) .modelsModule

-- What a method needs for a return type, whatever type it wraps.
def ReturnType.feature? : ReturnType → Option Feature
  | optional _ => some .optional
  | iterator _ => some .iterator
  | asyncIterator _ => some .asyncIterator
  | nothing | rowCount | driverResult => none

-- What is found in a finished file.
inductive QueryFile.Needs (f : QueryFile) (pydantic : Bool) : Feature → Prop
  | dataclass : pydantic = false → d ∈ f.declarations → f.Needs pydantic .dataclass
  | pydantic  : pydantic = true → d ∈ f.declarations → f.Needs pydantic .pydantic
  | field     : d ∈ f.declarations → e ∈ d.fields → e.type.Needs x → f.Needs pydantic x
  | arg       : q ∈ f.queries → v ∈ q.args → v.Needs x → f.Needs pydantic x
  | ret       : q ∈ f.queries → q.ret.Needs x → f.Needs pydantic x
  | sync      : p ∈ f.queriers → p.flavor = .sync → f.Needs pydantic .syncDriver
  | async     : p ∈ f.queriers → p.flavor = .async → f.Needs pydantic .asyncDriver
  | wrapper   : p ∈ f.queriers → m ∈ p.methods → x ∈ m.returns.feature? → f.Needs pydantic x
  | wrapped   : p ∈ f.queriers → m ∈ p.methods → t ∈ m.returns.type? → t.Needs x →
    f.Needs pydantic x

-- Records are written in the style that the options ask for.
theorem QueryFile.needs_style {o : Options} {f : QueryFile} (hd : d ∈ f.declarations) :
    f.Needs o.pydanticModels o.style.feature := by
  cases h : o.pydanticModels
  case false => simpa [Options.style, h] using .dataclass rfl hd
  case true  => simpa [Options.style, h] using .pydantic rfl hd

theorem BaseType.mem_features {b : BaseType} : x ∈ b.features ↔ b.Needs x := by
  constructor
  case mp =>
    intro h
    cases b <;> simp [features] at h
    case enum ref =>
      have ⟨module, name⟩ := ref
      cases module <;> simp at h
      exact h ▸ .enum
    all_goals
      subst h
      constructor
  case mpr =>
    intro h
    cases h <;> simp [features]

theorem SemanticType.mem_features {t : SemanticType} : x ∈ t.features ↔ t.Needs x := by
  simp only [features, List.mem_append, List.mem_ite_nil_right, List.mem_singleton,
    BaseType.mem_features]
  constructor
  case mp =>
    rintro ((⟨h, rfl⟩ | ⟨h, rfl⟩) | h)
    · exact .nullable h
    · exact .array h
    · exact .base h
  case mpr =>
    intro h
    cases h
    case nullable h => exact .inl <| .inl ⟨h, rfl⟩
    case array h    => exact .inl <| .inr ⟨h, rfl⟩
    case base h     => exact .inr h

namespace QueryValue

theorem not_needs_empty : ¬empty.Needs x := by
  intro h
  cases h

theorem needs_scalar_iff : (scalar name t).Needs x ↔ t.Needs x where
  mp h := by cases h; assumption
  mpr  := .scalar

theorem needs_record_iff : (record name d emit).Needs x ↔ emit = false ∧ x = .modelsModule where
  mp h  := by cases h; exact ⟨rfl, rfl⟩
  mpr h := h.left ▸ h.right ▸ .model

theorem mem_features {v : QueryValue} : x ∈ v.features ↔ v.Needs x := by
  cases v
  case empty  => simp [features, typeRef?, not_needs_empty]
  case scalar => exact SemanticType.mem_features.trans needs_scalar_iff.symm
  case record _ _ emit => cases emit <;> simp [features, typeRef?, needs_record_iff]

end QueryValue

namespace TypeRef

theorem needs_scalar_iff : (scalar t).Needs x ↔ t.Needs x where
  mp h := by cases h; assumption
  mpr  := .scalar

theorem needs_model_iff : (model name).Needs x ↔ x = .modelsModule where
  mp h  := by cases h; rfl
  mpr h := h ▸ .model

theorem not_needs_own : ¬(own name).Needs x := by
  intro h
  cases h

end TypeRef

namespace Query

variable {q : Query}

theorem mem_features : x ∈ q.features style ↔ (∃ v ∈ q.values, v.Needs x) ∨
    ∃ d ∈ q.emitted, x = style.feature ∨ ∃ e ∈ d.fields, e.type.Needs x := by
  simp [features, RecordDecl.features, QueryValue.mem_features, SemanticType.mem_features]

theorem mem_methodFeatures : x ∈ q.methodFeatures k ↔
    x ∈ (q.returns k).feature? ∨ q.kind.returnsRows ∧ q.ret = .empty ∧ x = .any := by
  cases hk : q.kind <;> cases k <;>
    simp [methodFeatures, returns, hk, ReturnType.feature?, QueryKind.returnsRows, eq_comm]

-- The type of a row needs what the result needs. Without columns, it is dynamic.
theorem needs_rowMapping :
    q.rowMapping.1.Needs x ↔ q.ret = .empty ∧ x = .any ∨ q.ret.Needs x := by
  have hd : SemanticType.Needs { base := .dynamic } x ↔ x = .any := by
    simp [← SemanticType.mem_features, SemanticType.features, BaseType.features]
  rw [rowMapping]
  cases q.ret
  case empty  => simp [TypeRef.needs_scalar_iff, QueryValue.not_needs_empty, hd]
  case scalar => simp [TypeRef.needs_scalar_iff, QueryValue.needs_scalar_iff]
  case record _ _ emit =>
    cases emit
    case false => simp [TypeRef.needs_model_iff, QueryValue.needs_record_iff]
    case true  => simp [TypeRef.not_needs_own, QueryValue.needs_record_iff]

end Query

namespace QueryFile

theorem mem_requirements : x ∈ (ofQueries o source qs).requirements ↔
    (∃ q ∈ qs, x ∈ q.features o.style) ∨
      ∃ k ∈ o.flavors, x = k.driver ∨ ∃ q ∈ qs, x ∈ q.methodFeatures k := by
  simp [ofQueries, Requirements.ofQueries]

theorem needs_of_mem_requirements (h : x ∈ (ofQueries o source qs).requirements) :
    (ofQueries o source qs).Needs o.pydanticModels x := by
  rcases mem_requirements.mp h with ⟨q, hq, h⟩ | ⟨k, hk, h⟩
  case inl =>
    rcases Query.mem_features.mp h with ⟨v, hv, h⟩ | ⟨d, hd, h⟩
    case inl =>
      rcases List.mem_append.mp hv with hv | hv
      case inl => exact .arg hq hv h
      case inr => exact .ret hq (List.mem_singleton.mp hv ▸ h)
    case inr =>
      have hd : d ∈ (ofQueries o source qs).declarations := List.mem_flatMap.mpr ⟨q, hq, hd⟩
      rcases h with rfl | ⟨e, he, h⟩
      case inl => exact needs_style hd
      case inr => exact .field hd he h
  case inr =>
    have hp : .plan k qs ∈ (ofQueries o source qs).queriers := List.mem_map_of_mem hk
    rcases h with rfl | ⟨q, hq, h⟩
    case inl =>
      cases k
      case sync  => exact .sync hp rfl
      case async => exact .async hp rfl
    case inr =>
      have hm : q.method k ∈ (Querier.plan k qs).methods := List.mem_map_of_mem hq
      rcases Query.mem_methodFeatures.mp h with h | ⟨hr, he⟩
      case inl => exact .wrapper hp hm h
      case inr =>
        have ht : q.rowMapping.1 ∈ (q.returns k).type? := Query.mem_type?_returns.mpr ⟨hr, rfl⟩
        exact .wrapped hp hm ht <| Query.needs_rowMapping.mpr <| .inl he

theorem mem_requirements_of_needs (h : (ofQueries o source qs).Needs o.pydanticModels x) :
    x ∈ (ofQueries o source qs).requirements := by
  rw [mem_requirements]
  have of_value {q v} (hq : q ∈ qs) (hv : v ∈ q.values) (h : v.Needs x) :
      ∃ q ∈ qs, x ∈ q.features o.style :=
    ⟨q, hq, Query.mem_features.mpr <| .inl ⟨v, hv, h⟩⟩
  have of_method {k q} (hk : k ∈ o.flavors) (hq : q ∈ qs) (h : x ∈ q.methodFeatures k) :
      ∃ k ∈ o.flavors, x = k.driver ∨ ∃ q ∈ qs, x ∈ q.methodFeatures k :=
    ⟨k, hk, .inr ⟨q, hq, h⟩⟩
  cases h
  case dataclass ho hd | pydantic ho hd =>
    have ⟨q, hq, hd⟩ := List.mem_flatMap.mp hd
    refine .inl ⟨q, hq, Query.mem_features.mpr <| .inr ⟨_, hd, .inl ?_⟩⟩
    simp [Options.style, ho, ModelStyle.feature]
  case field hd he h =>
    have ⟨q, hq, hd⟩ := List.mem_flatMap.mp hd
    exact .inl ⟨q, hq, Query.mem_features.mpr <| .inr ⟨_, hd, .inr ⟨_, he, h⟩⟩⟩
  case arg hq hv h => exact .inl <| of_value hq (List.mem_append_left _ hv) h
  case ret hq h    => exact .inl <| of_value hq (List.mem_append_right _ <| .head _) h
  case sync hp hk | async hp hk =>
    obtain ⟨k, hf, rfl⟩ := List.mem_map.mp hp
    cases hk
    exact .inr ⟨_, hf, .inl rfl⟩
  case wrapper hp hm h =>
    obtain ⟨k, hk, rfl⟩ := List.mem_map.mp hp
    obtain ⟨q, hq, rfl⟩ := List.mem_map.mp hm
    exact .inr <| of_method hk hq <| Query.mem_methodFeatures.mpr <| .inl h
  case wrapped hp hm ht h =>
    obtain ⟨k, hk, rfl⟩ := List.mem_map.mp hp
    obtain ⟨q, hq, rfl⟩ := List.mem_map.mp hm
    obtain ⟨hr, rfl⟩ := Query.mem_type?_returns.mp ht
    rcases Query.needs_rowMapping.mp h with he | h
    case inl => exact .inr <| of_method hk hq <| Query.mem_methodFeatures.mpr <| .inr ⟨hr, he⟩
    case inr => exact .inl <| of_value hq (List.mem_append_right _ <| .head _) h

end QueryFile

namespace Analysis

variable {an : Analysis} {g : Generation}

-- Requirements are found without a look at the methods, and yet they are what a scan finds. Each
-- is listed once, in the order of all features.
theorem requirements_eq_scan (h : an.assemble o version = .ok g) (hf : f ∈ g.queryFiles) :
    f.requirements.Sublist Feature.all ∧ ∀ x, x ∈ f.requirements ↔ f.Needs o.pydanticModels x := by
  obtain ⟨_, _, rfl⟩ := mem_queryFiles h |>.mp hf
  refine ⟨List.filter_sublist, fun x => ?_⟩
  exact ⟨QueryFile.needs_of_mem_requirements, QueryFile.mem_requirements_of_needs⟩

-- Nothing is known of the rows of a query, and its parameters are packed.
def polled : Analysis where
  enums := []
  models := []
  queries := [
    { kind := .fetchMany, methodName := "poll", fieldName := "pollStmt", constantName := "POLL"
      sql := "", sourceName := "events.sql", ret := .empty
      args := [.record "arg"
        { name := "PollParams"
          fields := [{ name := "since", type := { base := .dateTime, isNullable := true } }] }
        true] }]

theorem requirements_eq_scan_polled : ∃ g,
    polled.assemble { asyncQuerier := true, pydanticModels := true } "" = .ok g ∧
      ∃ f ∈ g.queryFiles,
        f.requirements = [.pydantic, .optional, .any, .dateTime, .asyncIterator, .asyncDriver] ∧
        f.Needs true .pydantic ∧ ¬f.Needs true .dataclass ∧
        f.Needs true .any ∧ ¬f.Needs true .iterator := by
  have ⟨g, hg⟩ := Check.isOk_iff.mp
    (by decide +kernel : (polled.assemble { asyncQuerier := true, pydanticModels := true } "").isOk)
  have hs : "events.sql" ∈ polled.sourceNames := mem_sourceNames.mpr ⟨_, .head _, rfl⟩
  have hf := mem_queryFiles hg |>.mpr ⟨_, hs, rfl⟩
  have ⟨_, h⟩ := requirements_eq_scan hg hf
  exact ⟨g, hg, _, hf, by decide +kernel,
    (h .pydantic).mp (by decide +kernel), mt (h .dataclass).mpr (by decide +kernel),
    (h .any).mp (by decide +kernel), mt (h .iterator).mpr (by decide +kernel)⟩

end Analysis
end DataAccess
