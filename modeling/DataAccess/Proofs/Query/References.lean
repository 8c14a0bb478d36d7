import DataAccess.Proofs.Query.Analysis
/-!
What queries and models refer to is declared: enums by the names of their declarations, and records
that are not emitted by a model.
-/

namespace DataAccess

def BaseType.enumRef? : BaseType → Option EnumRef
  | enum ref => some ref
  | _ => none

-- An enum is only mentioned if it is declared, and only through the given module.
def SemanticType.Declared (enums : List EnumDecl) (module : Option String) (t : SemanticType) :
    Prop :=
  ∀ ref ∈ t.base.enumRef?, ref.module = module ∧ ∃ e ∈ enums, e.name = ref.name

def RecordDecl.Declared (enums : List EnumDecl) (module : Option String) (d : RecordDecl) : Prop :=
  ∀ f ∈ d.fields, f.type.Declared enums module

namespace Keywords

theorem enumRef?_of_find? (ks : Keywords) (hk : ∀ k ∈ ks, k.2.enumRef? = none)
    (h : ks.find? name = some t) : t.enumRef? = none := by
  have ⟨k, hf, ht⟩ := Option.map_eq_some_iff.mp h
  exact ht ▸ hk k (List.mem_of_find?_eq_some hf)

theorem enumRef?_of_findStem? (ks : Keywords) (hk : ∀ k ∈ ks, k.2.enumRef? = none)
    (h : ks.findStem? name = some t) : t.enumRef? = none := by
  have ⟨k, hf, ht⟩ := Option.map_eq_some_iff.mp h
  exact ht ▸ hk k (List.mem_of_find?_eq_some hf)

end Keywords

-- No engine has a type of its own that is an enum.
theorem Engine.enumRef?_of_baseType? {name : String} (h : Engine.baseType? e name length = some t) :
    t.enumRef? = none := by
  cases e <;> simp only [baseType?] at h
  case postgresql => exact Keywords.enumRef?_of_find? .postgresql (by decide) h
  case mysql =>
    split at h
    case isTrue  => cases h; rfl
    case isFalse => exact Keywords.enumRef?_of_find? .mysql (by decide) h
  case sqlite =>
    rw [Option.orElse_eq_orElse, Option.orElse_eq_or] at h
    cases Option.or_eq_some_iff.mp h
    case inl h => exact Keywords.enumRef?_of_find? .sqlite (by decide) h
    case inr h => exact Keywords.enumRef?_of_findStem? .sqliteStems (by decide) h.right

namespace Scope

variable {sc : Scope} {enums : List EnumDecl}

theorem enumName?_declared (he : sc.catalog.enumDecls = .ok enums)
    (h : sc.enumName? i = some name) : ∃ e ∈ enums, e.name = name := by
  have ⟨(s, e), hf, hn⟩ := Option.map_eq_some_iff.mp h
  have hm := (Catalog.mem_enumDecls he).mpr ⟨s, e, List.mem_of_find?_eq_some hf, rfl⟩
  exact ⟨_, hm, hn⟩

theorem resolve_declared (he : sc.catalog.enumDecls = .ok enums) (c : Column) :
    (sc.resolve c).Declared enums (some modelsModule) := by
  intro ref h
  simp only [resolve, baseType] at h
  split at h
  case h_1 hk =>
    have hn := Engine.enumRef?_of_baseType? hk
    simp [hn] at h
  case h_2 =>
    split at h
    case h_2 => contradiction
    case h_1 hn =>
      cases h
      exact ⟨rfl, enumName?_declared he hn⟩

-- Inside the models module, the same enums are mentioned without a module.
theorem resolveLocal_declared (he : sc.catalog.enumDecls = .ok enums) (c : Column) :
    (sc.resolveLocal c).Declared enums none := by
  intro ref h
  have hr := resolve_declared he c
  simp only [resolveLocal, SemanticType.localized] at h
  cases hb : (sc.resolve c).base <;> simp only [hb, BaseType.localized] at h <;> cases h
  case enum r => exact ⟨rfl, (hr r (hb ▸ rfl)).right⟩

theorem models_declared (he : sc.catalog.enumDecls = .ok enums) (hm : sc.models o = .ok ds) :
    ∀ d ∈ ds, d.Declared enums none := by
  intro d hd f hf
  have ⟨_, _, _, ht⟩ := (mem_models hm).mp hd
  subst ht
  have ⟨c, _, hc⟩ := List.mem_map.mp hf
  exact hc ▸ resolveLocal_declared he c

end Scope
-- A record is a model unless it is emitted with its query.
def QueryValue.Declared (enums : List EnumDecl) (models : List RecordDecl) : QueryValue → Prop
  | empty => True
  | scalar _ type => type.Declared enums (some modelsModule)
  | record _ decl true => decl.Declared enums (some modelsModule)
  | record _ decl false => decl ∈ models

structure Query.Declared (q : Query) (enums : List EnumDecl) (models : List RecordDecl) : Prop where
  values : ∀ v ∈ q.values, v.Declared enums models
  -- A record is never passed along with other arguments.
  args : (∃ d, q.args = [.record "arg" d true]) ∨ ∀ v ∈ q.args, ∃ x t, v = .scalar x t

namespace Analyzer

variable {a : Analyzer} {sq : SourceQuery} {enums : List EnumDecl}

theorem recordOf_declared (he : a.scope.catalog.enumDecls = .ok enums) :
    (a.recordOf name entries).Declared enums (some modelsModule) := by
  intro f hf
  have ⟨_, _, ht⟩ := List.mem_map.mp hf
  exact ht ▸ Scope.resolve_declared he _

theorem args_declared (he : a.scope.catalog.enumDecls = .ok enums) :
    ∀ v ∈ a.args sq, v.Declared enums a.models := by
  intro v hv
  rw [args] at hv
  split at hv
  case isTrue =>
    cases List.mem_singleton.mp hv
    exact recordOf_declared he
  case isFalse =>
    have ⟨_, _, hs⟩ := List.mem_map.mp hv
    exact hs ▸ Scope.resolve_declared he _

theorem ret_declared (he : a.scope.catalog.enumDecls = .ok enums) :
    (a.ret sq).Declared enums a.models := by
  rw [ret]
  split
  case h_1 => trivial
  case h_2 => exact Scope.resolve_declared he _
  case h_3 =>
    split
    case h_1 hm => exact List.mem_of_find?_eq_some hm
    case h_2    => exact recordOf_declared he

theorem analyze_declared (he : a.scope.catalog.enumDecls = .ok enums)
    (hq : a.analyze sq = .ok (some q)) : q.Declared enums a.models := by
  have ⟨_, _, _, hq⟩ := analyze_eq_some_iff.mp hq
  subst hq
  constructor
  case values =>
    intro v hv
    cases List.mem_append.mp hv
    case inl hv => exact args_declared he v hv
    case inr hv => exact List.mem_singleton.mp hv ▸ ret_declared he
  case args =>
    rw [queryOf_args, args]
    split
    case isTrue  => exact .inl ⟨_, rfl⟩
    case isFalse =>
      refine .inr fun v hv => ?_
      have ⟨_, _, hs⟩ := List.mem_map.mp hv
      exact ⟨_, _, hs.symm⟩

end Analyzer
end DataAccess
