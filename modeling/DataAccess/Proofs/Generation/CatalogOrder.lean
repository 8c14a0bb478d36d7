import DataAccess.Proofs.Declaration.Reordering
import DataAccess.Proofs.Generation.Problems
import DataAccess.Proofs.Query.Resolution
/-!
The order of a catalog does not matter, but for enums that have their names in common: a type name
that means several of them is resolved to the first.
-/

namespace DataAccess
namespace Request

variable {r : Request} {c : Catalog}

-- The columns of tables, and those of queries that are not passed over.
def columns (r : Request) : List Column :=
  r.catalog.tables.flatMap (·.2.columns) ++
    (r.queries.filter (·.isNamed)).flatMap (·.allColumns)

-- The catalog is asked what the type of a column means, for it is no keyword.
structure Asks (r : Request) (col : Column) : Prop where
  mem : col ∈ r.columns
  unknown : r.settings.engine.baseType? (Text.asciiLower col.type.dataType) col.length = none

-- Of the enums that a type name means, the first is the same in another catalog.
def KeepsFirst (r : Request) (c : Catalog) : Prop :=
  ∀ col, r.Asks col → (r.catalog.meant col.type).head? = (c.meant col.type).head?

theorem resolve_eq_of_keepsFirst (hc : r.catalog.Reorders c) (h : r.KeepsFirst c) :
    ∀ col ∈ r.columns, r.scope.resolve col = { r with catalog := c }.scope.resolve col :=
  fun col hcol => Scope.resolve_eq rfl hc fun hk => h col ⟨hcol, hk⟩

theorem models_toOption_eq (hc : r.catalog.Reorders c) (h : r.KeepsFirst c) :
    (r.scope.models o).toOption = ({ r with catalog := c }.scope.models o).toOption := by
  refine Scope.models_toOption_eq hc fun s t ht col hcol => resolve_eq_of_keepsFirst hc h col ?_
  exact List.mem_append_left _ <| List.mem_flatMap.mpr ⟨(s, t), ht, hcol⟩

theorem analyzeAll_eq (hc : r.catalog.Reorders c) (h : r.KeepsFirst c) :
    Analyzer.analyzeAll ⟨r.scope, o, models⟩ r.queries =
      Analyzer.analyzeAll ⟨{ r with catalog := c }.scope, o, models⟩ r.queries := by
  rw [Analyzer.analyzeAll, Analyzer.analyzeAll, Check.mapM_congr]
  intro q hq
  by_cases hn : q.isNamed
  case pos =>
    apply Analyzer.Agrees.analyze_eq
    constructor
    case engine        => rfl
    case defaultSchema => exact hc.defaultSchema
    case options       => rfl
    case models        => rfl
    case resolve =>
      intro col hcol
      apply resolve_eq_of_keepsFirst hc h
      refine List.mem_append_right _ <| List.mem_flatMap.mpr ⟨q, ?_, hcol⟩
      exact List.mem_filter.mpr ⟨hq, hn⟩
  case neg => rw [Analyzer.analyze, Analyzer.analyze, if_neg hn, if_neg hn]

-- If no type name means two enums, the first of them is the only one.
theorem keepsFirst_of_unambiguous (hc : r.catalog.Reorders c)
    (h : ∀ col, r.Asks col → (r.catalog.meant col.type).length ≤ 1) : r.KeepsFirst c := by
  intro col hcol
  have hp := hc.meant_perm col.type
  have hl := h col hcol
  cases hm : r.catalog.meant col.type
  case nil =>
    rw [hm] at hp
    rw [List.nil_perm.mp hp]
  case cons e es =>
    rw [hm] at hl hp
    cases List.eq_nil_of_length_eq_zero (Nat.le_zero.mp <| Nat.le_of_succ_le_succ hl)
    rw [List.singleton_perm.mp hp]

theorem generate_reorder_catalog (hc : r.catalog.Reorders c) (h : r.KeepsFirst c) :
    ({ r with catalog := c }.generate o).toOption = (r.generate o).toOption := by
  have he := Check.toOption_eq_iff.mp hc.enumDecls_toOption_eq
  have hm := Check.toOption_eq_iff.mp (models_toOption_eq (o := o) hc h)
  rw [Check.toOption_eq_iff]
  intro g
  simp only [generate_eq_ok_iff, analyze_eq_ok_iff_models, he, hm, analyzeAll_eq hc h]

def reversed (r : Request) : Request :=
  { r with catalog := { r.catalog with schemas := r.catalog.schemas.reverse } }

theorem reorders_reversed (r : Request) : r.catalog.Reorders r.reversed.catalog where
  name := rfl
  comment := rfl
  defaultSchema := rfl
  schemas := by
    refine ⟨r.catalog.schemas, List.forall₂_same.mpr fun s _ => ?_, List.reverse_perm _ |>.symm⟩
    exact ⟨rfl, rfl, .refl _, .refl _⟩

theorem exists_generate_of_no_queries (hq : r.queries = []) (he : r.enumNames.Nodup)
    (hm : (r.modelNames {}).Nodup) (ht : ∀ name ∈ r.enumNames, name ∉ r.modelNames {}) :
    ∃ g, r.generate {} = .ok g := by
  apply Stage.generate_decide.ok.mpr
  intro s _
  cases s
  case options => exact ⟨nofun, by simp; decide +kernel⟩
  case enums   => exact he
  case models  => exact hm
  case queries => simp [Stage.Passes, hq]
  case types   => exact ht
  case files   => simp [Stage.Passes, HasSource, hq]

-- Two schemas, each with an enum of the same name. A table of the default one has a column of it.
def moods (type : Identifier) : Request where
  catalog := {
    defaultSchema := "public"
    schemas := [
      { name := "audit", enums := [{ name := "mood", vals := ["calm"] }] },
      { name := "public"
        tables := [{ rel := { name := "entries" }
                     columns := [{ name := "mood", notNull := true, type }] }]
        enums := [{ name := "mood", vals := ["happy"] }] }] }

-- The name with its schema means only one of the enums.
theorem generate_reorder_moods_qualified :
    ∃ g, (moods { schema := "public", name := "mood" }).generate {} = .ok g ∧
      (moods { schema := "public", name := "mood" }).reversed.generate {} = .ok g := by
  let r := moods { schema := "public", name := "mood" }
  have ⟨g, hg⟩ : ∃ g, r.generate {} = .ok g :=
    exists_generate_of_no_queries rfl (by decide +kernel) (by decide +kernel) (by decide +kernel)
  have hk : r.KeepsFirst r.reversed.catalog := by
    refine keepsFirst_of_unambiguous r.reorders_reversed fun col hcol => ?_
    cases List.mem_singleton.mp hcol.mem
    decide +kernel
  have he := generate_reorder_catalog (o := {}) r.reorders_reversed hk
  exact ⟨g, hg, Check.toOption_eq_iff.mp he g |>.mpr hg⟩

-- The bare name means both enums, so the table has that of the schema that comes first.
theorem generate_moods_reversed :
    (moods { name := "mood" }).catalog.Reorders (moods { name := "mood" }).reversed.catalog ∧
      ∃ g g', (moods { name := "mood" }).generate {} = .ok g ∧
        (moods { name := "mood" }).reversed.generate {} = .ok g' ∧ g ≠ g' := by
  let r := moods { name := "mood" }
  have ⟨g, hg⟩ : ∃ g, r.generate {} = .ok g :=
    exists_generate_of_no_queries rfl (by decide +kernel) (by decide +kernel) (by decide +kernel)
  have ⟨g', hg'⟩ : ∃ g, r.reversed.generate {} = .ok g :=
    exists_generate_of_no_queries rfl (by decide +kernel) (by decide +kernel) (by decide +kernel)
  refine ⟨r.reorders_reversed, g, g', hg, hg', fun he => ?_⟩
  have hm := models_eq_of_generate hg rfl
  have hm' := models_eq_of_generate hg' rfl
  have hn : (r.scope.models {}).toOption ≠ (r.reversed.scope.models {}).toOption := by
    decide +kernel
  exact hn <| hm.trans <| he ▸ hm'.symm

end Request
end DataAccess
