import DataAccess.Proofs.Generation.Problems
import DataAccess.Proofs.Query.Resolution
/-!
Schemas of the system are invisible: what they declare has no effect on what is generated, and
neither has their absence, even where the rest of a request refers to them.
-/

namespace DataAccess

-- Schemas of the system are left out or declare something else. All others are kept.
inductive Schema.Veils : List Schema → List Schema → Prop
  | nil : Veils [] []
  | keep (s : Schema) : Veils ss ss' → Veils (s :: ss) (s :: ss')
  | erase {s : Schema} : s.isReserved → Veils ss ss' → Veils (s :: ss) ss'
  | refill {s : Schema} (tables : List Table) (enums : List Enumeration) :
    s.isReserved → Veils ss ss' → Veils (s :: ss) ({ s with tables, enums } :: ss')

namespace Schema.Veils

variable {ss ss' : List Schema}

theorem filter_eq (h : Veils ss ss') :
    ss.filter (¬·.isReserved) = ss'.filter (¬·.isReserved) := by
  induction h
  case nil => rfl
  case keep s _ hi =>
    rw [List.filter_cons, List.filter_cons, hi]
  case erase hs _ hi =>
    rw [List.filter_cons_of_neg (by simpa using hs), hi]
  case refill s tables enums hs _ hi =>
    have hs' : { s with tables, enums }.isReserved := hs
    rw [List.filter_cons_of_neg (by simpa using hs), List.filter_cons_of_neg (by simpa using hs'),
      hi]

-- All of them can be left out at once.
theorem of_filter : Veils ss (ss.filter (¬·.isReserved)) := by
  induction ss
  case nil => exact .nil
  case cons s ss hi =>
    by_cases hs : s.isReserved
    case pos =>
      rw [List.filter_cons_of_neg (by simpa using hs)]
      exact hi.erase hs
    case neg =>
      rw [List.filter_cons_of_pos (by simpa using hs)]
      exact hi.keep s

end Schema.Veils

namespace Catalog

def withoutSystem (c : Catalog) : Catalog :=
  { c with schemas := c.visibleSchemas }

-- Two catalogs that are the same but for what schemas of the system declare.
structure LooksLike (c c' : Catalog) : Prop where
  defaultSchema : c.defaultSchema = c'.defaultSchema
  visibleSchemas : c.visibleSchemas = c'.visibleSchemas

namespace LooksLike

variable {c c' : Catalog}

theorem enums_eq (h : c.LooksLike c') : c.enums = c'.enums := by
  rw [enums, enums, h.visibleSchemas]

theorem tables_eq (h : c.LooksLike c') : c.tables = c'.tables := by
  rw [tables, tables, h.visibleSchemas]

theorem qualify_eq (h : c.LooksLike c') (s : Schema) (name : String) :
    c.qualify s name = c'.qualify s name := by
  rw [qualify, qualify, h.defaultSchema]

theorem enumName_eq (h : c.LooksLike c') (s : Schema) (e : Enumeration) :
    c.enumName s e = c'.enumName s e :=
  congrArg Naming.typeName <| h.qualify_eq s e.name

theorem enumDecls_eq (h : c.LooksLike c') : c.enumDecls = c'.enumDecls := by
  have he : c.enumEntries = c'.enumEntries := by
    simp only [enumEntries, EnumDecl.ofEnumeration, h.enums_eq, h.enumName_eq]
  rw [enumDecls, enumDecls, he]

end LooksLike
end Catalog

namespace Scope

variable {sc sc' : Scope}

theorem resolve_eq_of_looksLike (hc : sc.catalog.LooksLike sc'.catalog)
    (he : sc.engine = sc'.engine) (col : Column) : sc.resolve col = sc'.resolve col := by
  have hn : sc.enumName? col.type = sc'.enumName? col.type := by
    simp only [enumName?, hc.enums_eq, hc.enumName_eq]
  rw [resolve, resolve, baseType, baseType, he, hn]

theorem models_eq_of_looksLike (hc : sc.catalog.LooksLike sc'.catalog)
    (he : sc.engine = sc'.engine) (o : Options) : sc.models o = sc'.models o := by
  have hm : sc.modelEntries o = sc'.modelEntries o := by
    simp only [modelEntries, RecordDecl.ofTable, Options.modelName, resolveLocal, hc.tables_eq,
      hc.qualify_eq, resolve_eq_of_looksLike hc he]
  rw [models, models, hm]

end Scope

namespace Request

variable {r : Request} {c : Catalog}

theorem analyzeAll_eq_of_looksLike (h : r.catalog.LooksLike c) (o : Options)
    (models : List RecordDecl) : Analyzer.analyzeAll ⟨r.scope, o, models⟩ r.queries =
      Analyzer.analyzeAll ⟨{ r with catalog := c }.scope, o, models⟩ r.queries := by
  have hs : r.scope.catalog.LooksLike { r with catalog := c }.scope.catalog := h
  rw [Analyzer.analyzeAll, Analyzer.analyzeAll, Check.mapM_congr]
  intro q _
  apply Analyzer.Agrees.analyze_eq
  constructor
  case engine        => rfl
  case defaultSchema => exact h.defaultSchema
  case options       => rfl
  case models        => rfl
  case resolve       => exact fun col _ => Scope.resolve_eq_of_looksLike hs rfl col

theorem generate_eq_of_looksLike (h : r.catalog.LooksLike c) (o : Options) :
    { r with catalog := c }.generate o = r.generate o := by
  have hs : r.scope.catalog.LooksLike { r with catalog := c }.scope.catalog := h
  simp only [generate, analyze, h.enumDecls_eq, Scope.models_eq_of_looksLike hs rfl,
    analyzeAll_eq_of_looksLike h]

theorem generate_eq_of_veils (h : Schema.Veils r.catalog.schemas ss) (o : Options) :
    { r with catalog := { r.catalog with schemas := ss } }.generate o = r.generate o := by
  have hc : r.catalog.LooksLike { r.catalog with schemas := ss } := ⟨rfl, h.filter_eq⟩
  exact generate_eq_of_looksLike hc o

-- Schemas of the system can all be left out, and any of them can be left out or declare something
-- else. The result is the same, also where it is a problem.
theorem generate_withoutSystem (r : Request) (o : Options) :
    { r with catalog := r.catalog.withoutSystem }.generate o = r.generate o ∧
    ∀ ss, Schema.Veils r.catalog.schemas ss →
      { r with catalog := { r.catalog with schemas := ss } }.generate o = r.generate o :=
  ⟨generate_eq_of_veils .of_filter o, fun _ h => generate_eq_of_veils h o⟩

-- The default schema is one of the system. A table elsewhere and a query refer to what it declares.
def journal : Request where
  catalog := {
    defaultSchema := "pg_catalog"
    schemas := [
      { name := "pg_catalog"
        tables := [{ rel := { name := "moods" }
                     columns := [{ name := "id" }, { name := "mood" }] }]
        enums := [{ name := "mood", vals := ["calm"] }] },
      { name := "app"
        tables := [{ rel := { name := "entries" }
                     columns := [{ name := "mood"
                                   type := { schema := "pg_catalog", name := "mood" } }] }] }] }
  queries := [{
    name := "ListMoods", cmd := ":many", filename := "moods.sql"
    columns := [{ name := "id", table := some { name := "moods" } },
      { name := "mood", table := some { name := "moods" }, type := { name := "mood" } }] }]

-- The schema of the system declares another enum of the same name, and no table.
def journalSchemas : List Schema :=
  { name := "pg_catalog", enums := [{ name := "mood", vals := ["happy", "sad"] }] } ::
    journal.catalog.schemas.tail

theorem generate_withoutSystem_journal : ∃ g, journal.generate {} = .ok g ∧
    { journal with catalog := journal.catalog.withoutSystem }.generate {} = .ok g ∧
    { journal with catalog := { journal.catalog with schemas := journalSchemas } }.generate {} =
      .ok g := by
  have ⟨g, hg⟩ : ∃ g, journal.generate {} = .ok g :=
    Stage.generate_decide.ok.mpr (by decide +kernel)
  have ⟨hw, hv⟩ := generate_withoutSystem journal {}
  have hs : Schema.Veils journal.catalog.schemas journalSchemas :=
    .refill [] [{ name := "mood", vals := ["happy", "sad"] }] rfl (.keep _ .nil)
  exact ⟨g, hg, hw.trans hg, (hv _ hs).trans hg⟩

end Request
end DataAccess
