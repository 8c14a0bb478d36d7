import DataAccess.Proofs.Query.Reuse
/-!
Results that are all columns of a table. A column tells the table it is from by the same identifier
as the model of the table, unless this identifier means something else where it is used: a reference
without a schema is one to the default schema.
-/

namespace DataAccess

-- The identifier of a table itself. Tables of the default schema do without its name.
structure Identifier.Spells (i : Identifier) (c : Catalog) (s : Schema) (t : Table) : Prop where
  catalog : i.catalog = t.rel.catalog
  schema : i.schema = s.name ∨ i.schema = "" ∧ s.name = c.defaultSchema
  name : i.name = t.rel.name

namespace Identifier.Spells

variable {i : Identifier} {c : Catalog} {s : Schema} {t : Table}

-- Without a name, a schema can only be referred to if it is the default one.
theorem schema_eq (h : i.Spells c s t) (hs : s.name = "" → c.defaultSchema = "") :
    (if i.schema.isEmpty then c.defaultSchema else i.schema) = s.name := by
  by_cases he : i.schema = ""
  case neg => simpa [he] using h.schema
  case pos =>
    rw [if_pos (String.isEmpty_iff.mpr he)]
    cases h.schema
    case inl h => rw [← h, he, hs (h ▸ he)]
    case inr h => exact h.right.symm

end Identifier.Spells

-- The columns of a result are all those of a table with several columns, as the table has them.
structure Scope.SelectsAll (sc : Scope) (columns : List Column) (s : Schema) (t : Table) :
    Prop where
  table : (s, t) ∈ sc.catalog.tables
  several : 2 ≤ t.columns.length
  named : ∀ c ∈ t.columns, c.name ≠ ""
  columns : List.Forall₂
    (fun tc c => ∃ ref : Identifier, ref.Spells sc.catalog s t ∧ { tc with table := some ref } = c)
    t.columns columns

namespace Scope.SelectsAll

variable {sc : Scope} {columns : List Column} {s : Schema} {t : Table} {ref : Identifier}

theorem selects (h : sc.SelectsAll columns s t) (hc : t.rel.catalog = "")
    (hs : s.name = "" → sc.catalog.defaultSchema = "") : sc.Selects columns s t where
  length := h.columns.length_eq
  column i tc c ht hcol := by
    have ⟨hi, ht⟩ := List.getElem?_eq_some_iff.mp ht
    have ⟨hj, hcol⟩ := List.getElem?_eq_some_iff.mp hcol
    have ⟨ref, hr, he⟩ := h.columns.get hi hj
    simp only [List.get_eq_getElem, ht, hcol] at he
    subst he
    have hn : tc.name ≠ "" := h.named tc (ht ▸ List.getElem_mem hi)
    refine ⟨by simp [hn], rfl, ref, rfl, ?_⟩
    exact ⟨hr.catalog.trans hc, hr.schema_eq hs, hr.name⟩

-- All columns may have the same reference.
theorem of_spells (ht : (s, t) ∈ sc.catalog.tables) (hl : 2 ≤ t.columns.length)
    (hn : ∀ c ∈ t.columns, c.name ≠ "") (h : ref.Spells sc.catalog s t) :
    sc.SelectsAll (t.columns.map ({ · with table := some ref })) s t where
  table := ht
  several := hl
  named := hn
  columns := by
    rw [List.forall₂_map_right_iff, List.forall₂_same]
    exact fun _ _ => ⟨ref, h, rfl⟩

end Scope.SelectsAll

namespace Analyzer

variable {sc : Scope} {a : Analyzer} {sq : SourceQuery} {kind : QueryKind}
variable {s : Schema} {t : Table}

-- Of the arguments, at most the packed parameters are emitted.
theorem name_of_emitted_args (h : d ∈ (a.args sq).filterMap (·.emitted?)) :
    d.name = sq.name ++ "Params" := by
  rw [args] at h
  split at h
  case isTrue  => rw [List.mem_singleton.mp h, recordOf]
  case isFalse => simp [QueryValue.emitted?] at h

-- Where all columns of a table are selected, its model is what is returned, and there is no record
-- of the result to be emitted.
theorem analyze_of_selectsAll (ha : sc.analyzer o = .ok a) (h : sc.SelectsAll sq.columns s t)
    (hc : t.rel.catalog = "") (hs : s.name = "" → sc.catalog.defaultSchema = "")
    (hn : sq.name ≠ "") (hk : kind.tag = sq.cmd) : ∃ q, a.analyze sq = .ok (some q) ∧
      RecordDecl.ofTable sc o s t ∈ a.models ∧ q.ret = .record "i" (.ofTable sc o s t) false ∧
      ∀ d ∈ q.emitted, d.name = sq.name ++ "Params" := by
  have hl : 2 ≤ sq.columns.length := h.columns.length_eq ▸ h.several
  have hne : sq.columns ≠ [] := List.ne_nil_of_length_pos (by omega)
  have hm : a.findModel? sq.columns = some (.ofTable sc o s t) :=
    findModel?_eq_some_iff ha hne |>.mpr ⟨s, t, h.table, h.selects hc hs, rfl⟩
  have hr : a.ret sq = .record "i" (.ofTable sc o s t) false := by rw [ret_of_two_le hl, hm]
  refine ⟨_, analyze_of_tag hn hk, List.mem_of_find?_eq_some hm, hr, fun d hd => ?_⟩
  rw [Query.emitted_eq, queryOf_args, queryOf_ret, hr] at hd
  exact name_of_emitted_args (by simpa [QueryValue.emitted?] using hd)

-- All authors, as the table is referred to.
def allAuthors (ref : Identifier) : SourceQuery where
  name := "AllAuthors"
  cmd := ":many"
  columns := authors.columns.map ({ · with table := some ref })

-- There are two tables of this name. Without a schema, it is the one of the default schema.
theorem analyze_allAuthors : ∃ a q,
    library.analyzer {} = .ok a ∧ a.analyze (allAuthors { name := "authors" }) = .ok (some q) ∧
      RecordDecl.ofTable library {} { name := "public" } authors ∈ a.models ∧
      q.ret = .record "i" (.ofTable library {} { name := "public" } authors) false ∧
      ∀ d ∈ q.emitted, d.name = "AllAuthors" ++ "Params" := by
  let s : Schema := { name := "public", tables := [authors, tallies] }
  let sq := allAuthors { name := "authors" }
  have ⟨a, ha⟩ := Check.isOk_iff.mp (by decide +kernel : (library.analyzer {}).isOk)
  have hs : s ∈ library.catalog.visibleSchemas :=
    library.catalog.mem_visibleSchemas.mpr ⟨.head _, by decide⟩
  have ht : (s, authors) ∈ library.catalog.tables :=
    library.catalog.mem_tables.mpr ⟨hs, .head _⟩
  have hs : library.SelectsAll sq.columns s authors :=
    .of_spells ht (by decide) (by decide) ⟨rfl, .inr ⟨rfl, rfl⟩, rfl⟩
  have ⟨q, hq, h⟩ := analyze_of_selectsAll ha hs rfl (by decide) (by decide : sq.name ≠ "")
    (rfl : QueryKind.fetchMany.tag = _)
  exact ⟨a, q, ha, hq, h⟩

-- A database of one schema, which is the default one if it is called public.
def single (s : Schema) : Scope where
  engine := .postgresql
  catalog := { defaultSchema := "public", schemas := [s] }

theorem tables_single (hs : ¬s.isReserved) (ht : s.tables = [t]) :
    (single s).catalog.tables = [(s, t)] := by
  simp [single, Catalog.tables, Catalog.visibleSchemas, hs, ht]

theorem analyzer_single (hs : ¬s.isReserved) (ht : s.tables = [t]) :
    (single s).analyzer o = .ok ⟨single s, o, [.ofTable (single s) o s t]⟩ := by
  simp [Scope.analyzer_eq_ok_iff, Scope.models_eq_ok_iff, Scope.modelEntries, tables_single hs ht]

-- Two ways to be missed by references that spell the table: the schema without a name is out of
-- reach, and the model of a table does without the catalog that a reference has.
def nameless : Schema where
  tables := [authors]

def archived : Table where
  rel := { catalog := "archive", name := "authors" }
  columns := authors.columns

def archive : Schema where
  name := "public"
  tables := [archived]

theorem single_missed (hs : ¬s.isReserved) (ht : s.tables = [t]) (hc : t.columns = authors.columns)
    (hr : ref.Spells (single s).catalog s t)
    (hm : (Analyzer.mk (single s) {} [.ofTable (single s) {} s t]).findModel?
      (allAuthors ref).columns = none) :
    ∃ a q d, (single s).analyzer {} = .ok a ∧
      (single s).SelectsAll (allAuthors ref).columns s t ∧
      a.analyze (allAuthors ref) = .ok (some q) ∧ q.ret = .record "i" d true := by
  have hq : (allAuthors ref).columns = t.columns.map ({ · with table := some ref }) := hc ▸ rfl
  have hsel : (single s).SelectsAll (allAuthors ref).columns s t :=
    hq ▸ .of_spells (tables_single hs ht ▸ .head _) (hc ▸ by decide) (hc ▸ by decide) hr
  have hl : 2 ≤ (allAuthors ref).columns.length := by simp [allAuthors, authors]
  have hret := ret_of_two_le (a := ⟨single s, {}, [.ofTable (single s) {} s t]⟩) hl
  rw [hm] at hret
  have hn : (allAuthors ref).name ≠ "" := (by decide : "AllAuthors" ≠ "")
  exact ⟨_, _, _, analyzer_single hs ht, hsel,
    analyze_of_tag hn (rfl : QueryKind.fetchMany.tag = _), hret⟩

theorem analyze_selectsAll_missed :
    (∃ a q d, (single nameless).analyzer {} = .ok a ∧
      (single nameless).SelectsAll (allAuthors { name := "authors" }).columns nameless authors ∧
      a.analyze (allAuthors { name := "authors" }) = .ok (some q) ∧ q.ret = .record "i" d true) ∧
    (∃ a q d, (single archive).analyzer {} = .ok a ∧
      (single archive).SelectsAll (allAuthors archived.rel).columns archive archived ∧
      a.analyze (allAuthors archived.rel) = .ok (some q) ∧ q.ret = .record "i" d true) := by
  constructor
  case left  =>
    exact single_missed (by decide) rfl rfl ⟨rfl, .inl rfl, rfl⟩ (by decide +kernel)
  case right =>
    exact single_missed (by decide) rfl rfl ⟨rfl, .inr ⟨rfl, rfl⟩, rfl⟩ (by decide +kernel)

end Analyzer
end DataAccess
