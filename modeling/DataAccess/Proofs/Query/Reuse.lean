import DataAccess.Proofs.Query.Analysis
/-!
When a result is a model. The first model that fits is the only one: a column of a result names its
table, and no two tables share the names of schema and table once all models are distinct.
-/

namespace DataAccess

-- The columns of a result are those of a table, in their order. A nameless one goes by its place.
structure Scope.Selects (sc : Scope) (columns : List Column) (s : Schema) (t : Table) : Prop where
  length : t.columns.length = columns.length
  column : ∀ i tc c, t.columns[i]? = some tc → columns[i]? = some c →
    tc.name = (if c.name = "" then "column_" ++ toString (i + 1) else c.name) ∧
    sc.resolveLocal tc = sc.resolveLocal c ∧
    ∃ ref ∈ c.table, ref.catalog = "" ∧
      (if ref.schema.isEmpty then sc.catalog.defaultSchema else ref.schema) = s.name ∧
      ref.name = t.rel.name

theorem Naming.columnName_eq (c : Column) (i : Nat) :
    columnName c i = if c.name = "" then "column_" ++ toString (i + 1) else c.name := by
  simp only [columnName, String.isEmpty_iff]

-- The first column of a result tells which table this is.
theorem Scope.Selects.names_eq {sc : Scope} {columns : List Column} {s s' : Schema} {t t' : Table}
    (h : sc.Selects columns s t) (h' : sc.Selects columns s' t') (hn : columns ≠ []) :
    (s.name, t.rel.name) = (s'.name, t'.rel.name) := by
  have hl := List.length_pos_iff.mpr hn
  have hc := List.getElem?_eq_getElem hl
  have ht := List.getElem?_eq_getElem (h.length ▸ hl)
  have ht' := List.getElem?_eq_getElem (h'.length ▸ hl)
  have ⟨_, _, ref, hr, _, hs, hname⟩ := h.column _ _ _ ht hc
  have ⟨_, _, ref', hr', _, hs', hname'⟩ := h'.column _ _ _ ht' hc
  cases Option.mem_unique hr hr'
  rw [← hs, ← hname, hs', hname']

namespace Analyzer

variable {a : Analyzer} {sq : SourceQuery} {sc : Scope} {columns : List Column} {m : RecordDecl}

theorem fits_iff : a.fits columns m ↔ ∃ table ∈ m.table, m.fields.length = columns.length ∧
    ∀ i f c, m.fields[i]? = some f → columns[i]? = some c → a.Matches table f c i := by
  rw [fits]
  cases m.table
  case none => simp
  case some table =>
    simp only [Bool.and_eq_true, decide_eq_true_eq, List.all_eq_true, Prod.forall,
      List.mk_mem_zipIdx_iff_getElem?, List.getElem?_zip_eq_some, and_imp, Option.mem_some_iff,
      exists_eq_left']
    exact and_congr_right fun _ => ⟨fun h i f c => h f c i, fun h f c i => h i f c⟩

theorem fits_ofTable_iff :
    a.fits columns (.ofTable a.scope o s t) ↔ a.scope.Selects columns s t := by
  simp only [fits_iff, RecordDecl.ofTable, Option.mem_some_iff, exists_eq_left', List.length_map,
    List.getElem?_map, Option.map_eq_some_iff, matches_iff, Identifier.refersTo_iff,
    Naming.columnName_eq]
  constructor
  case mp  => exact fun h => ⟨h.left, fun i tc c ht hc => h.right i _ c ⟨tc, ht, rfl⟩ hc⟩
  case mpr =>
    refine fun h => ⟨h.length, ?_⟩
    rintro i _ c ⟨tc, ht, rfl⟩ hc
    exact h.column i tc c ht hc

-- A model is found exactly if its table is selected: no other table is.
theorem findModel?_eq_some_iff (ha : sc.analyzer o = .ok a) (hn : columns ≠ []) :
    a.findModel? columns = some m ↔ ∃ s t, (s, t) ∈ sc.catalog.tables ∧
      sc.Selects columns s t ∧ RecordDecl.ofTable sc o s t = m := by
  have ⟨hs, _, hm⟩ := Scope.analyzer_eq_ok_iff.mp ha
  subst hs
  constructor
  case mp =>
    intro h
    have ⟨s, t, ht, hd⟩ := (Scope.mem_models hm).mp (List.mem_of_find?_eq_some h)
    subst hd
    exact ⟨s, t, ht, fits_ofTable_iff.mp (List.find?_some h), rfl⟩
  case mpr =>
    intro ⟨s, t, ht, h, hd⟩
    subst hd
    have hf : (a.findModel? columns).isSome :=
      List.find?_isSome.mpr ⟨_, (Scope.mem_models hm).mpr ⟨s, t, ht, rfl⟩, fits_ofTable_iff.mpr h⟩
    have ⟨m, hf⟩ := Option.isSome_iff_exists.mp hf
    have ⟨s', t', ht', hd'⟩ := (Scope.mem_models hm).mp (List.mem_of_find?_eq_some hf)
    subst hd'
    have he := h.names_eq (fits_ofTable_iff.mp (List.find?_some hf)) hn
    have he := List.inj_on_of_nodup_map (Scope.tables_nodup_of_models hm) ht ht' he
    injection he with hs ht
    rw [hf, hs, ht]

theorem ret_of_two_le (hn : 2 ≤ sq.columns.length) : a.ret sq =
    match a.findModel? sq.columns with
    | some m => .record "i" m false
    | none => .record "i" (a.recordOf (sq.name ++ "Row") sq.columnEntries) true := by
  rw [ret]
  match h : sq.columns with
  | []          => simp [h] at hn
  | [_]         => simp [h] at hn
  | _ :: _ :: _ => rfl

-- A result of several columns is a model exactly if it has the shape of a table. There is at most
-- one such table, and the model is that of the table. Any other result is a record of its own.
theorem ret_model_iff (ha : sc.analyzer o = .ok a) (hq : a.analyze sq = .ok (some q))
    (hn : 2 ≤ sq.columns.length) :
    ((∃ d, q.ret = .record "i" d false) ↔
      ∃ s t, (s, t) ∈ sc.catalog.tables ∧ sc.Selects sq.columns s t) ∧
    (∀ (i : Nat) s t, sc.catalog.tables[i]? = some (s, t) → sc.Selects sq.columns s t →
      RecordDecl.ofTable sc o s t ∈ a.models ∧ q.ret = .record "i" (.ofTable sc o s t) false ∧
      ∀ (j : Nat) s' t', sc.catalog.tables[j]? = some (s', t') → sc.Selects sq.columns s' t' →
        j = i) ∧
    ((¬∃ s t, (s, t) ∈ sc.catalog.tables ∧ sc.Selects sq.columns s t) →
      ∃ d : RecordDecl, d.name = sq.name ++ "Row" ∧ q.ret = .record "i" d true) := by
  have hne : sq.columns ≠ [] := by
    rintro h
    simp [h] at hn
  have hf {m} := findModel?_eq_some_iff (m := m) ha hne
  have ⟨_, _, _, hret⟩ := analyze_eq_some_iff.mp hq
  rw [← hret, queryOf_ret, ret_of_two_le hn]
  refine ⟨?reused, ?only, ?own⟩
  case reused =>
    cases hm : a.findModel? sq.columns
    case none =>
      simp only [QueryValue.record.injEq, Bool.true_eq_false, and_false, exists_false, false_iff]
      exact fun ⟨s, t, ht, h⟩ => absurd (hf.mpr ⟨s, t, ht, h, rfl⟩) (by simp [hm])
    case some m =>
      have ⟨s, t, ht, h, _⟩ := hf.mp hm
      exact iff_of_true ⟨m, rfl⟩ ⟨s, t, ht, h⟩
  case only =>
    intro i s t hi h
    have hm := hf.mpr ⟨s, t, List.mem_of_getElem? hi, h, rfl⟩
    refine ⟨List.mem_of_find?_eq_some hm, by rw [hm], fun j s' t' hj h' => ?_⟩
    have hd := Scope.tables_nodup_of_models (Scope.analyzer_eq_ok_iff.mp ha).right.right
    have ⟨hl, _⟩ := List.getElem?_eq_some_iff.mp hj
    apply (List.getElem?_inj (by simpa using hl) hd).mp
    rw [List.getElem?_map, List.getElem?_map, hi, hj]
    exact congrArg some (h'.names_eq h hne)
  case own =>
    intro h
    have hm : a.findModel? sq.columns = none :=
      Option.eq_none_iff_forall_ne_some.mpr fun m hm =>
        have ⟨s, t, ht, hs, _⟩ := hf.mp hm
        h ⟨s, t, ht, hs⟩
    rw [hm]
    exact ⟨_, rfl, rfl⟩

-- Two tables in each of two schemas. One of them has a column as a nameless one is called.
def authors : Table where
  rel := { name := "authors" }
  columns := [{ name := "id", type := { name := "int4" } }, { name := "name" }]

def tallies : Table where
  rel := { name := "tallies" }
  columns := [{ name := "id", type := { name := "int4" } }, { name := "column_2" }]

def library : Scope where
  engine := .postgresql
  catalog := {
    defaultSchema := "public"
    schemas := [
      { name := "public", tables := [authors, tallies] },
      { name := "old", tables := [authors, tallies] }] }

def oldTallies : SourceQuery where
  name := "OldTallies"
  cmd := ":many"
  columns := [
    { name := "id", type := { name := "int4" }
      table := some { schema := "old", name := "tallies" } },
    { table := some { schema := "old", name := "tallies" } }]

theorem ret_model_old_tallies : ∃ a q,
    library.analyzer {} = .ok a ∧ a.analyze oldTallies = .ok (some q) ∧
      q.ret = .record "i" (.ofTable library {} { name := "old" } tallies) false := by
  have ⟨a, ha⟩ := Check.isOk_iff.mp (by decide +kernel : (library.analyzer {}).isOk)
  have hq : a.analyze oldTallies = .ok (some _) :=
    analyze_eq_some_iff.mpr ⟨by decide +kernel, .fetchMany, by rfl, rfl⟩
  let s : Schema := { name := "old", tables := [authors, tallies] }
  have hs : library.Selects oldTallies.columns s tallies :=
    fits_ofTable_iff (a := ⟨library, {}, []⟩) (o := {}) |>.mp (by decide +kernel)
  have ⟨_, only, _⟩ := ret_model_iff ha hq (by decide)
  exact ⟨a, _, ha, hq, (only 3 _ _ rfl hs).right.left⟩

end Analyzer
end DataAccess
