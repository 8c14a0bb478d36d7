import DataAccess.Proofs.Declaration.Extraction
/-!
Catalogs with the same schemas, tables and enums in different orders. What is declared for them is
the same if types are resolved to the same enums.
-/

namespace DataAccess

-- A schema with the same tables and enums.
structure Schema.Reorders (s s' : Schema) : Prop where
  name : s.name = s'.name
  comment : s.comment = s'.comment
  tables : s.tables.Perm s'.tables
  enums : s.enums.Perm s'.enums

namespace Catalog

-- A catalog with the same schemas, up to the order of their tables and enums.
structure Reorders (c c' : Catalog) : Prop where
  name : c.name = c'.name
  comment : c.comment = c'.comment
  defaultSchema : c.defaultSchema = c'.defaultSchema
  schemas : ∃ ss, List.Forall₂ Schema.Reorders c.schemas ss ∧ ss.Perm c'.schemas

variable {c c' : Catalog}

-- Tables and enums with nothing of their schemas but the names.
def namedTables (c : Catalog) : List (String × Table) :=
  c.tables.map fun (s, t) => (s.name, t)

def namedEnums (c : Catalog) : List (String × Enumeration) :=
  c.enums.map fun (s, e) => (s.name, e)

-- The enums that a type name means, in the order of the catalog.
def meant (c : Catalog) (i : Identifier) : List (String × Enumeration) :=
  c.namedEnums.filter fun (s, e) => i.Names { name := s } e

namespace Reorders

-- What is collected from each schema is collected from all of them in a different order.
theorem flatMap_perm {f : Schema → List α} (h : Reorders c c')
    (hf : ∀ s s' : Schema, s.Reorders s' → (f s).Perm (f s')) :
    (c.visibleSchemas.flatMap f).Perm (c'.visibleSchemas.flatMap f) := by
  have hs {ss ss'} (hs : List.Forall₂ Schema.Reorders ss ss') :
      ((ss.filter (¬·.isReserved)).flatMap f).Perm ((ss'.filter (¬·.isReserved)).flatMap f) := by
    induction hs
    case nil => exact .refl _
    case cons s s' _ _ hs _ hi =>
      have hr : s.isReserved = s'.isReserved := by simp [Schema.isReserved, hs.name]
      by_cases hv : s'.isReserved
      case pos => simpa [hr, hv] using hi
      case neg => simpa [hr, hv] using (hf s s' hs).append hi
  have ⟨_, hss, hp⟩ := h.schemas
  exact hs hss |>.trans (hp.filter _ |>.flatMap_right _)

theorem namedTables_perm (h : Reorders c c') : c.namedTables.Perm c'.namedTables := by
  simp only [namedTables, tables, List.map_flatMap, List.map_map, Function.comp_def]
  exact h.flatMap_perm fun _ _ hs => hs.name ▸ hs.tables.map _

theorem namedEnums_perm (h : Reorders c c') : c.namedEnums.Perm c'.namedEnums := by
  simp only [namedEnums, enums, List.map_flatMap, List.map_map, Function.comp_def]
  exact h.flatMap_perm fun _ _ hs => hs.name ▸ hs.enums.map _

theorem meant_perm (h : Reorders c c') (i : Identifier) : (c.meant i).Perm (c'.meant i) :=
  h.namedEnums_perm.filter _

theorem qualify_eq (h : c.Reorders c') (s : Schema) (name : String) :
    c.qualify s name = c'.qualify s name := by
  rw [qualify, qualify, h.defaultSchema]

theorem enumName_eq (h : c.Reorders c') (s : Schema) (e : Enumeration) :
    c.enumName s e = c'.enumName s e :=
  congrArg Naming.typeName <| h.qualify_eq s e.name

theorem enumDecls_toOption_eq (h : c.Reorders c') :
    c.enumDecls.toOption = c'.enumDecls.toOption := by
  have he (c : Catalog) : c.enumEntries.map (·.1) =
      c.namedEnums.map fun (s, e) => .ofEnumeration c { name := s } e := by
    rw [namedEnums, enumEntries, List.map_map, List.map_map]
    rfl
  have hp : (c.enumEntries.map (·.1)).Perm (c'.enumEntries.map (·.1)) := by
    simp only [he, EnumDecl.ofEnumeration, h.enumName_eq]
    exact h.namedEnums_perm.map _
  rw [Check.toOption_eq_iff]
  intro ds
  rw [enumDecls_eq_ok_iff, enumDecls_eq_ok_iff]
  simpa [Function.comp_def] using Naming.sorts_iff_of_perm EnumDecl.name EnumDecl.byName_eq hp

end Reorders
end Catalog

namespace Scope

variable {sc sc' : Scope}

theorem enumName?_eq (i : Identifier) : sc.enumName? i =
    (sc.catalog.meant i).head?.map fun (s, e) => sc.catalog.enumName { name := s } e := by
  rw [enumName?, Catalog.meant, Catalog.namedEnums, List.filter_map, List.head?_map,
    List.head?_filter, Option.map_map]
  rfl

-- For keywords, the catalog does not matter.
theorem resolve_eq (he : sc.engine = sc'.engine) (hc : sc.catalog.Reorders sc'.catalog)
    (h : sc.engine.baseType? (Text.asciiLower col.type.dataType) col.length = none →
      (sc.catalog.meant col.type).head? = (sc'.catalog.meant col.type).head?) :
    sc.resolve col = sc'.resolve col := by
  simp only [resolve, baseType, ← he]
  cases hk : sc.engine.baseType? (Text.asciiLower col.type.dataType) col.length
  case some => rfl
  case none => simp only [enumName?_eq, h hk, hc.enumName_eq]

theorem ofTable_eq (hc : sc.catalog.Reorders sc'.catalog)
    (h : ∀ col ∈ t.columns, sc.resolve col = sc'.resolve col) :
    RecordDecl.ofTable sc o s t = .ofTable sc' o s t := by
  have hf : t.columns.map (fun col => TypedField.mk col.name (sc.resolveLocal col) col.comment) =
      t.columns.map fun col => .mk col.name (sc'.resolveLocal col) col.comment :=
    List.map_congr_left fun col hcol => by rw [resolveLocal, resolveLocal, h col hcol]
  simp only [RecordDecl.ofTable, Options.modelName, hc.qualify_eq, hf]

theorem models_toOption_eq (hc : sc.catalog.Reorders sc'.catalog)
    (h : ∀ s t, (s, t) ∈ sc.catalog.tables → ∀ col ∈ t.columns, sc.resolve col = sc'.resolve col) :
    (sc.models o).toOption = (sc'.models o).toOption := by
  have hm (sc : Scope) : (sc.modelEntries o).map (·.1) =
      sc.catalog.namedTables.map fun (s, t) => .ofTable sc o { name := s } t := by
    rw [Catalog.namedTables, modelEntries, List.map_map, List.map_map]
    rfl
  have ht : ∀ e ∈ sc.catalog.namedTables,
      RecordDecl.ofTable sc o { name := e.1 } e.2 = .ofTable sc' o { name := e.1 } e.2 := by
    intro e he
    obtain ⟨⟨s, t⟩, ht, rfl⟩ := List.mem_map.mp he
    exact ofTable_eq hc <| h s t ht
  have hp : ((sc.modelEntries o).map (·.1)).Perm ((sc'.modelEntries o).map (·.1)) := by
    rw [hm, hm, List.map_congr_left ht]
    exact hc.namedTables_perm.map _
  rw [Check.toOption_eq_iff]
  intro ds
  rw [models_eq_ok_iff, models_eq_ok_iff]
  simpa [Function.comp_def] using Naming.sorts_iff_of_perm RecordDecl.name RecordDecl.byName_eq hp

end Scope
end DataAccess
