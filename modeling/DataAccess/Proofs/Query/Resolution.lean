import DataAccess.Proofs.Naming.Allocation
import DataAccess.Proofs.Query.Reuse
/-!
Analysis depends on a catalog through its models, its default schema and the types of columns.
-/

namespace DataAccess

namespace SourceQuery

variable {q : SourceQuery}

-- The columns that are resolved for a query.
def allColumns (q : SourceQuery) : List Column :=
  q.columns ++ q.params.map (·.column)

theorem mem_of_paramEntries (h : e ∈ q.paramEntries) : e.2.2 ∈ q.allColumns := by
  have ⟨p, hp, he⟩ := List.mem_map.mp h
  exact he ▸ List.mem_append_right _ (List.mem_map_of_mem hp)

theorem mem_of_columnEntries (h : e ∈ q.columnEntries) : e.2.2 ∈ q.allColumns := by
  have ⟨(_, _), hc, he⟩ := List.mem_map.mp h
  exact he ▸ List.mem_append_left _ (List.fst_mem_of_mem_zipIdx hc)

end SourceQuery

namespace Analyzer

-- Two analyzers make no difference between columns of a list.
structure Agrees (a a' : Analyzer) (cols : List Column) : Prop where
  engine : a.scope.engine = a'.scope.engine
  defaultSchema : a.scope.catalog.defaultSchema = a'.scope.catalog.defaultSchema
  options : a.options = a'.options
  models : a.models = a'.models
  resolve : ∀ col ∈ cols, a.scope.resolve col = a'.scope.resolve col

namespace Agrees

variable {a a' : Analyzer} {cols : List Column} {sq : SourceQuery}
variable {es : List (Int32 × String × Column)}

theorem resolve_allocated (h : a.Agrees a' cols) (hs : ∀ e ∈ es, e.2.2 ∈ cols)
    (he : e ∈ Naming.Allocator.allocateAll {} es) : a.scope.resolve e.2 = a'.scope.resolve e.2 := by
  have ⟨e', he, hc⟩ := Naming.Allocator.exists_mem_of_mem_allocateAll he
  exact h.resolve _ <| hc ▸ hs e' he

theorem recordOf_eq (h : a.Agrees a' cols) (hs : ∀ e ∈ es, e.2.2 ∈ cols) :
    a.recordOf name es = a'.recordOf name es := by
  refine congrArg (RecordDecl.mk none name · "") <| List.map_congr_left fun e he => ?_
  simp only [h.resolve_allocated hs he]

theorem args_eq (h : a.Agrees a' sq.allColumns) : a.args sq = a'.args sq := by
  have hs : ∀ e ∈ sq.paramEntries, e.2.2 ∈ sq.allColumns := fun _ => sq.mem_of_paramEntries
  have hp : a.Packs sq ↔ a'.Packs sq := by rw [Packs, Packs, h.options]
  by_cases hk : a.Packs sq
  case pos => rw [args, args, if_pos hk, if_pos (hp.mp hk), h.recordOf_eq hs]
  case neg =>
    rw [args, args, if_neg hk, if_neg (mt hp.mpr hk)]
    refine List.map_congr_left fun e he => ?_
    simp only [h.resolve_allocated hs he]

theorem matches_iff (h : a.Agrees a' cols) (hc : col ∈ cols) :
    a.Matches table f col i ↔ a'.Matches table f col i := by
  simp only [Analyzer.matches_iff, Scope.resolveLocal, h.resolve col hc, h.defaultSchema]

theorem fits_eq (h : a.Agrees a' cols) (hs : ∀ col ∈ columns, col ∈ cols) (m : RecordDecl) :
    a.fits columns m = a'.fits columns m := by
  rw [Bool.eq_iff_iff, fits_iff, fits_iff]
  refine exists_congr fun _ => and_congr_right fun _ => and_congr_right fun _ => ?_
  exact forall₅_congr fun _ _ col _ hc => h.matches_iff <| hs col <| List.mem_of_getElem? hc

theorem ret_eq (h : a.Agrees a' sq.allColumns) : a.ret sq = a'.ret sq := by
  have hs : ∀ e ∈ sq.columnEntries, e.2.2 ∈ sq.allColumns := fun _ => sq.mem_of_columnEntries
  have hc : ∀ col ∈ sq.columns, col ∈ sq.allColumns := fun _ => List.mem_append_left _
  have hf : a.findModel? sq.columns = a'.findModel? sq.columns := by
    rw [findModel?, findModel?, h.models]
    exact congrArg (List.find? · _) <| funext <| h.fits_eq hc
  rw [ret, ret]
  split
  case h_1 => rfl
  case h_2 col hq => rw [h.resolve col <| hc col (hq ▸ .head _)]
  case h_3 => rw [hf, h.recordOf_eq hs]

theorem analyze_eq (h : a.Agrees a' sq.allColumns) : a.analyze sq = a'.analyze sq := by
  simp only [analyze, queryOf, h.args_eq, h.ret_eq, h.engine]

end Agrees
end Analyzer
end DataAccess
