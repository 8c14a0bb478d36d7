import DataAccess.Options.Json
import DataAccess.Proofs.Json.Fields
import DataAccess.Request.Json
/-!
Records of a request and options are read back from what is written for them.
-/

namespace DataAccess

open Json Decoder Field.Puts

theorem Engine.decode_reads : Engine.decode.Reads Engine.toJson := by
  intro e
  cases e <;> rfl

theorem Identifier.decode_reads : Identifier.shape.decode.Reads Identifier.toJson :=
  fun _ => Shape.decode_eq_ok (by decide) (.refl _) <|
    optional (text_reads _) <| optional (text_reads _) <| optional (text_reads _) .nil

theorem Column.decode_reads : Column.shape.decode.Reads Column.toJson :=
  fun _ => Shape.decode_eq_ok (by decide) (.refl _) <|
    optional (text_reads _) <| optional (bool_reads _) <| optional (bool_reads _) <|
    optional (text_reads _) <| optional (int32_reads _) <|
    optional (option_reads Identifier.decode_reads nofun _) <|
    optional (Identifier.decode_reads _) .nil

theorem Table.decode_reads : Table.shape.decode.Reads Table.toJson :=
  fun _ => Shape.decode_eq_ok (by decide) (.refl _) <|
    mandatory (Identifier.decode_reads _) <| optional (list_reads Column.decode_reads _) <|
    optional (text_reads _) .nil

theorem Enumeration.decode_reads : Enumeration.shape.decode.Reads Enumeration.toJson :=
  fun _ => Shape.decode_eq_ok (by decide) (.refl _) <|
    mandatory (text_reads _) <| optional (list_reads text_reads _) <| optional (text_reads _) .nil

theorem Schema.decode_reads : Schema.shape.decode.Reads Schema.toJson :=
  fun _ => Shape.decode_eq_ok (by decide) (.refl _) <|
    mandatory (text_reads _) <| optional (text_reads _) <|
    optional (list_reads Table.decode_reads _) <|
    optional (list_reads Enumeration.decode_reads _) .nil

theorem Catalog.decode_reads : Catalog.shape.decode.Reads Catalog.toJson :=
  fun _ => Shape.decode_eq_ok (by decide) (.refl _) <|
    optional (text_reads _) <| optional (text_reads _) <| optional (text_reads _) <|
    optional (list_reads Schema.decode_reads _) .nil

theorem Parameter.decode_reads : Parameter.shape.decode.Reads Parameter.toJson :=
  fun _ => Shape.decode_eq_ok (by decide) (.refl _) <|
    mandatory (int32_reads _) <| optional (Column.decode_reads _) .nil

theorem SourceQuery.decode_reads : SourceQuery.shape.decode.Reads SourceQuery.toJson :=
  fun _ => Shape.decode_eq_ok (by decide) (.refl _) <|
    optional (text_reads _) <| optional (text_reads _) <| optional (text_reads _) <|
    optional (list_reads Column.decode_reads _) <|
    optional (list_reads Parameter.decode_reads _) <| optional (list_reads text_reads _) <|
    optional (text_reads _) .nil

theorem Settings.decode_reads : Settings.shape.decode.Reads Settings.toJson :=
  fun _ => Shape.decode_eq_ok (by decide) (.refl _) <| optional (Engine.decode_reads _) .nil

namespace Request

-- All but the plugin's options can be anything.
theorem decode_toJson {r : Request}
    (h : (Node.ofJson r.pluginOptions).toJson optionsDepth = .ok r.pluginOptions) :
    shape.decode (.ofJson r.toJson) = .ok r :=
  Shape.decode_eq_ok (by decide) (.refl _) <|
    optional (Settings.decode_reads _) <| optional (Catalog.decode_reads _) <|
    optional (list_reads SourceQuery.decode_reads _) <| optional (text_reads _) <|
    optional h .nil

end Request

namespace Options

theorem puts_toJson (o : Options) : ∃ ms, o.toJson = .record ms ∧
    Field.Puts shape.fields ms shape.blank o :=
  ⟨_, rfl, optional (bool_reads _) <| optional (list_reads text_reads _) <|
    optional (option_reads int32_reads nofun _) <| optional (bool_reads _) <|
    optional (bool_reads _) <| optional (bool_reads _) <| optional (text_reads _) <|
    optional (text_reads _) <| optional (option_reads text_reads nofun _) .nil⟩

theorem fields_commute : shape.fields.Pairwise Field.Commutes := by
  simp only [shape, List.pairwise_cons, List.forall_mem_cons, List.not_mem_nil, false_imp_iff,
    implies_true, List.Pairwise.nil, and_true]
  and_intros <;> exact Field.optional_commutes fun _ _ _ => rfl

-- A value has its members in any order.
theorem ofJson_of_perm {o : Options} (hm : o.toJson = .record ms) (hp : ms.Perm ms') :
    ofJson (.record ms') = .ok o := by
  have ⟨_, ho, h⟩ := o.puts_toJson
  cases hm.symm.trans ho
  exact Shape.decode_eq_ok_of_perm (by decide) fields_commute h hp

end Options
end DataAccess
