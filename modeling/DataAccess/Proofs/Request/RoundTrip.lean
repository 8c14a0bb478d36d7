import DataAccess.Options.File
import DataAccess.Proofs.Json.Bounds
import DataAccess.Proofs.Json.Documents
import DataAccess.Proofs.Request.Records
/-!
Requests and options are the same after they were printed and read again.
-/

namespace DataAccess

open Json

theorem Json.ofInt32_exact (n : Int32) : (ofInt32 n).Numbers Number.Exact := by
  have hl : -2 ^ 31 ≤ n.toInt := n.minValue_le_toInt
  have hu : n.toInt < 2 ^ 31 := Int.lt_of_le_sub_one n.toInt_le
  have hm : Int64.minValue.toInt = -2 ^ 63 := rfl
  have hs : (UInt64.size : Int) = 2 ^ 64 := rfl
  exact .number ⟨trivial, by omega, by omega⟩

theorem Json.texts_exact {ss : List String} : (texts ss).Numbers p := by
  simp [texts]

theorem Identifier.toJson_exact (i : Identifier) : i.toJson.Numbers p := by
  simp [toJson]

theorem Column.toJson_exact (c : Column) : c.toJson.Numbers Number.Exact := by
  simp [toJson, ofInt32_exact, Identifier.toJson_exact]

theorem Table.toJson_exact (t : Table) : t.toJson.Numbers Number.Exact := by
  simp [toJson, Identifier.toJson_exact, Column.toJson_exact]

theorem Enumeration.toJson_exact (e : Enumeration) : e.toJson.Numbers p := by
  simp [toJson, texts_exact]

theorem Schema.toJson_exact (s : Schema) : s.toJson.Numbers Number.Exact := by
  simp [toJson, Table.toJson_exact, Enumeration.toJson_exact]

theorem Catalog.toJson_exact (c : Catalog) : c.toJson.Numbers Number.Exact := by
  simp [toJson, Schema.toJson_exact]

theorem Parameter.toJson_exact (p : Parameter) : p.toJson.Numbers Number.Exact := by
  simp [toJson, ofInt32_exact, Column.toJson_exact]

theorem SourceQuery.toJson_exact (q : SourceQuery) : q.toJson.Numbers Number.Exact := by
  simp [toJson, Column.toJson_exact, Parameter.toJson_exact, texts_exact]

theorem Settings.toJson_exact (s : Settings) : s.toJson.Numbers p := by
  simp [toJson, Engine.toJson]

theorem Options.toJson_exact (o : Options) : o.toJson.Numbers Number.Exact := by
  simp [toJson, texts_exact, ofInt32_exact]

namespace Request

theorem toJson_exact {r : Request} (h : r.pluginOptions.Numbers Number.Exact) :
    r.toJson.Numbers Number.Exact := by
  simp [toJson, Settings.toJson_exact, Catalog.toJson_exact, SourceQuery.toJson_exact, h]

-- The plugin's options are a value that was read.
theorem pluginOptions_kept {r : Request} {bytes : ByteArray} (h : ofBytes bytes = .ok r) :
    Kept optionsDepth r.pluginOptions ∧ r.pluginOptions.Numbers Number.Fits := by
  have ⟨a, ha, hr⟩ := Check.bind_eq_ok_iff.mp h
  split at hr
  case isTrue => contradiction
  cases hr
  let p (r : Request) := Kept optionsDepth r.pluginOptions ∧ r.pluginOptions.Numbers Number.Fits
  have hb : p shape.blank := ⟨.null, .null⟩
  have hf : ∀ f ∈ shape.fields, f.Preserves Number.Fits p := by
    simp only [shape, List.forall_mem_cons]
    refine ⟨?_, ?_, ?_, ?_, ?_, nofun⟩
    case refine_5 => exact Field.optional_preserves fun _ _ _ hv _ h => hv.kept h
    all_goals exact Field.optional_preserves fun _ _ _ _ hp _ => hp
  exact Shape.decode_preserves (p := p) hf hb (Document.ofBytes_fits bytes) ha

theorem ofBytes_compact {r : Request} {bytes : ByteArray} (h : ofBytes bytes = .ok r)
    (hw : r.pluginOptions.Numbers Number.IsWhole) :
    ofBytes r.toJson.compact.toUTF8 = .ok r := by
  have ⟨hk, hf⟩ := pluginOptions_kept h
  have hd : Document.ofBytes r.toJson.compact.toUTF8 = ⟨.ofJson r.toJson, false⟩ :=
    Document.ofString_compact <| toJson_exact (hw.and hf)
  rw [ofBytes, hd, Document.decode, decode_toJson hk.toJson_ofJson]
  rfl

end Request

theorem Options.ofJsonText_compact (o : Options) : ofJsonText o.toJson.compact = .ok o := by
  have ⟨_, hm, hp⟩ := o.puts_toJson
  have ho : shape.decode (.ofJson o.toJson) = .ok o := by
    rw [hm]
    exact Shape.decode_eq_ok (by decide) (.refl _) hp
  rw [ofJsonText, ofDocument, Document.ofString_compact o.toJson_exact, Document.decode, ho]
  rfl

-- Options are read from text and, in whatever order their members are, from a value.
theorem Request.read_printed :
    (∀ bytes r, ofBytes bytes = .ok r → r.pluginOptions.Numbers Number.IsWhole →
      ofBytes r.toJson.compact.toUTF8 = .ok r) ∧
    ∀ o : Options, Options.ofJsonText o.toJson.compact = .ok o ∧
      ∃ ms, o.toJson = .record ms ∧ ∀ ms', ms.Perm ms' → Options.ofJson (.record ms') = .ok o := by
  refine ⟨fun _ _ => ofBytes_compact, fun o => ⟨o.ofJsonText_compact, ?_⟩⟩
  have ⟨ms, hm, _⟩ := o.puts_toJson
  exact ⟨ms, hm, fun _ => Options.ofJson_of_perm hm⟩

-- A request as it may be written. Members have another order, and most of them are missing.
def bookshopJson : Json :=
  .record [
    ("queries", .list [.record [
      ("name", .text "FindBook"), ("cmd", .text ":one"), ("text", .text "SELECT isbn FROM books"),
      ("params", .list [.record [
        ("column", .record [("name", .text "id")]), ("number", ofInt32 1)]]),
      ("columns", .list [.record [
        ("table", .record [("name", .text "books")]), ("name", .text "isbn")]])]]),
    ("plugin_options", .record [("out", .text "db"), ("a", .list [ofInt32 4])]),
    ("settings", .record [("engine", .text "sqlite")]),
    ("catalog", .record [
      ("schemas", .list [.record [
        ("name", .text "main"),
        ("tables", .list [.record [
          ("columns", .list [
            .record [("name", .text "id"), ("not_null", .bool true)],
            .record [("length", ofInt32 13), ("name", .text "isbn")]]),
          ("rel", .record [("name", .text "books")])]]),
        ("enums", .list [.record [
          ("vals", .list [.text "verse", .text "prose"]), ("name", .text "genre")]])]]),
      ("default_schema", .text "main")])]

def bookshop : Request where
  settings := { engine := .sqlite }
  catalog := {
    defaultSchema := "main"
    schemas := [{
      name := "main"
      tables := [{ rel := { name := "books" }
                   columns := [{ name := "id", notNull := true }, { name := "isbn", length := 13 }] }]
      enums := [{ name := "genre", vals := ["verse", "prose"] }] }] }
  queries := [{
    text := "SELECT isbn FROM books", name := "FindBook", cmd := ":one"
    columns := [{ name := "isbn", table := some { name := "books" } }]
    params := [{ number := 1, column := { name := "id" } }] }]
  pluginOptions := .record [("a", .list [ofInt32 4]), ("out", .text "db")]

theorem Request.read_printed_bookshop :
    ofBytes bookshopJson.compact.toUTF8 = .ok bookshop ∧
      bookshop.pluginOptions.Numbers Number.IsWhole ∧
      ofBytes bookshop.toJson.compact.toUTF8 = .ok bookshop ∧
      let o : Options := { modelsFileName := none }
      Options.ofJsonText o.toJson.compact = .ok o ∧
        ∃ ms, o.toJson = .record ms ∧ Options.ofJson (.record ms.reverse) = .ok o := by
  have hr : ofBytes bookshopJson.compact.toUTF8 = .ok bookshop := by
    have hd : Document.ofBytes bookshopJson.compact.toUTF8 = ⟨.ofJson bookshopJson, false⟩ :=
      Document.ofString_compact (by simp [bookshopJson, ofInt32_exact])
    rw [ofBytes, hd]
    rfl
  have hn : (ofInt32 4).Numbers Number.IsWhole := .number trivial
  have hw : bookshop.pluginOptions.Numbers Number.IsWhole := by simp [bookshop, hn]
  obtain ⟨ho, ms, hm, hp⟩ := read_printed.right { modelsFileName := none }
  exact ⟨hr, hw, read_printed.left _ _ hr hw, ho, ms, hm, hp _ ms.reverse_perm.symm⟩

end DataAccess
