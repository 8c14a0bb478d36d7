import DataAccess.Options
import DataAccess.Toml.Document
/-!
Options as TOML. Nothing is said about what is wrong with a document.
-/

namespace DataAccess

namespace Toml.Value

def text? : Value → Option String
  | text s => some s
  | _ => none

def boolean? : Value → Option Bool
  | boolean b => some b
  | _ => none

def int32? : Value → Option Int32
  | integer n =>
    if Int32.minValue.toInt ≤ n ∧ n ≤ Int32.maxValue.toInt then some (.ofInt n) else none
  | _ => none

def texts? : Value → Option (List String)
  | list vs => vs.mapM (·.text?)
  | _ => none

-- A member of a table, or the default if it is missing.
def member (t : Value) (name : String) (read? : Value → Option α) (default : α) : Option α :=
  match t.find? name with
  | none => some default
  | some v => read? v

end Toml.Value

namespace Options

open Toml.Value in
def ofTable (t : Toml.Value) : Option Options := do
  let o : Options := {}
  return {
    exactTableNames := ← t.member "emit_exact_table_names" boolean? o.exactTableNames
    inflectionExclusions :=
      ← t.member "inflection_exclude_table_names" texts? o.inflectionExclusions
    parameterLimit :=
      ← t.member "query_parameter_limit" (some <$> int32? ·) o.parameterLimit
    pydanticModels := ← t.member "emit_pydantic_models" boolean? o.pydanticModels
    syncQuerier := ← t.member "emit_sync_querier" boolean? o.syncQuerier
    asyncQuerier := ← t.member "emit_async_querier" boolean? o.asyncQuerier
    package := ← t.member "package" text? o.package
    out := ← t.member "out" text? o.out
    modelsFileName := ← t.member "output_models_file_name" (some <$> text? ·) o.modelsFileName }

def ofToml (text : String) : Option Options := do
  ofTable (← Toml.read? text)

end Options
end DataAccess
