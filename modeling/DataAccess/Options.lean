import DataAccess.Text.Blank
/-!
What a user can choose about the generated code.
-/

namespace DataAccess

structure Options where
  exactTableNames : Bool := false
  -- Tables whose names are kept in the plural.
  inflectionExclusions : List String := []
  parameterLimit : Option Int32 := none
  pydanticModels : Bool := false
  syncQuerier : Bool := false
  asyncQuerier : Bool := false
  package : String := ""
  out : String := ""
  -- Without a name there is no models file.
  modelsFileName : Option String := some "models.py"
deriving DecidableEq

namespace Options

def defaultParameterLimit : Int32 :=
  4

-- Up to how many parameters are separate arguments.
def limit (o : Options) : Nat :=
  (o.parameterLimit.getD defaultParameterLimit).toInt.toNat

-- A single choice, as a caller makes it.
inductive Choice
  | exactTableNames (b : Bool)
  | excludeInflection (table : String)
  | parameterLimit (n : Int32)
  | pydanticModels (b : Bool)
  | syncQuerier (b : Bool)
  | asyncQuerier (b : Bool)
  | package (s : String)
  | modelsFileName (s : Option String)

def choose (o : Options) : Choice → Options
  | .exactTableNames b => { o with exactTableNames := b }
  | .excludeInflection t => { o with inflectionExclusions := o.inflectionExclusions ++ [t] }
  | .parameterLimit n => { o with parameterLimit := some n }
  | .pydanticModels b => { o with pydanticModels := b }
  | .syncQuerier b => { o with syncQuerier := b }
  | .asyncQuerier b => { o with asyncQuerier := b }
  | .package s => { o with package := s }
  | .modelsFileName s => { o with modelsFileName := s }

end Options
end DataAccess
