import DataAccess.Declaration.Enums
import DataAccess.Query.Analysis
import DataAccess.Requirements
/-!
The files to generate for a request: one with the models, and one for every file with queries.
-/

namespace DataAccess

-- What is known of a request before it is split into files.
structure Analysis where
  enums : List EnumDecl
  models : List RecordDecl
  queries : List Query

namespace Analysis

-- Enums and models are declared in the same file, so they share no names.
def combine (enums : List EnumDecl) (models : List RecordDecl) (queries : List Query) :
    Except Problem Analysis := do
  Naming.ensureUnique .type <|
    enums.map (·.name, "an enum") ++ models.map (·.name, "a table model")
  return { enums, models, queries }

variable (a : Analysis)

-- The files in which there are queries, sorted.
def sourceNames : List String :=
  ((a.queries.map (·.sourceName)).mergeSort (· ≤ ·)).eraseReps

def queriesOf (source : String) : List Query :=
  a.queries.filter (·.sourceName = source)

end Analysis

structure ModelsImport where
  package : String
  module : String

structure ModelsFile where
  name : String
  style : ModelStyle
  enums : List EnumDecl
  models : List RecordDecl
  requirements : Requirements

structure QueryFile where
  name : String
  sourceName : String
  modelsImport : ModelsImport
  queries : List Query
  declarations : List RecordDecl
  queriers : List Querier
  requirements : Requirements

structure Generation where
  version : String
  modelsFile : Option ModelsFile
  queryFiles : List QueryFile

-- `query.sql` becomes `query.py`.
def outputFileName (source : String) : String :=
  let cs := source.toList
  if ".py".toList.isSuffixOf cs then source
  else if ".sql".toList.isSuffixOf cs then .ofList (cs.take (cs.length - 4)) ++ ".py"
  else source ++ ".py"

namespace Options

def style (o : Options) : ModelStyle :=
  if o.pydanticModels then .pydantic else .dataclass

def flavors (o : Options) : List Flavor :=
  (if o.syncQuerier then [.sync] else []) ++ (if o.asyncQuerier then [.async] else [])

-- Values that no generation can honour.
def validate (o : Options) : Except Problem Unit := do
  match o.parameterLimit with
  | some n => if n < 0 then .error (.negativeParameterLimit n)
  | none => pure ()
  match o.modelsFileName with
  | some name => if Text.isBlank name then .error .blankModelsFileName
  | none => pure ()

end Options

namespace QueryFile

def ofQueries (o : Options) (source : String) (qs : List Query) : QueryFile where
  name := outputFileName source
  sourceName := source
  modelsImport := { package := o.package, module := modelsModule }
  queries := qs
  declarations := qs.flatMap (·.emitted)
  queriers := o.flavors.map (Querier.plan · qs)
  requirements := .ofQueries qs o.flavors o.style

def byName (f g : QueryFile) : Bool :=
  f.name ≤ g.name

end QueryFile

namespace Analysis

variable (a : Analysis) (o : Options)

def modelsFile : Option ModelsFile :=
  o.modelsFileName.map fun name =>
    { name, style := o.style, enums := a.enums, models := a.models
      requirements := .ofModels a.enums a.models o.style }

-- The files of queries, in the order of their sources.
def queryFiles : List QueryFile :=
  a.sourceNames.map fun source => .ofQueries o source (a.queriesOf source)

-- The names of files, with what each is generated from.
def outputEntries : List (String × String) :=
  (a.modelsFile o).toList.map (·.name, "the models file") ++
    (a.queryFiles o).map fun f => (f.name, f.sourceName)

-- Splits an analysis into files. No two files have the same name.
def assemble (version : String) : Except Problem Generation := do
  Naming.ensureUnique .outputFile (a.outputEntries o)
  return {
    version
    modelsFile := a.modelsFile o
    queryFiles := (a.queryFiles o).mergeSort QueryFile.byName }

end Analysis

namespace Generation

def fileNames (g : Generation) : List String :=
  g.modelsFile.toList.map (·.name) ++ g.queryFiles.map (·.name)

end Generation

namespace Request

variable (r : Request) (o : Options)

def scope : Scope :=
  { engine := r.settings.engine, catalog := r.catalog }

def analyze : Except Problem Analysis := do
  o.validate
  let enums ← r.catalog.enumDecls
  let models ← r.scope.models o
  let queries ← Analyzer.analyzeAll { scope := r.scope, options := o, models } r.queries
  Analysis.combine enums models queries

-- All files of a request, or the first problem on the way to them.
def generate : Except Problem Generation := do
  (← r.analyze o).assemble o r.version

end Request
end DataAccess
