import DataAccess.Querier
/-!
What a generated file has to import, found without a look at the planned methods.
-/

namespace DataAccess

-- How records are declared.
inductive ModelStyle
  | dataclass
  | pydantic
deriving DecidableEq

inductive Feature
  | dataclass
  | pydantic
  | enum
  | optional
  | list
  | any
  | decimal
  | date
  | time
  | dateTime
  | interval
  | uuid
  | iterator
  | asyncIterator
  | modelsModule
  | syncDriver
  | asyncDriver
deriving DecidableEq

def ModelStyle.text : ModelStyle → String
  | dataclass => "dataclass"
  | pydantic => "pydantic"

def ModelStyle.feature : ModelStyle → Feature
  | dataclass => .dataclass
  | pydantic => .pydantic

namespace Feature

def text : Feature → String
  | dataclass => "dataclass"
  | pydantic => "pydantic"
  | enum => "enum"
  | optional => "optional"
  | list => "list"
  | any => "any"
  | decimal => "decimal"
  | date => "date"
  | time => "time"
  | dateTime => "date_time"
  | interval => "interval"
  | uuid => "uuid"
  | iterator => "iterator"
  | asyncIterator => "async_iterator"
  | modelsModule => "models_module"
  | syncDriver => "sync_driver"
  | asyncDriver => "async_driver"

-- All features, in the order in which a file lists them.
def all : List Feature :=
  [dataclass, pydantic, enum, optional, list, any, decimal, date, time, dateTime, interval, uuid,
    iterator, asyncIterator, modelsModule, syncDriver, asyncDriver]

theorem mem_all (f : Feature) : f ∈ all := by
  cases f <;> simp [all]

end Feature

abbrev Requirements :=
  List Feature

namespace Requirements

-- A set of features: each once, in the order of all features.
def ofList (fs : List Feature) : Requirements :=
  Feature.all.filter (· ∈ fs)

@[simp]
theorem mem_ofList {f : Feature} {fs : List Feature} : f ∈ ofList fs ↔ f ∈ fs := by
  simp [ofList, Feature.mem_all]

end Requirements

def BaseType.features : BaseType → List Feature
  | dynamic => [.any]
  | decimal => [.decimal]
  | date => [.date]
  | time => [.time]
  | dateTime => [.dateTime]
  | interval => [.interval]
  | uuid => [.uuid]
  | enum r => if r.module.isSome then [.modelsModule] else []
  | integer | float | string | bytes | bool => []

def SemanticType.features (t : SemanticType) : List Feature :=
  (if t.isNullable then [.optional] else []) ++ (if t.isArray then [.list] else []) ++
    t.base.features

namespace RecordDecl

def features (r : RecordDecl) : List Feature :=
  r.fields.flatMap (·.type.features)

end RecordDecl

def QueryValue.features (v : QueryValue) : List Feature :=
  match v.typeRef? with
  | some (.scalar t) => t.features
  | some (.model _) => [.modelsModule]
  | some (.own _) | none => []

namespace Query

-- What the values of a query and the records declared for it need.
def features (q : Query) (style : ModelStyle) : List Feature :=
  q.values.flatMap (·.features) ++ q.emitted.flatMap fun r => style.feature :: r.features

-- What a method for a query needs beyond the values.
def methodFeatures (q : Query) (f : Flavor) : List Feature :=
  (match q.kind, f with
    | .fetchOne, _ => [.optional]
    | .fetchMany, .sync => [.iterator]
    | .fetchMany, .async => [.asyncIterator]
    | .exec, _ | .execRows, _ | .execResult, _ => []) ++
  if q.kind.returnsRows ∧ q.ret = .empty then [.any] else []

end Query

def Flavor.driver : Flavor → Feature
  | sync => .syncDriver
  | async => .asyncDriver

namespace Requirements

def ofModels (enums : List EnumDecl) (models : List RecordDecl) (style : ModelStyle) :
    Requirements :=
  ofList <| (if enums.isEmpty then [] else [.enum]) ++
    (if models.isEmpty then [] else [style.feature]) ++ models.flatMap (·.features)

def ofQueries (qs : List Query) (flavors : List Flavor) (style : ModelStyle) : Requirements :=
  ofList <| qs.flatMap (·.features style) ++
    flavors.flatMap fun f => f.driver :: qs.flatMap (·.methodFeatures f)

def toJson (r : Requirements) : Json :=
  .ofList (fun f => .text f.text) r

end Requirements
end DataAccess
