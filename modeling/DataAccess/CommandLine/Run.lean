import DataAccess.CommandLine.Arguments
import DataAccess.CommandLine.Summary
import DataAccess.Generation.Json
import DataAccess.Json.Print
import DataAccess.Options.File
import DataAccess.Request.Json
/-!
The program as a function from its arguments and what it can read to what it prints.
-/

namespace DataAccess

def Json.DecodeError.explain : Json.DecodeError → String
  | .malformed .ended => "the text ends too early"
  | .malformed .unexpected => "the text is not JSON"
  | e => e.message

namespace LoadError

def message : LoadError → String
  | json e => "JSON error: " ++ e.explain
  | toml => "TOML error: the text is not a table of options"
  | unreadable e => "IO error: " ++ e.message
  | notText => "IO error: stream did not contain valid UTF-8"

end LoadError

namespace CommandLine

-- The files that a command names, in the order in which they are read.
def Command.files : Command → List String
  | .generate request config _ => request.toList ++ config.toList
  | .resolve .. => []

def Command.readsInput : Command → Bool
  | .generate none _ _ => true
  | _ => false

-- What the program can see of its surroundings.
structure World where
  file : String → Except FileError ByteArray
  input : ByteArray
  color : Bool

structure Outcome where
  exit : Nat
  out : String := ""
  err : String := ""

def Outcome.ok (out : String) : Outcome :=
  { exit := 0, out }

def Outcome.failed (color : Bool) (message : String) : Outcome :=
  { exit := 1, err := Style.boldRed.paint color "Error:" ++ " " ++ message ++ "\n" }

def Outcome.ofHalt : Halt → Outcome
  | .usage => { exit := 2 }
  | .help | .version => { exit := 0 }

variable (w : World)

def World.readRequest (name : Option String) : Except String Request := do
  let bytes ←
    match name with
    | none => pure w.input
    | some name =>
      (w.file name).mapError fun e => "failed to read " ++ name ++ ": " ++ e.message
  match Request.ofBytes bytes with
  | .ok r => return r
  | .error e => .error ("invalid generation request: " ++ (LoadError.json e).message)

-- Options of a file, or else those that come with a request.
def World.readOptions (config : Option String) (r : Request) : Except String Options :=
  match config with
  | some name =>
    (Options.ofFile name (w.file name)).mapError fun e =>
      "failed to load " ++ name ++ ": " ++ e.message
  | none => (Options.ofJson r.pluginOptions).mapError fun e => (LoadError.json e).message

def World.generate (request config : Option String) (format : Format) :
    Except String String := do
  let r ← w.readRequest request
  let o ← w.readOptions config r
  let g ← (r.generate o).mapError (·.message)
  match format with
  | .json => return g.toJson.pretty ++ "\n"
  | .summary => return summary w.color r.settings.engine g

-- A type name, with a schema if there is a dot in it.
def splitTypeName (name : String) : Identifier :=
  let cs := name.toList
  match cs.dropWhile (· ≠ '.') with
  | [] => { name }
  | _ :: rest => { schema := .ofList (cs.takeWhile (· ≠ '.')), name := .ofList rest }

-- The type of a column of no table.
def resolveColumn (e : Engine) (typeName : String) (length : Int32) (notNull array : Bool) :
    SemanticType :=
  Scope.resolve { engine := e, catalog := {} }
    { type := splitTypeName typeName, length, notNull, isArray := array }

def World.execute : Command → Outcome
  | .generate request config format =>
    match w.generate request config format with
    | .ok out => .ok out
    | .error message => .failed w.color message
  | .resolve e typeName length notNull array =>
    let t := resolveColumn e typeName length notNull array
    .ok (Style.yellow.paint w.color typeName ++ " " ++
      Style.boldCyan.paint w.color ("-> " ++ t.text) ++ "\n")

def World.run (args : List String) (environment : Option String) : Outcome :=
  match parse args environment with
  | .ok c => w.execute c
  | .error h => .ofHalt h

end CommandLine
end DataAccess
