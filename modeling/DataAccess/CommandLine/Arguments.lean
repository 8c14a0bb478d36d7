import DataAccess.Engine
/-!
Arguments of the program. They are looked at from left to right; the first that is wrong, or that asks
for help, decides.
-/

namespace DataAccess.CommandLine

-- An option, by its long name and perhaps by a letter. It is a flag if it takes no value.
structure Switch where
  long : String
  short : Option Char := none
  takesValue : Bool := false

-- What an argument, or two of them, amount to.
inductive Item
  -- The value can stand apart, as an argument of its own.
  | switch (long : String) (value : String) (apart : Bool)
  | operand (s : String)
  | invalid
  -- A word that starts a command, with the arguments after it.
  | command (name : String) (rest : List String)

-- An argument that is none of the program's own values: a single dash is one.
def isSwitch (arg : String) : Bool :=
  match arg.toList with
  | '-' :: _ :: _ => true
  | _ => false

-- The letters of an argument such as `-vf`, of which the last can take a value.
def letters (switches : List Switch) (rest : List String) :
    List Char → List Item × Option (List String)
  | [] => ([], some rest)
  | c :: cs =>
    match switches.find? (·.short = some c) with
    | none => ([.invalid], none)
    | some s =>
      if !s.takesValue then
        let (items, rest) := letters switches rest cs
        (.switch s.long "" false :: items, rest)
      else
        match cs, rest with
        | '=' :: cs, rest => ([.switch s.long (.ofList cs) false], some rest)
        | [], value :: rest =>
          if isSwitch value then ([.invalid], none) else ([.switch s.long value true], some rest)
        | [], [] => ([.invalid], none)
        | cs, rest => ([.switch s.long (.ofList cs) false], some rest)

theorem letters_length_le (h : (letters switches rest cs).2 = some r) :
    r.length ≤ rest.length := by
  fun_induction letters switches rest cs <;> simp_all

-- An argument such as `--format` with its value.
def long (switches : List Switch) (rest : List String) (name : List Char) :
    List Item × Option (List String) :=
  let word := String.ofList (name.takeWhile (· ≠ '='))
  match switches.find? (·.long = word), name.dropWhile (· ≠ '='), rest with
  | none, _, _ => ([.invalid], none)
  | some s, _ :: value, rest =>
    if s.takesValue then ([.switch s.long (.ofList value) false], some rest) else ([.invalid], none)
  | some s, [], rest =>
    if !s.takesValue then ([.switch s.long "" false], some rest)
    else
      match rest with
      | [] => ([.invalid], none)
      | value :: rest =>
        if isSwitch value then ([.invalid], none) else ([.switch s.long value true], some rest)

theorem long_length_le (h : (long switches rest name).2 = some r) : r.length ≤ rest.length := by
  unfold long at h
  grind

-- After two dashes, all arguments are operands.
def items (switches : List Switch) (commands : List String) : List String → List Item
  | [] => []
  | arg :: rest =>
    if arg ∈ commands then [.command arg rest]
    else
      match arg.toList with
      | ['-', '-'] => rest.map .operand
      | '-' :: '-' :: name =>
        match _h : long switches rest name with
        | (found, some rest) => found ++ items switches commands rest
        | (found, none) => found
      | '-' :: c :: cs =>
        match _h : letters switches rest (c :: cs) with
        | (found, some rest) => found ++ items switches commands rest
        | (found, none) => found
      | _ => .operand arg :: items switches commands rest
termination_by args => args.length
decreasing_by
  · exact Nat.lt_succ_of_le (long_length_le (congrArg Prod.snd ‹_›))
  · exact Nat.lt_succ_of_le (letters_length_le (congrArg Prod.snd ‹_›))
  · simp

-- Whether an item is looked at only with the argument after it. An operand is, if there is room for
-- one; else it is wrong at once.
def Item.isPending (room : Bool) : Item → Bool
  | .switch _ _ apart => apart
  | .operand _ => room
  | .invalid | .command .. => false

def Item.isOperand : Item → Bool
  | .operand _ => true
  | .switch .. | .invalid | .command .. => false

-- A command does not wait for the item before it.
def commandFirst (room : Bool) : List Item → List Item
  | [] => []
  | [i, .command name rest] =>
    if i.isPending room then [.command name rest, i] else [i, .command name rest]
  | i :: is => i :: commandFirst (room && !i.isOperand) is

-- Why there is nothing to run.
inductive Halt
  | usage
  | help
  | version
deriving DecidableEq

inductive Format
  | summary
  | json
deriving DecidableEq

structure GenerateArgs where
  request : Option String := none
  config : Option String := none
  format : Option Format := none
  verbose : Bool := false

-- A type to resolve, for an engine.
structure ResolveArgs where
  engine : Option Engine := none
  typeName : Option String := none
  length : Option Int32 := none
  notNull : Bool := false
  array : Bool := false

inductive Command
  | generate (request config : Option String) (format : Format)
  | resolve (engine : Engine) (typeName : String) (length : Int32) (notNull array : Bool)

def unsignedInt? (s : List Char) : Option Int :=
  if !s.isEmpty && s.all Char.isDigit then
    some (s.foldl (fun n c => n * 10 + (c.toNat - '0'.toNat : Nat)) 0)
  else none

-- A number of 32 bits in decimal, with a sign or without.
def int32? (s : String) : Option Int32 := do
  let n ←
    match s.toList with
    | '-' :: cs => (- ·) <$> unsignedInt? cs
    | '+' :: cs => unsignedInt? cs
    | cs => unsignedInt? cs
  if Int32.minValue.toInt ≤ n ∧ n ≤ Int32.maxValue.toInt then some (.ofInt n) else none

def Format.parse : String → Option Format
  | "summary" => some summary
  | "json" => some json
  | _ => none

-- Sets what has not been set, to a value that there is.
def setOnce (old new : Option α) : Except Halt (Option α) :=
  if old.isNone && new.isSome then .ok new else .error .usage

def raise (flag : Bool) : Except Halt Bool :=
  if flag then .error .usage else .ok true

-- A path is not empty.
def path? (s : String) : Option String :=
  if s.isEmpty then none else some s

namespace ResolveArgs

def switches : List Switch :=
  [{ long := "length", takesValue := true }, { long := "not-null" }, { long := "array" },
    { long := "help", short := some 'h' }]

def add (a : ResolveArgs) : Item → Except Halt ResolveArgs
  | .switch "length" value _ => do return { a with length := ← setOnce a.length (int32? value) }
  | .switch "not-null" _ _ => do return { a with notNull := ← raise a.notNull }
  | .switch "array" _ _ => do return { a with array := ← raise a.array }
  | .switch "help" _ _ => .error .help
  | .operand s => do
    if a.engine.isNone then
      return { a with engine := ← setOnce a.engine (Engine.parse s).toOption }
    else return { a with typeName := ← setOnce a.typeName (some s) }
  | _ => .error .usage

def command (args : List String) : Except Halt Command := do
  let a ← (items switches [] args).foldlM add {}
  match a.engine, a.typeName with
  | some engine, some typeName =>
    return .resolve engine typeName (a.length.getD 0) a.notNull a.array
  | _, _ => .error .usage

end ResolveArgs

namespace GenerateArgs

def switches : List Switch :=
  [{ long := "config", short := some 'c', takesValue := true },
    { long := "format", short := some 'f', takesValue := true },
    { long := "verbose", short := some 'v' }, { long := "help", short := some 'h' },
    { long := "version", short := some 'V' }]

def commands : List String :=
  ["resolve", "help"]

-- Arguments up to a command, and the command.
def add (s : GenerateArgs × Option Command) : Item → Except Halt (GenerateArgs × Option Command)
  | .switch "config" value _ => do
    return ({ s.1 with config := ← setOnce s.1.config (path? value) }, s.2)
  | .switch "format" value _ => do
    return ({ s.1 with format := ← setOnce s.1.format (Format.parse value) }, s.2)
  | .switch "verbose" _ _ => do return ({ s.1 with verbose := ← raise s.1.verbose }, s.2)
  | .switch "help" _ _ => .error .help
  | .switch "version" _ _ => .error .version
  | .operand value => do
    return ({ s.1 with request := ← setOnce s.1.request (path? value) }, s.2)
  | .command "resolve" rest => do return (s.1, some (← ResolveArgs.command rest))
  | .command "help" rest =>
    .error (if rest.length ≤ 1 ∧ rest.all (· ∈ commands) then .help else .usage)
  | _ => .error .usage

end GenerateArgs

-- The command of a list of arguments. A configuration can also be named by the environment.
def parse (args : List String) (environment : Option String) : Except Halt Command := do
  let found := commandFirst true (items GenerateArgs.switches GenerateArgs.commands args)
  let (a, command) ← found.foldlM GenerateArgs.add ({}, none)
  let config ←
    match a.config, environment with
    | none, some value => setOnce none (path? value)
    | config, _ => pure config
  return command.getD (.generate a.request config (a.format.getD .summary))

end DataAccess.CommandLine
