import DataAccess.CommandLine.Run
/-!
The program: reads what its arguments name, and prints.
-/

open DataAccess CommandLine

namespace DataAccess

-- The number of an error, which can be reported with either sign.
def errorNumber (code : UInt32) : UInt32 :=
  if code < 0x80000000 then code else -code

def FileError.ofIO (e : IO.Error) : FileError :=
  match e with
  | .noFileOrDirectory .. => .missing
  | .inappropriateType _ code _ => if errorNumber code = 20 then .notDirectory else .directory
  | .invalidArgument _ code _ =>
    if errorNumber code = 36 then .nameTooLong else .other e.toString
  | e => .other e.toString

def readFile (name : String) : IO (Except FileError ByteArray) := do
  try return .ok (← IO.FS.readBinFile name)
  catch e => return .error (.ofIO e)

partial def readAll (s : IO.FS.Stream) (before : ByteArray) : IO ByteArray := do
  let bytes ← s.read 65536
  if bytes.isEmpty then return before else readAll s (before ++ bytes)

-- Colours are for terminals, unless the environment asks for them or against them.
def wantsColor : IO Bool := do
  match ← IO.getEnv "CLICOLOR_FORCE", ← IO.getEnv "NO_COLOR", ← IO.getEnv "CLICOLOR" with
  | some force, no, use =>
    if force ≠ "0" then return true
    else return no.isNone && use ≠ some "0" && (← (← IO.getStdout).isTty)
  | none, some _, _ => return false
  | none, none, use => return use ≠ some "0" && (← (← IO.getStdout).isTty)

end DataAccess

def main (args : List String) : IO UInt32 := do
  let environment ← IO.getEnv "SQLC_IR_CONFIG"
  let command := (parse args environment).toOption
  let input ←
    if (command.map (·.readsInput)).getD false then readAll (← IO.getStdin) .empty
    else pure .empty
  let names := (command.map (·.files)).getD []
  let files ← names.mapM fun name => return (name, ← readFile name)
  let w : World := {
    file := fun name => (files.lookup name).getD (.error .missing)
    input
    color := ← wantsColor }
  let outcome := w.run args environment
  IO.print outcome.out
  IO.eprint outcome.err
  return .ofNat outcome.exit
