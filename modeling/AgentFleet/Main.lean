import Std.Time.DateTime.Timestamp
import AgentFleet.CommandLine.Outcome

/-!
# The program

Reads the files that a command names, runs the command and prints what comes of
it.
-/

namespace AgentFleet
namespace Program

/-- What is said about a file that cannot be read, with the number of the error.
-/
def describe : IO.Error → String
  | .noFileOrDirectory _ _ _ => "No such file or directory (os error 2)"
  | .permissionDenied _ _ _ => "Permission denied (os error 13)"
  | .inappropriateType _ _ "Is a directory" => "Is a directory (os error 21)"
  | .inappropriateType _ _ "not a directory" => "Not a directory (os error 20)"
  | .invalidArgument _ _ "name too long" => "File name too long (os error 36)"
  | .userError _ => "stream did not contain valid UTF-8"
  | e => toString e

/-- Read a file. -/
def readText (path : String) : IO CommandLine.FileText := do
  try return .ok (← IO.FS.readFile path)
  catch e => return .error (describe e)

/-- Read several files under their names. -/
def readTexts
    (paths : List String) : IO (List (String × CommandLine.FileText)) :=
  paths.mapM fun path => do return (path, ← readText path)

/-- Thirty-two random hexadecimal digits. -/
def randomDigits : IO String := do
  return Text.hexPadded 32 (← IO.rand 0 (Nat.pow 2 128 - 1))

/-- Seconds since the beginning of 1970. -/
def clock : IO UInt64 := do
  return UInt64.ofNat
    (← Std.Time.Timestamp.now).toSecondsSinceUnixEpoch.val.toNat

/-- Run the program with the given arguments. -/
def run (args : List String) : IO UInt32 := do
  let invocation := CommandLine.Invocation.ofArguments args
  let paths := match invocation with
    | .run c => c.files
    | _ => []
  let texts ← readTexts paths
  let file := fun path => (List.lookup path texts).getD (.error "not read")
  let outcome :=
    invocation.execute (← clock) ⟨← randomDigits, ← randomDigits⟩ file
  IO.print outcome.stdout
  if !outcome.stderr.isEmpty then IO.eprintln outcome.stderr
  return outcome.exitCode

end Program
end AgentFleet

/-- The entry point. -/
def main (args : List String) : IO UInt32 :=
  AgentFleet.Program.run args
