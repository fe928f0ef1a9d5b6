import LlamaGateway.CommandLine.Run
import Std.Time.Zoned

/-!
# The program

The outer layer: it collects arguments, environment, file and date, runs the command and prints.
There is no transport, so every request fails as if the provider could not be reached.
-/

namespace LlamaGateway

namespace Program

/-- A network without a transport. -/
def network : Network :=
  fun _ _ => .error "no transport is available"

/-- The date of this moment. -/
def today : IO CalendarDate := do
  let date := (← Std.Time.PlainDateTime.now).date
  match CalendarDate.of? date.year.toInt date.month.val date.day.val with
  | some today => return today
  | none => throw (IO.userError "the date of this machine is out of range")

/-- Random bytes as thirty-two digits with dashes between their groups; version and variant mark
them as random. -/
def identifier : IO String := do
  let bytes := (← IO.getRandomBytes 16).toList
  let mark (position : Nat) (byte : UInt8) : Nat :=
    if position = 6 then 0x40 + byte.toNat % 0x10
    else if position = 8 then 0x80 + byte.toNat % 0x40
    else byte.toNat
  let digits := (bytes.mapIdx mark).flatMap fun value =>
    [Text.hexDigit (value / 16), Text.hexDigit (value % 16)]
  let group (first count : Nat) := (digits.drop first).take count
  return String.ofList
    (Text.joinWith ['-'] [group 0 8, group 8 4, group 12 4, group 16 4, group 20 12])

/-- The variables with the given names. -/
def environment (names : List String) : IO Environment := do
  let values ← names.filterMapM fun name => do
    return (← IO.getEnv name).map fun value => (name, value.toUTF8.toList)
  return ⟨values⟩

/-- The contents of a file, if it can be read. -/
def contents (path : String) : IO (Option String) := do
  try
    let text ← IO.FS.readFile path
    return some text
  catch _ => return none

/-- The variables that the command line itself reads. -/
def ownVariables : List String :=
  [CommandLine.configVariable, CommandLine.apiKeyVariable]

/-- The configuration file of a command line, with its contents. -/
def configFile (own : Environment) (arguments : List String) :
    IO (Option (String × Option String)) := do
  match CommandLine.invocation (fun name => own.bindings.lookup name) arguments with
  | .ok ⟨some path, _, _⟩ =>
    match CommandLine.textOf? path with
    | some path => return some (path, ← contents path)
    | none => return none
  | _ => return none

/-- What a run depends on. -/
def world (arguments : List String) : IO CommandLine.World := do
  let own ← environment ownVariables
  let file ← configFile own arguments
  let text := (file.bind Prod.snd).getD ""
  let names := ownVariables ++ (Placeholder.variableNames text.toList).map String.ofList
  return ⟨← environment names, fun _ => file.bind Prod.snd, network, ← today, ← identifier⟩

/-- The text of a failure for the error output. -/
def report : CommandLine.Failure → String
  | .refused refusal =>
    match refusal.message? with
    | some message => "error: " ++ message
    | none =>
      "usage: llama-gateway [--config FILE] [--api-key KEY] complete|chat MODEL TEXT [options]"
  | .config error =>
    "Error: " ++ error.message ++
      match error.cause? with
      | some cause => "\n\nCaused by:\n    " ++ cause
      | none => ""
  | .call error => "error: " ++ error.message

end Program

end LlamaGateway

/-- Runs the command of a list of arguments. -/
def main (arguments : List String) : IO UInt32 := do
  let outcome := LlamaGateway.CommandLine.run (← LlamaGateway.Program.world arguments) arguments
  IO.print outcome.output
  match outcome.failure with
  | some failure => IO.eprintln (LlamaGateway.Program.report failure)
  | none => pure ()
  return UInt32.ofNat outcome.status
