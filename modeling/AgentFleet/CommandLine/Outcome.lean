import AgentFleet.CommandLine.Command
import AgentFleet.Settings.File

/-!
# Outcomes

What the program prints, and the code it exits with, is a function of its
arguments and of the texts of the files they name.
-/

namespace AgentFleet
namespace CommandLine

/-- The text of a file, or what the system says about why there is none. -/
abbrev FileText := Except String String

/-- What the program leaves behind. -/
structure Outcome where
  exitCode : UInt32
  stdout : String
  stderr : String
deriving DecidableEq, Repr

namespace Outcome

/-- Success, with lines to show. -/
def success (lines : List String) : Outcome :=
  ⟨0, String.join (lines.map (· ++ "\n")), ""⟩

/-- A text up to its first line end, which is a line feed, perhaps behind a
carriage return. -/
def firstLine (s : String) : String :=
  let line := s.toList.takeWhile (· != '\n')
  String.ofList (if line.getLast? = some '\r' then line.dropLast else line)

/-- Failure, with what was being done and why it failed; of several causes each
led to the one before. -/
def failure (context : String) (causes : List String) : Outcome :=
  let numbered : List String :=
    match causes with
    | [cause] => ["    " ++ cause]
    | _ =>
      causes.mapIdx fun n cause => "    " ++ Text.decimal n ++ ": " ++ cause
  ⟨1, "",
    "\n".intercalate
      (["Error: " ++ context] ++
          if causes.isEmpty then [] else ["", "Caused by:"] ++ numbered)⟩

/-- Failure to make sense of the text of a file, which is reported on one line.
-/
def unreadable (context : String) : Outcome :=
  failure (firstLine context) []

end Outcome

/-- A list on one line. -/
def inLine (xs : List String) : String :=
  if xs.isEmpty then "(none)" else ", ".intercalate xs

/-- The lines that sum up settings. -/
def overview (s : Settings) : List String :=
  ["  server url:         " ++ s.serverUrl,
      "  cluster:            " ++ s.clusterName,
      "  plugin id:          " ++ s.pluginId,
      "  linux stop policy:  " ++ (s.stopPolicy .linux).name,
      "  windows stop policy: " ++ (s.stopPolicy .windows).name,
      "  subnets:            " ++ inLine s.subnets,
      "  security groups:    " ++ inLine s.securityGroups,
      "  reconcile every:    " ++ Text.decimal s.reconcileInterval.toNat ++
        "s"] ++
  s.log.toList.map (fun log => "  log driver:         " ++ log.driver) ++
  if s.environment.isEmpty then []
  else ["  extra environment:  " ++ ", ".intercalate s.environment.keys]

/-- The settings at a path. -/
def settingsAt (path : String) (text : FileText) : Except Outcome Settings :=
  let context := "loading settings from " ++ path
  match text with
  | .error e =>
    .error (.failure context ["failed to read settings file: " ++ e, e])
  | .ok text =>
    match Settings.parse text with
    | .ok s => .ok s
    | .error .parse => .error (.unreadable context)
    | .error e => .error (.failure context [e.message])

/-- The request at a path. -/
def requestAt (path : String) (text : FileText) : Except Outcome AgentRequest :=
  match text with
  | .error e => .error (.failure ("reading request " ++ path) [e])
  | .ok text =>
    match AgentRequest.parse? text with
    | some r => .ok r
    | none => .error (.unreadable ("parsing request " ++ path))

/-- What comes of printing the registration for a request. -/
def registrationOutcome
    (fresh : Identity) (server : String) (s : Settings) (r : AgentRequest) :
    Outcome :=
  match Specification.ofRequest fresh.agentName r s server with
  | .error e => .failure e.message []
  | .ok spec => .success [spec.registration.toJson.indented]

/-- What comes of trying a request out. -/
def simulationOutcome
    (now : UInt64) (fresh : Identity) (s : Settings) (r : AgentRequest)
    (c : Simulation.Conditions) : Outcome :=
  match Simulation.run now fresh s r c with
  | .error e => .failure e.message []
  | .ok report => .success (report.lines ++ report.closing)

namespace Command

/-- Carry out a command, given the texts of all files. -/
def execute
    (now : UInt64) (fresh : Identity) (file : String → FileText) (c : Command) :
    Outcome :=
  let outcome : Except Outcome Outcome :=
    match c with
    | .validate path => do
      let s ← settingsAt path (file path)
      return .success (("✓ " ++ path ++ " is valid") :: overview s)
    | .plan settings request server => do
      let s ← settingsAt settings (file settings)
      let r ← requestAt request (file request)
      return registrationOutcome fresh server s r
    | .simulate settings request conditions => do
      let s ← settingsAt settings (file settings)
      let r ← requestAt request (file request)
      return simulationOutcome now fresh s r conditions
  match outcome with
  | .ok o => o
  | .error o => o

/-- The files that a command reads. -/
def files : Command → List String
  | .validate settings => [settings]
  | .plan settings request _ => [settings, request]
  | .simulate settings request _ => [settings, request]

end Command

/-- How the program is used. -/
def usage : String :=
  "Usage: ecs-elastic [--log-format <text|json>] <command>\n\n" ++
  "  validate --settings <file>\n" ++
  "  plan --settings <file> --request <file> [--server-id <id>]\n" ++
  "  simulate --settings <file> --request <file> [--server-id <id>] " ++
  "[--fail-launch] [--reject-capacity]\n"

/-- Carry out what the arguments ask for, given the texts of all files. -/
def Invocation.execute
    (now : UInt64) (fresh : Identity) (file : String → FileText) :
    Invocation → Outcome
  | .run c => c.execute now fresh file
  | .version name => .success [name ++ " " ++ programVersion]
  | .help => ⟨0, usage, ""⟩
  | .misuse => ⟨2, "", usage⟩

end CommandLine
end AgentFleet
