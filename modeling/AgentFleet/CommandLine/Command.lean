import AgentFleet.CommandLine.Argument
import AgentFleet.Simulation

/-!
# Commands

Three commands check a settings file, print the registration that a request
would lead to, and try a request out.  Each has options of its own besides those
that all of them have.
-/

namespace AgentFleet
namespace CommandLine

/-- A command. -/
inductive Command where
  /-- Check a settings file and sum it up. -/
  | validate (settings : String)
  /-- Print the registration for a request. -/
  | plan (settings request server : String)
  /-- Try a request out. -/
  | simulate (settings request : String) (conditions : Simulation.Conditions)
deriving DecidableEq, Repr

/-- The server that is assumed if none is named. -/
def defaultServer : String := "ecs-elastic-local"

/-- The name of the program. -/
def program : String := "ecs-elastic"

/-- The version of the program. -/
def programVersion : String := "0.1.0"

/-- The name of a command. -/
inductive Verb where
  | validate
  | plan
  | simulate
deriving DecidableEq, Repr

namespace Verb

/-- The word for a command. -/
def name : Verb → String
  | .validate => "validate"
  | .plan => "plan"
  | .simulate => "simulate"

/-- The command with the given name. -/
def ofName? (s : String) : Option Verb :=
  [validate, plan, simulate].find? (·.name == s)

/-- The options of a command, besides those that all of them have. -/
def flags : Verb → List Flag
  | .validate => [.settings]
  | .plan => [.settings, .request, .serverId]
  | .simulate => [.settings, .request, .serverId, .failLaunch, .rejectCapacity]

/-- The server that the options name. -/
def serverOf (g : Given) : String :=
  (g.get? .serverId).getD defaultServer

/-- The command with the given options, if those that it needs are among them.
-/
def command? (g : Given) : Verb → Option Command
  | .validate => do
    return .validate (← g.get? .settings)
  | .plan => do
    return .plan (← g.get? .settings) (← g.get? .request) (serverOf g)
  | .simulate => do
    return .simulate (← g.get? .settings) (← g.get? .request)
      { server := serverOf g
        failLaunch := g.has .failLaunch
        rejectCapacity := g.has .rejectCapacity }

end Verb

/-- What the arguments ask for. -/
inductive Invocation where
  | run (c : Command)
  | version (name : String)
  | help
  | misuse
deriving DecidableEq, Repr

namespace Invocation

/-- Reading ended early in the part of the program with that name. -/
def ofStop (name : String) : Stop → Invocation
  | .misuse => .misuse
  | .version => .version name
  | .help => .help

/-- The options that every command has. -/
def sharedFlags : List Flag :=
  [.logFormat, .version, .help]

/-- Read the arguments behind the name of a command. -/
def ofVerb (v : Verb) (args : List String) : Invocation :=
  match readOptions (v.flags ++ sharedFlags) {} args with
  | .error stop => ofStop (program ++ "-" ++ v.name) stop
  | .ok (_, _ :: _) => .misuse
  | .ok (o, []) =>
    match o.settled.toOption >>= v.command? with
    | some c => .run c
    | none => .misuse

/-- Read the arguments of a call for help, which may name one command. -/
def ofTopics : List String → Invocation
  | [] => .help
  | [topic] =>
    if topic = "help" || (Verb.ofName? topic).isSome then .help else .misuse
  | _ => .misuse

/-- The same as long as the options in front of the command turn out right.  A
call for the version or for help does not wait for them. -/
def behind (o : Options) : Invocation → Invocation
  | .run c =>
    match o.settled with
    | .ok _ => .run c
    | .error _ => .misuse
  | i => i

/-- Read the arguments of the program. -/
def ofArguments (args : List String) : Invocation :=
  match readOptions sharedFlags {} args with
  | .error stop => ofStop program stop
  | .ok (_, "help" :: topics) => ofTopics topics
  | .ok (o, word :: rest) =>
    match Verb.ofName? word with
    | some v => (ofVerb v rest).behind o
    | none => .misuse
  | .ok (_, []) => .misuse

end Invocation
end CommandLine
end AgentFleet
