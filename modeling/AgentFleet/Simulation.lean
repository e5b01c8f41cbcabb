import AgentFleet.Agent.Creation
import AgentFleet.Roster

/-!
# Trying a request out

A request is created, reconciled and stopped against a service that exists only
for this purpose.  For a request that needs an instance, one of its platform is
there from the beginning.
-/

namespace AgentFleet
namespace Simulation

/-- How the service should behave. -/
structure Conditions where
  server : String
  /-- Every launch fails. -/
  failLaunch : Bool := false
  /-- Capacity providers are rejected. -/
  rejectCapacity : Bool := false
deriving DecidableEq, Repr

/-- What came of a simulation. -/
structure Report where
  /-- The lines to show while it runs. -/
  lines : List String
  scheduled : Option Agent
  error : Option Agent.Error
  /-- The number of agents found by reconciliation. -/
  reconciled : Nat
  /-- The number of definitions left at the end. -/
  definitionsLeft : Nat

/-- The service before the request is created. -/
def service (c : Conditions) : Service :=
  let fresh : Service :=
    if c.rejectCapacity then Service.withoutProviders {} else {}
  if c.failLaunch then fresh.breakLaunches [⟨none, "simulated launch failure"⟩]
  else fresh

/-- Everything the simulation acts on. -/
def site (s : Settings) (r : AgentRequest) (c : Conditions) : Site :=
  if r.profile.isServerless then { gateway.service := service c }
  else
    let (_, supply, service) :=
      Supply.bringUp s r.profile (service c) (.pool {})
    { gateway.service := service, supply }

/-- The line for an agent that reconciliation found. -/
def agentLine (t : Agent) : String :=
  "  " ++ t.name ++ " " ++ t.taskArn ++ " (" ++ t.lastStatus ++ ")"

/-- The lines for the outcome of the creation, when it did not fail. -/
def outcomeLines : Except Agent.Error (Option Agent) → List String
  | .ok (some t) =>
    ["✓ scheduled " ++ t.name ++ " on " ++
        t.target.shownId?.getD "unknown instance"]
  | .ok none => ["✓ handed off to spot capacity"]
  | .error _ => []

/-- Simulate a request under a fresh identity at a given time. -/
def run (now : UInt64) (fresh : Identity) (s : Settings) (r : AgentRequest)
    (c : Conditions) : Except Agent.Error Report :=
  let (created, afterCreate) :=
    (createAgent fresh c.server s r).run.run now (site s r c)
  let (found, afterPass) :=
    (Roster.reconcile c.server s ∅).run.run now afterCreate
  match found with
  | .error e => .error e
  | .ok (reconciled, roster) =>
    let scheduled := created.toOption.join
    let afterStop :=
      match scheduled with
      | none => afterPass
      | some t => ((stopAgent s t).run now afterPass).2
    .ok {
      lines :=
        ["→ create " ++ r.job.display] ++
          afterCreate.console.map ("  | " ++ ·) ++ outcomeLines created ++
          ["→ reconcile"] ++ roster.agents.map agentLine ++
          scheduled.toList.map (fun t => "→ stop " ++ t.name)
      scheduled
      error := match created with
        | .error e => some e
        | .ok _ => none
      reconciled
      definitionsLeft := afterStop.gateway.service.definitions.size }

/-- The lines to show at the end. -/
def Report.closing (r : Report) : List String :=
  r.error.toList.map (fun e => "✗ create failed: " ++ e.message) ++
    ["reconciled tasks:   " ++ Text.decimal r.reconciled,
      "definitions left:   " ++ Text.decimal r.definitionsLeft]

end Simulation
end AgentFleet
