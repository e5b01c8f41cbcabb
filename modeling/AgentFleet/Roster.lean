import AgentFleet.Agent.Listing

/-!
# The roster of a server

The agents that a server knows of, by name.  A reconciliation pass replaces the
whole roster by what the cluster shows, except that an agent on serverless
capacity keeps the placeholder it has shown before.
-/

namespace AgentFleet

/-- The agents of a server, by name. -/
abbrev Roster := Std.ExtTreeMap String Agent

namespace Roster

/-- Add an agent, or replace the one of its name. -/
def add (r : Roster) (t : Agent) : Roster :=
  r.insert t.name t

/-- The agent of a name, if there is one, and the roster without it. -/
def remove (r : Roster) (name : String) : Option Agent × Roster :=
  (r[name]?, r.erase name)

/-- The agents in the order of their names. -/
def agents (r : Roster) : List Agent :=
  r.values

/-- An agent as it goes into the next roster: with the placeholder it had, if it
had one. -/
def keepPlaceholder (r : Roster) (t : Agent) : Agent :=
  match r[t.name]? with
  | none => t
  | some previous =>
    if previous.target.isServerless && t.target.isServerless then
      { t with target := previous.target }
    else t

/-- The roster of the given agents; of several with one name the last one
counts. -/
def renew (r : Roster) (ts : List Agent) : Roster :=
  ts.foldl (fun next t => add next (r.keepPlaceholder t)) ∅

/-- One reconciliation pass: the number of agents found, and the next roster. -/
def reconcile
    (server : String) (s : Settings) (r : Roster) : Attempt (Nat × Roster) := do
  let agents ← readAgents server s
  return (agents.length, r.renew agents)

/-- Several passes, one after the other; one that fails leaves the roster as it
is. -/
def poll (server : String) (s : Settings) : Nat → Roster → Script Roster
  | 0, r => return r
  | passes + 1, r => do
    match ← (reconcile server s r).run with
    | .ok (_, next) => poll server s passes next
    | .error _ => poll server s passes r

end Roster
end AgentFleet
