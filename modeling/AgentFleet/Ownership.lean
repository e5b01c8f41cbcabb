import AgentFleet.Request
import AgentFleet.Text.Basic

/-!
# Ownership labels

A cluster remembers nothing about agents but its tasks, so whatever the server
has to know about a task stands in labels on the first container of its
definition: which server it belongs to, for which job and environment it was
made, and from which profile.  Reading the labels of an ownership gives the same
ownership back.
-/

namespace AgentFleet

/-- The labels of a container. -/
abbrev Labels := Std.ExtTreeMap String String

/-- The identity of an agent's task. -/
structure Ownership where
  serverId : String
  job : Job
  environment : String
  profile : Profile
deriving DecidableEq, Repr

/-- Why labels cannot be read. -/
inductive Labels.Error where
  | missing (label : String)
  | malformed (label : String)
deriving DecidableEq, Repr

/-- The text of an error; what is wrong inside a malformed label is not told. -/
def Labels.Error.message : Labels.Error → String
  | .missing label => "missing label: " ++ label
  | .malformed label => "malformed " ++ label ++ " label"

namespace Labels

/-- The label that names the server. -/
def serverKey : String := "server-id"

/-- The label that holds the job. -/
def jobKey : String := "job-identifier"

/-- The label that names the environment of the server. -/
def environmentKey : String := "environment"

/-- The label that holds the profile. -/
def profileKey : String := "configuration"

/-- The label that names the creator. -/
def creatorKey : String := "created-by"

/-- The server that labels name, or else `absent`. -/
def serverOr (labels : Labels) (absent : String) : String :=
  labels.getD serverKey absent

/-- The labels belong to a server; labels that name no server belong to any. -/
def belongTo (labels : Labels) (server : String) : Bool :=
  Text.sameCaseless (serverOr labels server) server

end Labels

namespace Ownership

/-- The labels of an ownership, with the name of the creator. -/
def toLabels (o : Ownership) (creator : String) : Labels :=
  ((((∅ : Labels).insert Labels.serverKey o.serverId).insert
    Labels.jobKey o.job.render).insert
    Labels.environmentKey o.environment).insert
    Labels.profileKey o.profile.render
    |>.insert Labels.creatorKey creator

/-- Read ownership labels.  Labels without a server name belong to `server`, and
labels without an environment to the one without a name. -/
def ofLabels
    (labels : Labels) (server : String) : Except Labels.Error Ownership := do
  let some profileText :=
    labels[Labels.profileKey]? | throw (.missing Labels.profileKey)
  let some jobText := labels[Labels.jobKey]? | throw (.missing Labels.jobKey)
  let some profile :=
    Profile.parse? profileText | throw (.malformed Labels.profileKey)
  let some job := Job.parse? jobText | throw (.malformed Labels.jobKey)
  return {
    serverId := labels.serverOr server
    job
    environment := labels.getD Labels.environmentKey ""
    profile }

end Ownership
end AgentFleet
