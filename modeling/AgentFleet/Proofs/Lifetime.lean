import Mathlib.Data.List.Pairwise
import AgentFleet.Proofs.Creating
import AgentFleet.Proofs.Later
import AgentFleet.Proofs.Reading
import AgentFleet.Proofs.Rosters

/-!
# Lifetimes of agents

A world is a site at which one server has been creating, stopping and
reconciling agents.  As long as nothing is arranged against the removal of
definitions, the definitions and the running tasks of the service are at all
times those of the agents that have been created and not stopped.
-/

namespace AgentFleet

/-- A site, and what a server has done there. -/
structure World where
  site : Site
  roster : Roster := ∅
  /-- The instances that have been added. -/
  added : List ContainerInstance := []
  /-- The names that creations have been given. -/
  names : List String := []
  /-- The agents that creations have answered with. -/
  returned : List Agent := []
  /-- Those of them that have not been stopped. -/
  live : List Agent := []

/-- The arrangement is not one against the removal of definitions. -/
def Arrangement.SparesRemovals : Arrangement → Prop
  | .refuseNextDeregister _ => False
  | .refuseNextDelete _ => False
  | _ => True

/-- What is arranged about anything else leaves the removal of definitions as it
is. -/
theorem Arrangement.SparesRemovals.later
    {a : Arrangement} (ha : a.SparesRemovals) (s : Service) :
    s.Later (s.arrange a) := by
  cases a with
  | refuseNextDeregister e => exact ha.elim
  | refuseNextDelete e => exact ha.elim
  | _ => exact .of_eq rfl rfl rfl rfl

namespace World

/-- The world once a request has been created under a fresh identity. -/
def create
    (server : String) (s : Settings) (now : UInt64) (fresh : Identity)
    (r : AgentRequest) (w : World) : World :=
  let (result, site) := (createAgent fresh server s r).run.run now w.site
  match result with
  | .ok (some t) =>
    { w with
      site
      names := fresh.agentName :: w.names
      returned := t :: w.returned
      live := t :: w.live }
  | _ => { w with site, names := fresh.agentName :: w.names }

/-- The world once an agent has been stopped. -/
def stop (s : Settings) (now : UInt64) (t : Agent) (w : World) : World :=
  { w with
    site := ((stopAgent s t).run now w.site).2
    live := w.live.filter (· ≠ t) }

/-- The world after one reconciliation pass; one that fails leaves the roster as
it is. -/
def refresh
    (server : String) (s : Settings) (now : UInt64) (w : World) : World :=
  let (result, site) := (Roster.reconcile server s w.roster).run.run now w.site
  match result with
  | .ok (_, roster) => { w with site, roster }
  | .error _ => { w with site }

/-- The world once an instance has been added. -/
def enlist (i : ContainerInstance) (w : World) : World :=
  { w with
    site := w.site.withService (w.site.service.enlist i)
    added := i :: w.added }

/-- The world once the server has put an agent on its roster. -/
def enroll (t : Agent) (w : World) : World :=
  { w with roster := w.roster.add t }

/-- The world once something has been arranged. -/
def arrange (a : Arrangement) (w : World) : World :=
  { w with site := w.site.withService (w.site.service.arrange a) }

/-- The worlds that come about from an empty service.  No two creations are
given one name, and only agents that were created are put on the roster or
stopped, be it repeatedly. -/
inductive Lived (server : String) (s : Settings) : World → Prop where
  | start (supply : Supply) (roster : Roster) :
      Lived server s { site := { supply }, roster }
  | enlist {w : World} (h : Lived server s w) (i : ContainerInstance) :
      Lived server s (w.enlist i)
  | create {w : World} (h : Lived server s w) (now : UInt64) (fresh : Identity)
      (r : AgentRequest) (hname : fresh.agentName ∉ w.names) :
      Lived server s (w.create server s now fresh r)
  | stop {w : World} (h : Lived server s w) (now : UInt64) {t : Agent}
      (ht : t ∈ w.returned) : Lived server s (w.stop s now t)
  | refresh {w : World} (h : Lived server s w) (now : UInt64) :
      Lived server s (w.refresh server s now)
  | enroll {w : World} (h : Lived server s w) {t : Agent}
      (ht : t ∈ w.returned) : Lived server s (w.enroll t)
  | arrange {w : World} (h : Lived server s w) (a : Arrangement)
      (ha : a.SparesRemovals) : Lived server s (w.arrange a)

end World

/-! ## The invariant -/

/-- The ownership that the labels of an agent's definition declare. -/
def Agent.ownership (t : Agent) (server : String) : Ownership :=
  ⟨server, t.job, t.environment, t.profile⟩

/-- Two agents have nothing in common that would tell them from others. -/
structure Agent.Apart (t t' : Agent) : Prop where
  name : t.name ≠ t'.name
  taskArn : t.taskArn ≠ t'.taskArn
  definitionArn : t.definitionArn ≠ t'.definitionArn

instance : Std.Symm Agent.Apart where
  symm _ _ h := ⟨h.name.symm, h.taskArn.symm, h.definitionArn.symm⟩

/-- The agent has the target that goes with the instance of its task: a machine
that the name of the instance stands for, or a fresh placeholder if there is
none. -/
def Agent.TargetFor (t : Agent) (added : List ContainerInstance) (s : Service) :
    Option String → Prop
  | some arn => s.machineAt arn ≠ none ∧
      ∃ machineId, StandsFor added arn machineId ∧ t.target = .machine machineId
  | none => t.profile.isServerless = true ∧
      ∃ fresh, t.target = Target.ofIdentity t.profile.spot fresh

/-- A service keeps a definition and a running task that make up an agent. -/
structure Service.Backs
    (server : String) (settings : Settings) (added : List ContainerInstance)
    (t : Agent) (d : TaskDefinition) (task : Task) (s : Service) : Prop where
  storedDefinition : s.definitions[t.definitionArn]? = some d
  storedTask : s.tasks[t.taskArn]? = some task
  status : d.status = .active
  labels :
    d.agentLabels? = some ((t.ownership server).toLabels settings.pluginId)
  desired : task.desiredStatus = .running
  cluster : task.cluster = settings.clusterName
  launchedFrom : task.definitionArn = t.definitionArn
  agent : t = Agent.ofTask task d (t.ownership server) t.target
  target : t.TargetFor added s task.instanceArn

theorem Agent.TargetFor.mono
    {t : Agent} {added added' : List ContainerInstance} {s s' : Service}
    {instanceArn : Option String} (h : t.TargetFor added s instanceArn)
    (hlater : s.Later s') (hadded : ∀ i ∈ added, i ∈ added') :
    t.TargetFor added' s' instanceArn := by
  cases instanceArn with
  | none => exact h
  | some arn =>
    obtain ⟨hknown, machineId, hstands, htarget⟩ := h
    exact ⟨hlater.machines arn hknown, machineId, hstands.mono hadded, htarget⟩

theorem Service.Backs.later
    {server : String} {settings : Settings}
    {added added' : List ContainerInstance} {t : Agent} {d : TaskDefinition}
    {task : Task} {s s' : Service} (h : s.Backs server settings added t d task)
    (hdefinition : s'.definitions[t.definitionArn]? =
        s.definitions[t.definitionArn]?)
    (htask : s'.tasks[t.taskArn]? = s.tasks[t.taskArn]?) (hlater : s.Later s')
    (hadded : ∀ i ∈ added, i ∈ added') :
    s'.Backs server settings added' t d task :=
  { h with
    storedDefinition := hdefinition.trans h.storedDefinition
    storedTask := htask.trans h.storedTask
    target := h.target.mono hlater hadded }

/-- Nothing stands between scripts and the service, or between the service and
the removal of definitions. -/
structure Site.Steady
    (added : List ContainerInstance) (site : Site) : Prop where
  direct : site.IsDirect
  sound : site.service.Sound
  deregister : site.service.mishaps.deregister = none
  delete : site.service.mishaps.delete = none
  machines : site.service.Houses added

/-- No script makes a site less steady. -/
theorem Site.Steady.run
    {added : List ContainerInstance} {site : Site} (h : site.Steady added)
    {α : Type} (now : UInt64) (x : Script α) :
    (x.run now site).2.Steady added := by
  have hlater := Service.Later.run h.direct now x
  exact
    { direct := h.direct.run now x
      sound := h.direct.run_sound h.sound now x
      deregister := hlater.deregister h.deregister
      delete := hlater.delete h.delete
      machines := h.machines.run h.direct now x }

/-- Definitions and running tasks are those of the live agents. -/
structure World.Tended (server : String) (s : Settings) (w : World) : Prop
    extends w.site.Steady w.added where
  live : w.live.Sublist w.returned
  apart : w.returned.Pairwise Agent.Apart
  names : ∀ t ∈ w.returned, t.name ∈ w.names
  spare : ∀ t ∈ w.returned, w.site.service.SparesDefinition t.definitionArn
  kept :
    ∀ t ∈ w.returned,
      ∃ task : Task,
        w.site.service.tasks[t.taskArn]? = some task ∧
        task.cluster = s.clusterName
  backed :
    ∀ t ∈ w.live, ∃ d task, w.site.service.Backs server s w.added t d task
  definitions :
    ∀ (arn : String) (d : TaskDefinition),
      w.site.service.definitions[arn]? = some d →
      ∃ t ∈ w.live, t.definitionArn = arn
  tasks :
    ∀ (arn : String) (task : Task),
      w.site.service.tasks[arn]? = some task →
      task.desiredStatus = .running →
      ∃ t ∈ w.live, t.taskArn = arn

namespace World.Tended

variable {server : String} {s : Settings} {w w' : World}

theorem start
    (supply : Supply) (roster : Roster) :
    Tended server s { site := { supply }, roster } where
  direct := rfl
  sound := .empty
  deregister := rfl
  delete := rfl
  live := List.Sublist.refl _
  apart := List.Pairwise.nil
  names := by simp
  spare := by simp
  kept := by simp
  machines := by simp [Service.Houses, Service.machineAt, Site.service]
  backed := by simp
  definitions := by simp [Site.service]
  tasks := by simp [Site.service]

/-- What changes neither definitions nor tasks nor agents keeps the invariant.
-/
theorem keep
    (h : Tended server s w) (hsteady : w'.site.Steady w'.added)
    (hlater : w.site.service.Later w'.site.service)
    (hdefinitions : w'.site.service.definitions = w.site.service.definitions)
    (htasks : w'.site.service.tasks = w.site.service.tasks)
    (hadded : ∀ i ∈ w.added, i ∈ w'.added)
    (hnames : ∀ name ∈ w.names, name ∈ w'.names)
    (hreturned : w'.returned = w.returned) (hlive : w'.live = w.live) :
    Tended server s w' where
  toSteady := hsteady
  live := by
    rw [hlive, hreturned]
    exact h.live
  apart := by
    rw [hreturned]
    exact h.apart
  names := by
    rw [hreturned]
    intro t ht
    exact hnames _ (h.names t ht)
  spare := by
    rw [hreturned]
    intro t ht
    exact (h.spare t ht).later hlater
  kept := by
    rw [hreturned, htasks]
    exact h.kept
  backed := by
    rw [hlive]
    intro t ht
    obtain ⟨d, task, hbacks⟩ := h.backed t ht
    exact ⟨d, task,
      hbacks.later (by rw [hdefinitions]) (by rw [htasks]) hlater hadded⟩
  definitions := by
    rw [hlive, hdefinitions]
    exact h.definitions
  tasks := by
    rw [hlive, htasks]
    exact h.tasks

/-! ## Steps that change no record -/

theorem enlist
    (h : Tended server s w) (i : ContainerInstance) :
    Tended server s (w.enlist i) := by
  have hsteady : (w.enlist i).site.Steady (w.enlist i).added :=
    { direct := h.direct.withService _
      sound := h.sound.enlist i
      deregister := h.deregister
      delete := h.delete
      machines := h.machines.enlist i }
  exact h.keep hsteady (.enlist _ i) rfl rfl
    (fun _ hi => List.mem_cons_of_mem i hi) (fun _ hname => hname) rfl rfl

theorem enroll
    (h : Tended server s w) (t : Agent) :
    Tended server s (w.enroll t) :=
  h.keep h.toSteady (.refl _) rfl rfl (fun _ hi => hi) (fun _ hname => hname)
    rfl rfl

theorem arrange
    (h : Tended server s w) {a : Arrangement} (ha : a.SparesRemovals) :
    Tended server s (w.arrange a) := by
  have hlater := ha.later w.site.service
  have hsteady : (w.arrange a).site.Steady (w.arrange a).added :=
    { direct := h.direct.withService _
      sound := h.sound.arrange a
      deregister := hlater.deregister h.deregister
      delete := hlater.delete h.delete
      machines := by cases a <;> exact h.machines }
  have hdefinitions :
      (w.site.service.arrange a).definitions = w.site.service.definitions := by
    cases a <;> rfl
  have htasks : (w.site.service.arrange a).tasks = w.site.service.tasks := by
    cases a <;> rfl
  exact h.keep hsteady hlater hdefinitions htasks (fun _ hi => hi)
    (fun _ hname => hname) rfl rfl

/-- A reconciliation pass succeeds, and finds the agents that the service keeps.
-/
theorem reconcile_run
    (h : Tended server s w) (now : UInt64) :
    ∃ site',
      (Roster.reconcile server s w.roster).run.run now w.site =
        (.ok ((ownedAgents
            (w.site.service.withDefinition
                (w.site.service.running s.clusterName))
            w.site.service.machines server).length,
            w.roster.renew
              (ownedAgents
                  (w.site.service.withDefinition
                      (w.site.service.running s.clusterName))
                  w.site.service.machines server)), site') ∧
      w.site.OnlyNoted site' := by
  obtain ⟨site', hread, hnoted⟩ :=
    readAgents_run h.direct h.sound.keyed now server s
  exact ⟨site', Script.run_bind_of_ok hread _, hnoted⟩

/-- Neither reading nor another roster makes a difference to what there is. -/
theorem noted
    (h : Tended server s w) {site' : Site} (hnoted : w.site.OnlyNoted site')
    (roster : Roster) :
    Tended server s { w with site := site', roster } := by
  obtain ⟨cs, rfl⟩ := hnoted
  have hsteady :
      (w.site.withService (w.site.service.noted cs)).Steady w.added :=
    { direct := h.direct.withService _
      sound := h.sound.noted cs
      deregister := h.deregister
      delete := h.delete
      machines := h.machines }
  exact h.keep hsteady (.of_eq rfl rfl rfl rfl) rfl rfl (fun _ hi => hi)
    (fun _ hname => hname)
    rfl rfl

theorem refresh
    (h : Tended server s w) (now : UInt64) :
    Tended server s (w.refresh server s now) := by
  obtain ⟨site', hrun, hnoted⟩ := h.reconcile_run now
  rw [World.refresh, hrun]
  exact h.noted hnoted _

/-! ## Creations -/

/-- A creation that answers with no agent changes no record. -/
theorem createNothing
    (h : Tended server s w) {site' : Site} (hsteady : site'.Steady w.added)
    (hlater : w.site.service.Later site'.service)
    (hdefinitions : site'.service.definitions = w.site.service.definitions)
    (htasks : site'.service.tasks = w.site.service.tasks) (name : String) :
    Tended server s { w with site := site', names := name :: w.names } :=
  h.keep hsteady hlater hdefinitions htasks (fun _ hi => hi)
    (fun _ hname => List.mem_cons_of_mem name hname) rfl rfl

/-- A new agent has nothing in common with the agents before it. -/
theorem apart_of_creates
    (h : Tended server s w) {now : UInt64} {fresh : Identity} {r : AgentRequest}
    {d : TaskDefinition} {task : Task} {t : Agent} {s' : Service}
    (hcreates : Service.Creates now fresh server s r d task t w.site.service s')
    (hname : fresh.agentName ∉ w.names) :
    ∀ t' ∈ w.returned, t.Apart t' := by
  intro t' ht'
  refine ⟨?_, ?_, ?_⟩
  · intro heq
    exact hname (hcreates.agent_name ▸ heq ▸ h.names t' ht')
  · intro heq
    obtain ⟨task', htask', -⟩ := h.kept t' ht'
    rw [← heq, hcreates.newTask h.sound] at htask'
    cases htask'
  · intro heq
    refine h.spare t' ht' fresh.agentName _ (Nat.lt_succ_self _) ?_
    rw [← heq, hcreates.agent_definitionArn, hcreates.arn]

/-- The service backs an agent that it has created. -/
theorem backs_of_creates
    {now : UInt64} {fresh : Identity} {r : AgentRequest} {d : TaskDefinition}
    {task : Task} {t : Agent} {added : List ContainerInstance} {s₀ s₁ : Service}
    (hcreates : Service.Creates now fresh server s r d task t s₀ s₁)
    (hmachines : s₁.Houses added) :
    s₁.Backs server s added t d task where
  storedDefinition := hcreates.storedDefinition
  storedTask := hcreates.storedTask
  status := hcreates.status
  labels := by
    rw [hcreates.agent]
    exact hcreates.labels
  desired := hcreates.task_desiredStatus
  cluster := hcreates.task_cluster
  launchedFrom :=
    hcreates.task_definitionArn.trans hcreates.agent_definitionArn.symm
  agent := by
    rw [hcreates.agent]
    rfl
  target := by
    have htarget := hcreates.target
    cases hinstance : task.instanceArn with
    | some arn =>
      rw [hinstance] at htarget
      obtain ⟨-, i, hi, hmachine⟩ := htarget
      have hknown := Service.machineAt_of_getElem? hi
      refine ⟨?_, i.machineId, hmachines arn _ hknown, hmachine⟩
      rw [hknown]
      exact Option.some_ne_none _
    | none =>
      rw [hinstance] at htarget
      have hprofile : t.profile = r.profile := by
        rw [hcreates.agent]
        rfl
      rw [Agent.TargetFor, hprofile]
      exact ⟨htarget.1, fresh, htarget.2⟩

/-- A creation that answers with an agent adds it to the live ones.  It is apart
from all before it, so what backs them is looked up as it was. -/
theorem createOne
    (h : Tended server s w) {now : UInt64} {fresh : Identity}
    {r : AgentRequest} {d : TaskDefinition} {task : Task} {t : Agent}
    {site' : Site}
    (hcreates : Service.Creates now fresh server s r d task t w.site.service
        site'.service)
    (hsteady : site'.Steady w.added)
    (hlater : w.site.service.Later site'.service)
    (hname : fresh.agentName ∉ w.names) :
    Tended server s { w with
      site := site'
      names := fresh.agentName :: w.names
      returned := t :: w.returned
      live := t :: w.live } := by
  have hapart := h.apart_of_creates hcreates hname
  have holdTask : ∀ t' ∈ w.returned, site'.service.tasks[t'.taskArn]? =
      w.site.service.tasks[t'.taskArn]? := by
    intro t' ht'
    rw [hcreates.tasks_eq, Std.ExtTreeMap.getElem?_insert,
      if_neg (by simpa using (hapart t' ht').taskArn)]
  have holdDefinition :
      ∀ t' ∈ w.returned,
        site'.service.definitions[t'.definitionArn]? =
          w.site.service.definitions[t'.definitionArn]? := by
    intro t' ht'
    rw [hcreates.definitions_eq, Std.ExtTreeMap.getElem?_insert,
      if_neg (by simpa using (hapart t' ht').definitionArn)]
  refine
    { toSteady := hsteady
      live := h.live.cons_cons t
      apart := List.pairwise_cons.mpr ⟨hapart, h.apart⟩
      names := ?_
      spare := ?_
      kept := ?_
      backed := ?_
      definitions := ?_
      tasks := ?_ }
  · refine List.forall_mem_cons.mpr
      ⟨?_, fun t' ht' => List.mem_cons_of_mem _ (h.names t' ht')⟩
    rw [hcreates.agent_name]
    exact List.mem_cons_self
  · refine List.forall_mem_cons.mpr
      ⟨?_, fun t' ht' => (h.spare t' ht').later hlater⟩
    exact hsteady.sound.spareDefinitions _ d hcreates.storedDefinition
  · refine List.forall_mem_cons.mpr
      ⟨⟨task, hcreates.storedTask, hcreates.task_cluster⟩, ?_⟩
    intro t' ht'
    rw [holdTask t' ht']
    exact h.kept t' ht'
  · refine List.forall_mem_cons.mpr
      ⟨⟨d, task, backs_of_creates hcreates hsteady.machines⟩, ?_⟩
    intro t' ht'
    obtain ⟨d', task', hbacks⟩ := h.backed t' ht'
    exact ⟨d', task', hbacks.later (holdDefinition t' (h.live.subset ht'))
      (holdTask t' (h.live.subset ht')) hlater fun _ hi => hi⟩
  · intro arn d' hd'
    rw [hcreates.definitions_eq] at hd'
    rcases Table.getElem?_insert_eq_some_iff.mp hd' with ⟨harn, -⟩ | ⟨-, hold⟩
    · exact ⟨t, List.mem_cons_self, harn⟩
    · obtain ⟨t', ht', harn⟩ := h.definitions arn d' hold
      exact ⟨t', List.mem_cons_of_mem t ht', harn⟩
  · intro arn task' htask' hrunning
    rw [hcreates.tasks_eq] at htask'
    rcases Table.getElem?_insert_eq_some_iff.mp htask' with ⟨harn, -⟩ |
      ⟨-, hold⟩
    · exact ⟨t, List.mem_cons_self, harn⟩
    · obtain ⟨t', ht', harn⟩ := h.tasks arn task' hold hrunning
      exact ⟨t', List.mem_cons_of_mem t ht', harn⟩

theorem create
    (h : Tended server s w) (now : UInt64) {fresh : Identity} (r : AgentRequest)
    (hname : fresh.agentName ∉ w.names) :
    Tended server s (w.create server s now fresh r) := by
  obtain ⟨result, site', hrun, -, houtcome⟩ :=
    createAgent_run h.direct h.sound now fresh server s r
  have hsteady := h.toSteady.run now (createAgent fresh server s r).run
  have hlater :=
    Service.Later.run h.direct now (createAgent fresh server s r).run
  rw [hrun] at hsteady hlater
  rw [World.create, hrun]
  rcases houtcome with ⟨d, task, t, rfl, hcreates⟩ | ⟨hnone, hsame⟩ |
    ⟨e, spec, rfl, -, hundone⟩
  · exact h.createOne hcreates hsteady hlater hname
  · rcases result with e | _ | t
    · exact h.createNothing hsteady hlater hsame.definitions hsame.tasks
        fresh.agentName
    · exact h.createNothing hsteady hlater hsame.definitions hsame.tasks
        fresh.agentName
    · exact absurd rfl (hnone t)
  · have hdefinitions := hundone.clean h.deregister h.delete
    exact h.createNothing hsteady hlater hdefinitions hundone.tasks
      fresh.agentName

/-! ## Stops -/

/-- Stopping an agent takes its definition away and stops its task, be it for
the first time or not. -/
theorem stopAgent_run
    (h : Tended server s w) (now : UInt64) {t : Agent} (ht : t ∈ w.returned) :
    ∃ site' task,
      (stopAgent s t).run now w.site = ((), site') ∧
      task.cluster = s.clusterName ∧
      site'.service.definitions =
        w.site.service.definitions.erase t.definitionArn ∧
      site'.service.tasks =
        w.site.service.tasks.insert t.taskArn (Service.stopped task) := by
  obtain ⟨task, htask, hcluster⟩ := h.kept t ht
  have hstop := Script.run_call h.direct now
    (.stopTask s.clusterName t.taskArn stoppedBecause)
  have hremove :=
    removeDefinition_run
      (h.direct.withService
          (w.site.service.serve now
              (.stopTask s.clusterName t.taskArn stoppedBecause)).2) now
      t.definitionArn
  have hlater :=
    Service.Later.serve now (.stopTask s.clusterName t.taskArn stoppedBecause)
      w.site.service
  have hstopped :=
    Service.stopTask_of_mem
      (s :=
          w.site.service.noted
            [.stopTask s.clusterName t.taskArn stoppedBecause]) htask hcluster
  refine ⟨w.site.withService
      ((w.site.service.serve now
          (.stopTask s.clusterName t.taskArn stoppedBecause)).2.removing now
          t.definitionArn), task, ?_, hcluster, ?_, ?_⟩
  · rw [stopAgent, Script.run_bind, Script.run_discard, hstop]
    exact hremove
  · rw [Site.service_withService]
    exact (Service.removing_definitions now _ (hlater.deregister h.deregister)
        (hlater.delete h.delete)).trans
      (congrArg (·.erase t.definitionArn) hstopped.2)
  · rw [Site.service_withService]
    exact (Service.removing_sameBut now _ _).tasks.trans hstopped.1

/-- An agent that is stopped is no longer a live one, but its task is kept, so
that a second stop finds it. -/
theorem stop
    (h : Tended server s w) (now : UInt64) {t : Agent} (ht : t ∈ w.returned) :
    Tended server s (w.stop s now t) := by
  obtain ⟨site', task, hrun, hcluster, hdefinitions, htasks⟩ :=
    h.stopAgent_run now ht
  have hsteady := h.toSteady.run now (stopAgent s t)
  have hlater := Service.Later.run h.direct now (stopAgent s t)
  rw [hrun] at hsteady hlater
  rw [World.stop, hrun]
  have hapart : ∀ t' ∈ w.returned, t' ≠ t → t.Apart t' :=
    fun t' ht' hne => h.apart.forall ht ht' hne.symm
  have hmem : ∀ t' ∈ w.live, t' ≠ t → t' ∈ w.live.filter (· ≠ t) :=
    fun t' ht' hne => List.mem_filter.mpr ⟨ht', decide_eq_true hne⟩
  refine
    { toSteady := hsteady
      live := List.filter_sublist.trans h.live
      apart := h.apart
      names := h.names
      spare := fun t' ht' => (h.spare t' ht').later hlater
      kept := ?_
      backed := ?_
      definitions := ?_
      tasks := ?_ }
  · intro t' ht'
    rw [htasks]
    by_cases heq : t' = t
    · subst heq
      exact ⟨Service.stopped task, Std.ExtTreeMap.getElem?_insert_self,
        hcluster⟩
    · rw [Std.ExtTreeMap.getElem?_insert,
        if_neg (by simpa using (hapart t' ht' heq).taskArn)]
      exact h.kept t' ht'
  · intro t' ht'
    obtain ⟨hlive, hne⟩ := List.mem_filter.mp ht'
    have hne := of_decide_eq_true hne
    have hapart' := hapart t' (h.live.subset hlive) hne
    obtain ⟨d, task', hbacks⟩ := h.backed t' hlive
    refine ⟨d, task', hbacks.later ?_ ?_ hlater fun _ hi => hi⟩
    · rw [hdefinitions, Std.ExtTreeMap.getElem?_erase,
        if_neg (by simpa using hapart'.definitionArn)]
    · rw [htasks, Std.ExtTreeMap.getElem?_insert,
        if_neg (by simpa using hapart'.taskArn)]
  · intro arn d hd
    rw [hdefinitions, Table.getElem?_erase_eq_some_iff] at hd
    obtain ⟨t', ht', rfl⟩ := h.definitions arn d hd.2
    exact ⟨t', hmem t' ht' fun heq => hd.1 (heq ▸ rfl), rfl⟩
  · intro arn task' htask' hrunning
    rw [htasks] at htask'
    rcases Table.getElem?_insert_eq_some_iff.mp htask' with ⟨-, rfl⟩ |
      ⟨hne, hold⟩
    · cases hrunning
    · obtain ⟨t', ht', rfl⟩ := h.tasks arn task' hold hrunning
      exact ⟨t', hmem t' ht' fun heq => hne (heq ▸ rfl), rfl⟩

end World.Tended

namespace World

variable {server : String} {s : Settings} {w : World}

/-- Every world that comes about keeps its definitions and tasks those of the
live agents. -/
theorem Lived.tended (h : Lived server s w) : Tended server s w := by
  induction h with
  | start supply roster => exact .start supply roster
  | enlist _ i ih => exact ih.enlist i
  | create _ now fresh r hname ih => exact ih.create now r hname
  | stop _ now ht ih => exact ih.stop now ht
  | refresh _ now ih => exact ih.refresh now
  | enroll _ ht ih => exact ih.enroll _
  | arrange _ a ha ih => exact ih.arrange ha

end World
end AgentFleet
