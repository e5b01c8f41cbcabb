import AgentFleet.Proofs.Creating
import AgentFleet.Proofs.Reading
import AgentFleet.Proofs.WrittenRecords

/-!
# Reading created agents back

An agent that a creation answered with is read back from the cluster as it is,
by any spelling of the name of its server.  Only the placeholder of a serverless
agent is another one, which is then taken from the name of the task.
-/

namespace AgentFleet

namespace Service

variable {s s' : Service}

/-! ## The listed pair -/

theorem filter_withDefinition
    (s : Service) (ts : List Task) (arn : String) :
    (s.withDefinition ts).filter (fun p => p.1.arn = arn) =
      s.withDefinition (ts.filter fun t => t.arn = arn) := by
  rw [withDefinition, withDefinition, List.filter_filterMap,
    List.filterMap_filter]
  congr 1
  funext t
  cases s.definitions[t.definitionArn]? with
  | none => simp
  | some d => by_cases harn : t.arn = arn <;> simp [harn]

/-- The task that a creation launched is listed once, with the definition that
it registered. -/
theorem Creates.filter_listed
    {now : UInt64} {fresh : Identity} {server : String} {settings : Settings}
    {r : AgentRequest} {d : TaskDefinition} {task : Task} {t : Agent}
    (h : Creates now fresh server settings r d task t s s')
    (hsound : s'.Sound) :
    (s'.withDefinition (s'.running settings.clusterName)).filter
        (fun p => p.1.arn = t.taskArn) =
      [(task, d)] := by
  have hstored := h.storedTask
  rw [h.agent_taskArn] at hstored
  have hrunning : task ∈ s'.running settings.clusterName :=
    (mem_running_iff hsound.tasks).mpr
      ⟨hstored, h.task_cluster, h.task_desiredStatus⟩
  have hd : s'.definitions[task.definitionArn]? = some d := by
    rw [h.task_definitionArn, ← h.agent_definitionArn]
    exact h.storedDefinition
  have hnodup : ((s'.running settings.clusterName).map Task.arn).Nodup :=
    hsound.tasks.nodup_names _
  have honly := Table.filter_name_eq hnodup hrunning
  rw [filter_withDefinition, h.agent_taskArn, honly, withDefinition,
    List.filterMap_cons, hd]
  rfl

end Service

/-! ## The agent of the pair -/

/-- The labels of a created agent belong to its server, however that is spelled.
-/
theorem Ownership.belongTo_toLabels
    (o : Ownership) (creator : String) {server : String}
    (hserver : Text.sameCaseless o.serverId server = true) :
    Labels.belongTo (o.toLabels creator) server = true := by
  rwa [Labels.belongTo, serverOr_toLabels]

theorem Agent.ofListed?_of_labels
    {task : Task} {d : TaskDefinition} {o : Ownership} {creator server : String}
    {machines : Std.ExtTreeMap String String}
    (hlabels : d.agentLabels? = some (o.toLabels creator))
    (hserver : Text.sameCaseless o.serverId server = true) :
    Agent.ofListed? task d machines server =
      .ok (some (Agent.ofTask task d o (targetOf task o machines))) := by
  rw [Agent.ofListed?, hlabels]
  simp only [o.belongTo_toLabels creator hserver,
    o.ofLabels_toLabels creator server]
  rfl

/-- A task that carries the labels of another server's agent is no agent of the
server. -/
theorem Agent.ofListed?_of_foreign
    {task : Task} {d : TaskDefinition} {o : Ownership} {creator server : String}
    {machines : Std.ExtTreeMap String String}
    (hlabels : d.agentLabels? = some (o.toLabels creator))
    (hserver : Text.sameCaseless o.serverId server = false) :
    Agent.ofListed? task d machines server = .ok none := by
  have hbelong : Labels.belongTo (o.toLabels creator) server = false := by
    rwa [Labels.belongTo, Ownership.serverOr_toLabels]
  rw [Agent.ofListed?, hlabels]
  simp only [hbelong, Bool.false_eq_true, ↓reduceIte]

/-- Of tasks that carry the labels of owners, the agents of a server are those
whose owner belongs to it. -/
theorem ownedAgents_of_labels
    {listed : List (Task × TaskDefinition)} {owners : List Ownership}
    {creator : String}
    (hlabels : listed.map (fun p => p.2.agentLabels?) =
        owners.map fun o => some (o.toLabels creator))
    (machines : Std.ExtTreeMap String String) (server : String) :
    ownedAgents listed machines server =
      ((listed.zip owners).filter fun q =>
            Text.sameCaseless q.2.serverId server).map fun q =>
        Agent.ofTask q.1.1 q.1.2 q.2 (targetOf q.1.1 q.2 machines) := by
  rw [ownedAgents_eq]
  induction listed generalizing owners with
  | nil => rfl
  | cons p rest ih =>
    obtain ⟨o, owners, rfl, ho, hrest⟩ := List.map_eq_cons_iff.mp hlabels.symm
    by_cases hserver : Text.sameCaseless o.serverId server = true
    · have hlisted : Agent.ofListed? p.1 p.2 machines server =
          .ok (some (Agent.ofTask p.1 p.2 o (targetOf p.1 o machines))) :=
        Agent.ofListed?_of_labels ho.symm hserver
      rw [List.filterMap_cons, hlisted, List.zip_cons_cons, List.filter_cons,
        if_pos hserver, List.map_cons, ← ih hrest.symm]
      rfl
    · have hlisted : Agent.ofListed? p.1 p.2 machines server = .ok none :=
        Agent.ofListed?_of_foreign ho.symm (Bool.eq_false_iff.mpr hserver)
      rw [List.filterMap_cons, hlisted, List.zip_cons_cons, List.filter_cons,
        if_neg hserver, ← ih hrest.symm]
      rfl

/-- The agent as it is read back: the same, but that the placeholder of a
serverless agent is made from the name of its task. -/
def Agent.reread (t : Agent) : Agent :=
  match t.target with
  | .serverless _ spot => { t with target := Target.ofTask spot t.taskArn }
  | _ => t

theorem ofTask_targetOf
    {s : Service} (hsound : s.Sound) {fresh : Identity} {o : Ownership}
    {task : Task} {d : TaskDefinition} {target : Target}
    (htarget : s.Places fresh o.profile task.instanceArn target) :
    Agent.ofTask task d o (targetOf task o s.machines) =
      (Agent.ofTask task d o target).reread := by
  cases hinstance : task.instanceArn with
  | some arn =>
    rw [hinstance] at htarget
    obtain ⟨-, i, hi, rfl⟩ := htarget
    rw [targetOf, hinstance]
    simp only [hsound.keyed.getElem?_machines, Service.machineAt_of_getElem? hi]
    rfl
  | none =>
    rw [hinstance] at htarget
    obtain ⟨hserverless, rfl⟩ := htarget
    rw [targetOf, hinstance]
    simp only [isServerlessTask, hserverless, Bool.or_true, ↓reduceIte]
    rfl

open Script

/-- An agent that a creation answered with is listed once in the cluster, and by
any spelling of the name of its server it is read back as it is, but for its
placeholder. -/
theorem createAgent_read_back
    {site site' : Site} (hdirect : site.IsDirect)
    (hreachable : site.service.Reachable) {now : UInt64} {fresh : Identity}
    {server : String} {s : Settings} {r : AgentRequest} {t : Agent}
    (hrun : (createAgent fresh server s r).run.run now site =
        (.ok (some t), site')) {server' : String}
    (hserver : Text.sameCaseless server server' = true) (now' : UInt64) :
    ∃ listed machines site₁ site₂ task d,
      (listedTasks s).run.run now' site' = (.ok listed, site₁) ∧
      (machinesOf s).run.run now' site₁ = (.ok machines, site₂) ∧
      listed.filter (fun p => p.1.arn = t.taskArn) = [(task, d)] ∧
      Agent.ofListed? task d machines server' = .ok (some t.reread) := by
  have hsound := hreachable.sound
  have hsound' : site'.service.Sound := by
    have hkept :=
      hdirect.run_sound hsound now (createAgent fresh server s r).run
    rwa [hrun] at hkept
  obtain ⟨result, site'', hrun', hdirect', houtcome⟩ :=
    createAgent_run hdirect hsound now fresh server s r
  obtain ⟨rfl, rfl⟩ := Prod.mk.inj (hrun.symm.trans hrun')
  rcases houtcome with ⟨d, task, t', ht', hcreates⟩ | ⟨hnone, -⟩ |
    ⟨e, spec, he, -, -⟩
  · obtain rfl : t = t' := Option.some.inj (Except.ok.inj ht')
    obtain ⟨site₁, hlisted, h₁⟩ := listedTasks_run hdirect' hsound'.keyed now' s
    have hdirect₁ := h₁.isDirect hdirect'
    have hsound₁ := h₁.sound hsound'
    obtain ⟨cs, rfl⟩ := h₁
    obtain ⟨site₂, hmachines, -⟩ := machinesOf_run hdirect₁ hsound₁.keyed now' s
    refine ⟨_, _, _, site₂, task, d, hlisted, hmachines,
      hcreates.filter_listed hsound', ?_⟩
    rw [Agent.ofListed?_of_labels hcreates.labels hserver, hcreates.agent]
    exact congrArg (fun t => Except.ok (some t))
      (ofTask_targetOf hsound' hcreates.target)
  · exact absurd rfl (hnone t)
  · cases he

/-- The agent of `smallRequest` is read back by another spelling of the server
under a new placeholder, and the agent of `hostedRequest` on its machine as it
is. -/
theorem createAgent_read_back_small :
    (∃ t site' listed machines site₁ site₂ task d,
        (createAgent ⟨"a", "b"⟩ "ci" smallSettings smallRequest).run.run 0 {} =
          (.ok (some t), site') ∧
        t.target = Target.ofIdentity false ⟨"a", "b"⟩ ∧
        (listedTasks smallSettings).run.run 1 site' = (.ok listed, site₁) ∧
        (machinesOf smallSettings).run.run 1 site₁ = (.ok machines, site₂) ∧
        listed.filter (fun p => p.1.arn = t.taskArn) = [(task, d)] ∧
        Agent.ofListed? task d machines "CI" =
          .ok (some { t with target := Target.ofTask false t.taskArn })) ∧
    ∃ t site' listed machines site₁ site₂ task d,
      (createAgent ⟨"a", "b"⟩ "ci" smallSettings hostedRequest).run.run 0 {} =
        (.ok (some t), site') ∧
      t.target = .machine (Pool.machineId 1) ∧
      (listedTasks smallSettings).run.run 1 site' = (.ok listed, site₁) ∧
      (machinesOf smallSettings).run.run 1 site₁ = (.ok machines, site₂) ∧
      listed.filter (fun p => p.1.arn = t.taskArn) = [(task, d)] ∧
      Agent.ofListed? task d machines "CI" = .ok (some t) := by
  have hdirect : Site.IsDirect {} := rfl
  have hserver : Text.sameCaseless "ci" "CI" = true := by decide
  have hplaceholder :
      ((createAgent ⟨"a", "b"⟩ "ci" smallSettings smallRequest).run.run 0
          {}).1.toOption.join.map Agent.target =
        some (Target.ofIdentity false ⟨"a", "b"⟩) := by
    decide +kernel
  have hmachine :
      ((createAgent ⟨"a", "b"⟩ "ci" smallSettings hostedRequest).run.run 0
          {}).1.toOption.join.map Agent.target =
        some (.machine (Pool.machineId 1)) := by
    decide +kernel
  constructor
  · obtain ⟨t, site', hrun, htarget⟩ := exists_created_of_part hplaceholder
    obtain ⟨listed, machines, site₁, site₂, task, d, hlisted, hmachines, hpair,
      hread⟩ := createAgent_read_back hdirect .empty hrun hserver 1
    rw [Agent.reread, htarget] at hread
    exact ⟨t, site', listed, machines, site₁, site₂, task, d, hrun, htarget,
      hlisted, hmachines, hpair, hread⟩
  · obtain ⟨t, site', hrun, htarget⟩ := exists_created_of_part hmachine
    obtain ⟨listed, machines, site₁, site₂, task, d, hlisted, hmachines, hpair,
      hread⟩ := createAgent_read_back hdirect .empty hrun hserver 1
    rw [Agent.reread, htarget] at hread
    exact ⟨t, site', listed, machines, site₁, site₂, task, d, hrun, htarget,
      hlisted, hmachines, hpair, hread⟩

end AgentFleet
