import Mathlib.Data.List.Nodup
import AgentFleet.Proofs.Lifetime
import AgentFleet.Proofs.ReadBack

/-!
# Worlds in step

The definitions and the running tasks of a world are those of its live agents,
one for one, and so is the roster once it has been renewed.  No agent that was
not stopped is lost, and nothing is left of an agent that was never created or
has been stopped.
-/

namespace AgentFleet

namespace World

variable {server : String} {s : Settings} {w : World}

namespace Tended

/-! ## Live agents -/

theorem apart_live (h : Tended server s w) : w.live.Pairwise Agent.Apart :=
  h.apart.sublist h.live

theorem nodup_names (h : Tended server s w) : (w.live.map Agent.name).Nodup :=
  List.pairwise_map.mpr (h.apart_live.imp Agent.Apart.name)

theorem nodup_taskArns
    (h : Tended server s w) :
    (w.live.map Agent.taskArn).Nodup :=
  List.pairwise_map.mpr (h.apart_live.imp Agent.Apart.taskArn)

theorem nodup_definitionArns
    (h : Tended server s w) :
    (w.live.map Agent.definitionArn).Nodup :=
  List.pairwise_map.mpr (h.apart_live.imp Agent.Apart.definitionArn)

/-! ## Records -/

theorem definitions_perm
    (h : Tended server s w) :
    w.site.service.definitions.keys.Perm (w.live.map Agent.definitionArn) := by
  rw [List.perm_ext_iff_of_nodup w.site.service.definitions.nodup_keys
      h.nodup_definitionArns]
  intro arn
  rw [Table.mem_keys_iff, List.mem_map]
  constructor
  · rintro ⟨d, hd⟩
    exact h.definitions arn d hd
  · rintro ⟨t, ht, rfl⟩
    obtain ⟨d, task, hbacks⟩ := h.backed t ht
    exact ⟨d, hbacks.storedDefinition⟩

theorem size_definitions
    (h : Tended server s w) :
    w.site.service.definitions.size = w.live.length := by
  have hlength := h.definitions_perm.length_eq
  rwa [Std.ExtTreeMap.length_keys, List.length_map] at hlength

theorem tasks_perm
    (h : Tended server s w) :
    ((w.site.service.tasks.values.filter fun task =>
        task.desiredStatus = .running).map Task.arn).Perm
      (w.live.map Agent.taskArn) := by
  rw [List.perm_ext_iff_of_nodup (h.sound.tasks.nodup_names _) h.nodup_taskArns]
  intro arn
  simp only [List.mem_map, List.mem_filter, decide_eq_true_iff]
  constructor
  · rintro ⟨task, ⟨hvalue, hrunning⟩, rfl⟩
    exact h.tasks _ task (h.sound.tasks.getElem?_of_mem hvalue) hrunning
  · rintro ⟨t, ht, rfl⟩
    obtain ⟨d, task, hbacks⟩ := h.backed t ht
    refine ⟨task,
      ⟨Table.mem_values_iff.mpr ⟨_, hbacks.storedTask⟩, hbacks.desired⟩, ?_⟩
    exact h.sound.tasks _ task hbacks.storedTask

/-! ## Reading -/

/-- What is listed is what backs a live agent: a running task is that of a live
agent, and its name tells what backs the agent. -/
theorem mem_listed_iff
    (h : Tended server s w) {d : TaskDefinition} {task : Task} :
    (task, d) ∈
        w.site.service.withDefinition (w.site.service.running s.clusterName) ↔
      ∃ t ∈ w.live, w.site.service.Backs server s w.added t d task := by
  rw [Service.mem_withDefinition_iff, Service.mem_running_iff h.sound.tasks]
  constructor
  · rintro ⟨⟨htask, -, hrunning⟩, hd⟩
    obtain ⟨t, ht, harn⟩ := h.tasks _ task htask hrunning
    obtain ⟨d', task', hbacks⟩ := h.backed t ht
    obtain rfl : task = task' := by
      rw [← harn] at htask
      exact Option.some.inj (htask.symm.trans hbacks.storedTask)
    obtain rfl : d = d' := by
      rw [hbacks.launchedFrom] at hd
      exact Option.some.inj (hd.symm.trans hbacks.storedDefinition)
    exact ⟨t, ht, hbacks⟩
  · rintro ⟨t, -, hbacks⟩
    have harn := h.sound.tasks _ task hbacks.storedTask
    rw [harn, hbacks.launchedFrom]
    exact ⟨⟨hbacks.storedTask, hbacks.cluster, hbacks.desired⟩,
      hbacks.storedDefinition⟩

end Tended

/-- The agent that a backed one is read as. -/
theorem ofListed?_of_backs
    {t : Agent} {d : TaskDefinition} {task : Task} {service : Service}
    {added : List ContainerInstance}
    (h : service.Backs server s added t d task) :
    Agent.ofListed? task d service.machines server =
      .ok (some
        { t with
          target := targetOf task (t.ownership server) service.machines }) := by
  rw [Agent.ofListed?_of_labels h.labels (by simp [Agent.ownership])]
  have hplaced :=
    congrArg
      (fun a : Agent =>
          { a with
            target := targetOf task (t.ownership server) service.machines })
      h.agent
  exact congrArg (fun a => Except.ok (some a)) hplaced.symm

namespace Tended

/-- An agent is read if and only if it is a live one, at the place where its
task is. -/
theorem mem_ownedAgents_iff
    (h : Tended server s w) {a : Agent} :
    a ∈
        ownedAgents
          (w.site.service.withDefinition (w.site.service.running s.clusterName))
          w.site.service.machines server ↔
      ∃ t ∈ w.live,
        ∃ d task,
          w.site.service.Backs server s w.added t d task ∧
          a =
            { t with
              target :=
                targetOf task (t.ownership server)
                  w.site.service.machines } := by
  simp only [ownedAgents_eq, List.mem_filterMap, join_toOption_eq_some_iff]
  constructor
  · rintro ⟨⟨task, d⟩, hlisted, ha⟩
    obtain ⟨t, ht, hbacks⟩ := h.mem_listed_iff.mp hlisted
    rw [ofListed?_of_backs hbacks] at ha
    exact ⟨t, ht, d, task, hbacks, (Option.some.inj (Except.ok.inj ha)).symm⟩
  · rintro ⟨t, ht, d, task, hbacks, rfl⟩
    exact ⟨(task, d), h.mem_listed_iff.mpr ⟨t, ht, hbacks⟩,
      ofListed?_of_backs hbacks⟩

/-- The agents that are read are the live ones, but for where they run. -/
theorem ownedAgents_perm
    (h : Tended server s w) :
    ((ownedAgents
        (w.site.service.withDefinition (w.site.service.running s.clusterName))
        w.site.service.machines server).map Agent.unplaced).Perm
      (w.live.map Agent.unplaced) := by
  have hlisted :=
    Service.pairwise_withDefinition (s := w.site.service)
      (h.sound.tasks.nodup_names fun t =>
          t.cluster = s.clusterName ∧ t.desiredStatus = .running)
  have hread := nodup_taskArn_ownedAgents hlisted w.site.service.machines server
  rw [List.perm_ext_iff_of_nodup]
  · intro a
    simp only [List.mem_map]
    constructor
    · rintro ⟨a', ha', rfl⟩
      obtain ⟨t, ht, d, task, -, rfl⟩ := h.mem_ownedAgents_iff.mp ha'
      exact ⟨t, ht, rfl⟩
    · rintro ⟨t, ht, rfl⟩
      obtain ⟨d, task, hbacks⟩ := h.backed t ht
      exact ⟨_, h.mem_ownedAgents_iff.mpr ⟨t, ht, d, task, hbacks, rfl⟩, rfl⟩
  · refine List.Nodup.of_map Agent.taskArn ?_
    rw [List.map_map]
    exact hread
  · refine List.Nodup.of_map Agent.taskArn ?_
    rw [List.map_map]
    exact h.nodup_taskArns

end Tended

/-- Where the task of a backed agent is read to be, the agent shows to be, or
another placeholder takes its place. -/
theorem eq_reread_of_backs
    {t : Agent} {d : TaskDefinition} {task : Task} {service : Service}
    {added : List ContainerInstance} (h : service.Backs server s added t d task)
    (hsound : service.Sound) (hhouses : service.Houses added)
    (hplace : t.target.isServerless = true ∨ OneMachineEach added) :
    { t with target := targetOf task (t.ownership server) service.machines } =
      t.reread := by
  have htarget := h.target
  cases hinstance : task.instanceArn with
  | some arn =>
    rw [hinstance] at htarget
    obtain ⟨hknown, machineId, hstands, hmachine⟩ := htarget
    obtain ⟨machineId', hknown⟩ := Option.ne_none_iff_exists'.mp hknown
    have hdistinct : OneMachineEach added := by
      rcases hplace with hserverless | hdistinct
      · rw [hmachine] at hserverless
        cases hserverless
      · exact hdistinct
    obtain rfl :=
      hdistinct arn machineId machineId' hstands (hhouses arn _ hknown)
    rw [targetOf, hinstance, Agent.reread, hmachine]
    simp only [hsound.keyed.getElem?_machines, hknown]
    rw [← hmachine]
  | none =>
    rw [hinstance] at htarget
    obtain ⟨hserverless, fresh, hfresh⟩ := htarget
    have harn : t.taskArn = task.arn := by
      rw [h.agent]
      rfl
    rw [targetOf, hinstance, Agent.reread, hfresh]
    simp only [isServerlessTask, Agent.ownership, hserverless, Bool.or_true,
      ↓reduceIte, harn]
    rfl

/-- What is read of some agents is each of them once, at the place where its
task is. -/
structure Reads
    (added : List ContainerInstance) (ts agents : List Agent) : Prop where
  names : (agents.map Agent.name).Perm (ts.map Agent.name)
  entries : ∀ t ∈ ts, ∃ a ∈ agents, a.unplaced = t.unplaced ∧
    (t.target.isServerless = true ∨ OneMachineEach added → a = t.reread)

/-- Reading succeeds, and what is read are the live agents. -/
theorem Tended.readAgents_reads
    (h : Tended server s w) (now : UInt64) :
    ∃ agents site',
      (readAgents server s).run.run now w.site = (.ok agents, site') ∧
      w.site.OnlyNoted site' ∧
      Reads w.added w.live agents := by
  obtain ⟨site', hread, hnoted⟩ :=
    readAgents_run h.direct h.sound.keyed now server s
  refine ⟨_, site', hread, hnoted, ?_, ?_⟩
  · have hnames := h.ownedAgents_perm.map Agent.name
    rw [List.map_map, List.map_map] at hnames
    exact hnames
  · intro t ht
    obtain ⟨d, task, hbacks⟩ := h.backed t ht
    exact ⟨_, h.mem_ownedAgents_iff.mpr ⟨t, ht, d, task, hbacks, rfl⟩, rfl,
      eq_reread_of_backs hbacks h.sound h.machines⟩

/-- A roster renewed by what was read of some agents has an entry for each of
them. -/
theorem Reads.renew
    {added : List ContainerInstance} {ts agents : List Agent}
    (h : Reads added ts agents) (hnodup : (ts.map Agent.name).Nodup) {t : Agent}
    (ht : t ∈ ts) (roster : Roster) :
    ∃ a : Agent,
      (roster.renew agents)[t.name]? = some a ∧
      a.unplaced = t.unplaced ∧
      (t.target.isServerless = true ∨ OneMachineEach added →
        a = roster.keepPlaceholder t.reread) := by
  obtain ⟨a, ha, hunplaced, hplaced⟩ := h.entries t ht
  have hentry :=
    Roster.getElem?_renew_of_mem (r := roster) (h.names.nodup_iff.mpr hnodup) ha
  rw [Agent.name_of_unplaced hunplaced] at hentry
  refine ⟨_, hentry, (roster.keepPlaceholder_unplaced a).trans hunplaced, ?_⟩
  intro hplace
  rw [hplaced hplace]

/-! ## The roster -/

/-- The roster is that of the live agents, each under its name.  Where an agent
runs is shown as it was when the agent was created, but for the placeholder of a
serverless agent that was not on the roster before. -/
structure Renewed (w : World) (roster : Roster) : Prop where
  names : roster.keys.Perm (w.live.map Agent.name)
  entries :
    ∀ t ∈ w.live,
      ∃ a : Agent,
        roster[t.name]? = some a ∧
        a.unplaced = t.unplaced ∧
        (t.target.isServerless = true ∨ OneMachineEach w.added →
          a = w.roster.keepPlaceholder t.reread)

/-- A pass finds as many agents as are live, and renews the roster. -/
theorem Tended.reconcile_renews
    (h : Tended server s w) (now : UInt64) :
    ∃ roster site',
      (Roster.reconcile server s w.roster).run.run now w.site =
        (.ok (w.live.length, roster), site') ∧
      w.Renewed roster := by
  obtain ⟨agents, site', hread, -, hreads⟩ := h.readAgents_reads now
  have hnodup := hreads.names.nodup_iff.mpr h.nodup_names
  have hlength : agents.length = w.live.length := by
    simpa using hreads.names.length_eq
  refine ⟨w.roster.renew agents, site', ?_,
    (Roster.keys_renew_perm hnodup).trans hreads.names, ?_⟩
  · rw [← hlength]
    exact Script.run_bind_of_ok hread _
  · intro t ht
    exact hreads.renew h.nodup_names ht w.roster

/-- A pass finds the live agents and leaves them alone. -/
theorem Tended.pass_run
    (h : Tended server s w) (now : UInt64) :
    ∃ roster site',
      (Roster.reconcile server s w.roster).run.run now w.site =
        (.ok (w.live.length, roster), site') ∧
      Tended server s { w with site := site', roster } := by
  obtain ⟨roster, site', hpass, -⟩ := h.reconcile_renews now
  have hfound := h.refresh now
  rw [World.refresh, hpass] at hfound
  exact ⟨roster, site', hpass, hfound⟩

/-- The records of the service are those of the live agents, and the next
reconciliation pass puts these agents on the roster. -/
structure InStep
    (server : String) (s : Settings) (now : UInt64) (w : World) : Prop where
  definitions :
    w.site.service.definitions.keys.Perm (w.live.map Agent.definitionArn)
  active : ∀ t ∈ w.live, ∃ d : TaskDefinition,
    w.site.service.definitions[t.definitionArn]? = some d ∧ d.status = .active ∧
      d.family = t.name
  tasks :
    ((w.site.service.tasks.values.filter fun task =>
        task.desiredStatus = .running).map Task.arn).Perm
      (w.live.map Agent.taskArn)
  roster :
    ∃ roster site',
      (Roster.reconcile server s w.roster).run.run now w.site =
        (.ok (w.live.length, roster), site') ∧
      w.refresh server s now = { w with site := site', roster } ∧
      w.Renewed roster

/-- No agent is lost and nothing of one is left over: whatever has been created,
stopped, reconciled and arranged, the world is in step. -/
theorem Lived.inStep
    (h : Lived server s w) (now : UInt64) :
    InStep server s now w where
  definitions := h.tended.definitions_perm
  active := by
    intro t ht
    obtain ⟨d, task, hbacks⟩ := h.tended.backed t ht
    refine ⟨d, hbacks.storedDefinition, hbacks.status, ?_⟩
    rw [hbacks.agent]
    rfl
  tasks := h.tended.tasks_perm
  roster := by
    obtain ⟨roster, site', hrun, hrenewed⟩ := h.tended.reconcile_renews now
    refine ⟨roster, site', hrun, ?_, hrenewed⟩
    rw [World.refresh, hrun]

/-- Of a serverless agent and one on an instance, the one that is not stopped is
left. -/
theorem Lived.inStep_small :
    ∃ w : World,
      Lived "ci" smallSettings w ∧
      w.returned.length = 2 ∧
      w.live.length = 1 ∧
      OneMachineEach w.added ∧
      InStep "ci" smallSettings 1 w := by
  have hstart : Lived "ci" smallSettings { site := { supply := .pool {} } } :=
    .start (.pool {}) ∅
  have hserverless := hstart.create 0 ⟨"a", "b"⟩ smallRequest (by decide)
  have hhosted :=
    hserverless.create 0 ⟨"c", "d"⟩
      { smallRequest with profile := { image := "alpine", memory := 512 } }
      (by decide +kernel)
  have hstopped := hhosted.stop 0 (List.head_mem (by decide +kernel))
  obtain ⟨w, hw, hreturned, hlive, hadded⟩ :
      ∃ w : World,
        Lived "ci" smallSettings w ∧
        w.returned.length = 2 ∧
        w.live.length = 1 ∧
        w.added = [] := ⟨_, hstopped, by decide +kernel⟩
  refine ⟨w, hw, hreturned, hlive, ?_, hw.inStep 1⟩
  rw [hadded]
  exact oneMachineEach_of_distinct (by simp) (by simp)

end World
end AgentFleet
