import AgentFleet.Agent.Listing
import AgentFleet.Proofs.Machines
import AgentFleet.Proofs.Possible

/-!
# Reading a cluster

What is read from a cluster is what its service keeps, and reading changes
nothing but the journal.  Describing each definition once makes no difference to
what is read.
-/

namespace AgentFleet

namespace Service

/-- The tasks of a cluster that are meant to run. -/
def running (s : Service) (cluster : String) : List Task :=
  s.tasks.values.filter fun t =>
    t.cluster = cluster ∧ t.desiredStatus = .running

/-- The tasks whose definitions are still there, each with its definition. -/
def withDefinition
    (s : Service) (ts : List Task) : List (Task × TaskDefinition) :=
  ts.filterMap fun t => (s.definitions[t.definitionArn]?).map fun d => (t, d)

/-- The machines behind the instances. -/
def machines (s : Service) : Std.ExtTreeMap String String :=
  Std.ExtTreeMap.ofList (s.instances.values.map fun i => (i.arn, i.machineId))

variable {s : Service}

theorem mem_running_iff
    (h : Table.KeyedBy Task.arn s.tasks) {cluster : String} {t : Task} :
    t ∈ s.running cluster ↔
      s.tasks[t.arn]? = some t ∧
      t.cluster = cluster ∧
      t.desiredStatus = .running := by
  rw [running, List.mem_filter, decide_eq_true_iff]
  refine and_congr_left fun _ => ⟨h.getElem?_of_mem, ?_⟩
  intro ht
  exact Table.mem_values_iff.mpr ⟨t.arn, ht⟩

theorem mem_withDefinition_iff
    {ts : List Task} {t : Task} {d : TaskDefinition} :
    (t, d) ∈ s.withDefinition ts ↔
      t ∈ ts ∧ s.definitions[t.definitionArn]? = some d := by
  rw [withDefinition, List.mem_filterMap]
  constructor
  · rintro ⟨t', ht', hpair⟩
    obtain ⟨d', hd', hpair⟩ := Option.map_eq_some_iff.mp hpair
    obtain ⟨rfl, rfl⟩ := Prod.mk.inj hpair
    exact ⟨ht', hd'⟩
  · rintro ⟨ht, hd⟩
    exact ⟨t, ht, by rw [hd, Option.map_some]⟩

/-- What holds of the names of tasks, each with those after it, holds of the
listed ones. -/
theorem pairwise_withDefinition
    {R : String → String → Prop} {ts : List Task}
    (hts : (ts.map Task.arn).Pairwise R) :
    (s.withDefinition ts).Pairwise fun p q => R p.1.arn q.1.arn := by
  rw [withDefinition, List.pairwise_filterMap]
  refine (List.pairwise_map.mp hts).imp ?_
  rintro t t' hR p hp q hq
  obtain ⟨d, -, rfl⟩ := Option.map_eq_some_iff.mp hp
  obtain ⟨d', -, rfl⟩ := Option.map_eq_some_iff.mp hq
  exact hR

theorem listTasks_eq
    (s : Service) (cluster : String) {status : Option DesiredStatus}
    (hstatus : status.getD .running = .running) :
    s.listTasks ⟨cluster, status⟩ = (s.running cluster).map Task.arn := by
  rw [listTasks, hstatus, running]

/-- Describing the listed tasks gives the tasks themselves. -/
theorem Keyed.describeTasks_running
    (h : s.Keyed) (cluster : String) :
    s.describeTasks cluster ((s.running cluster).map Task.arn) =
      s.running cluster := by
  rw [describeTasks,
    h.tasks.filterMap_names fun t (ht : t ∈ s.running cluster) =>
      (List.mem_filter.mp ht).1, List.filter_eq_self]
  intro t ht
  simpa using (of_decide_eq_true (List.mem_filter.mp ht).2).1

theorem Keyed.map_fst_machines
    (h : s.Keyed) :
    (s.instances.values.map fun i => (i.arn, i.machineId)).map Prod.fst =
      s.instances.keys := by
  rw [List.map_map]
  exact h.instances.map_values

theorem Keyed.getElem?_machines
    (h : s.Keyed) (arn : String) :
    s.machines[arn]? = s.machineAt arn := by
  have hnodup := s.instances.nodup_keys
  rw [← h.map_fst_machines] at hnodup
  apply Option.ext
  intro id
  rw [machines, Table.getElem?_ofList_eq_some_iff hnodup, List.mem_map,
    machineAt, Option.map_eq_some_iff]
  constructor
  · rintro ⟨i, hi, hentry⟩
    obtain ⟨rfl, rfl⟩ := Prod.mk.inj hentry
    exact ⟨i, h.instances.getElem?_of_mem hi, rfl⟩
  · rintro ⟨i, hi, rfl⟩
    exact ⟨i, Table.mem_values_iff.mpr ⟨arn, hi⟩, by rw [h.instances arn i hi]⟩

end Service

/-- The agents that are read are those that the listed tasks are. -/
theorem ownedAgents_eq
    (listed : List (Task × TaskDefinition))
    (machines : Std.ExtTreeMap String String) (server : String) :
    ownedAgents listed machines server =
      listed.filterMap fun p =>
        (Agent.ofListed? p.1 p.2 machines server).toOption.join := by
  rw [ownedAgents]
  congr 1
  funext p
  obtain ⟨t, d⟩ := p
  dsimp only
  cases Agent.ofListed? t d machines server with
  | ok agent => cases agent <;> rfl
  | error e => rfl

theorem join_toOption_eq_some_iff
    {ε α : Type} {result : Except ε (Option α)} {a : α} :
    result.toOption.join = some a ↔ result = .ok (some a) := by
  rcases result with e | _ | a'
  · constructor <;> intro h <;> cases h
  · constructor <;> intro h <;> cases h
  · constructor
    · intro h
      rw [Option.some.inj h]
    · intro h
      rw [Option.some.inj (Except.ok.inj h)]
      rfl

/-- A listed task is an agent of a server if its labels say so and can be read.
-/
theorem Agent.exists_of_ofListed?
    {t : Task} {d : TaskDefinition} {machines : Std.ExtTreeMap String String}
    {server : String} {a : Agent}
    (h : Agent.ofListed? t d machines server = .ok (some a)) :
    ∃ labels o,
      d.agentLabels? = some labels ∧
      Labels.belongTo labels server = true ∧
      Ownership.ofLabels labels server = .ok o ∧
      a = Agent.ofTask t d o (targetOf t o machines) := by
  rw [Agent.ofListed?] at h
  cases hlabels : d.agentLabels? with
  | none =>
    rw [hlabels] at h
    cases h
  | some labels =>
    rw [hlabels] at h
    by_cases hbelong : Labels.belongTo labels server = true
    · cases howner : Ownership.ofLabels labels server with
      | error e =>
        simp only [if_pos hbelong, howner] at h
        cases h
      | ok o =>
        simp only [if_pos hbelong, howner] at h
        exact ⟨labels, o, rfl, hbelong, howner,
          (Option.some.inj (Except.ok.inj h)).symm⟩
    · simp only [if_neg hbelong] at h
      cases h

theorem Agent.taskArn_of_ofListed?
    {t : Task} {d : TaskDefinition} {machines : Std.ExtTreeMap String String}
    {server : String} {a : Agent}
    (h : Agent.ofListed? t d machines server = .ok (some a)) :
    a.taskArn = t.arn := by
  obtain ⟨labels, o, -, -, -, rfl⟩ := Agent.exists_of_ofListed? h
  rfl

/-- No agent is read twice. -/
theorem nodup_taskArn_ownedAgents
    {listed : List (Task × TaskDefinition)}
    (hlisted : listed.Pairwise fun p q => p.1.arn ≠ q.1.arn)
    (machines : Std.ExtTreeMap String String) (server : String) :
    ((ownedAgents listed machines server).map Agent.taskArn).Nodup := by
  rw [List.Nodup, List.pairwise_map, ownedAgents_eq, List.pairwise_filterMap]
  refine hlisted.imp ?_
  intro p q hne a ha a' ha'
  have harn := Agent.taskArn_of_ofListed? (join_toOption_eq_some_iff.mp ha)
  have harn' := Agent.taskArn_of_ofListed? (join_toOption_eq_some_iff.mp ha')
  rwa [harn, harn']

open Script

variable {site : Site}

/-- Which definitions have been described before makes no difference. -/
theorem withDefinitions_run
    (h : site.IsDirect) (now : UInt64)
    {known : Std.ExtTreeMap String TaskDefinition}
    (hknown : ∀ (arn : String) (d : TaskDefinition),
        known[arn]? = some d → site.service.definitions[arn]? = some d)
    (ts : List Task) :
    ∃ site',
      (withDefinitions known ts).run.run now site =
        (.ok (site.service.withDefinition ts), site') ∧
      site.OnlyNoted site' := by
  induction ts generalizing known site with
  | nil => exact ⟨site, rfl, .refl site⟩
  | cons t rest ih =>
    rw [withDefinitions, Service.withDefinition, List.filterMap_cons]
    cases hd : known[t.definitionArn]? with
    | some d =>
      obtain ⟨site₁, hrest, h₁⟩ := ih h hknown
      refine ⟨site₁, ?_, h₁⟩
      rw [hknown _ _ hd]
      exact run_bind_of_ok hrest _
    | none =>
      obtain ⟨site₁, hdescribe, h₁⟩ :=
        run_describeDefinition h now t.definitionArn
      have hdirect := h₁.isDirect h
      obtain ⟨cs, rfl⟩ := h₁
      rw [Service.describeDefinition] at hdescribe
      cases hstored : site.service.definitions[t.definitionArn]? with
      | some d =>
        have hknown' : ∀ (arn : String) (d' : TaskDefinition),
            (known.insert t.definitionArn d)[arn]? = some d' →
              site.service.definitions[arn]? = some d' := by
          intro arn d' hd'
          rcases Table.getElem?_insert_eq_some_iff.mp hd' with ⟨rfl, rfl⟩ |
            ⟨-, hold⟩
          · exact hstored
          · exact hknown arn d' hold
        obtain ⟨site₂, hrest, h₂⟩ := ih hdirect hknown'
        rw [hstored] at hdescribe
        refine ⟨site₂, (run_bind_of_ok (run_lift hdescribe) _).trans ?_,
          .trans ⟨cs, rfl⟩ h₂⟩
        exact run_bind_of_ok hrest _
      | none =>
        obtain ⟨site₂, hrest, h₂⟩ := ih hdirect hknown
        rw [hstored] at hdescribe
        refine ⟨site₂, (run_bind_of_ok (run_lift hdescribe) _).trans ?_,
          .trans ⟨cs, rfl⟩ h₂⟩
        exact hrest

/-- The listed tasks are those that are meant to run and have a definition. -/
theorem listedTasksWith_run
    (h : site.IsDirect) (hkeyed : site.service.Keyed) (now : UInt64)
    (s : Settings) {status : Option DesiredStatus}
    (hstatus : status.getD .running = .running) :
    ∃ site',
      (listedTasksWith s status).run.run now site =
        (.ok (site.service.withDefinition (site.service.running s.clusterName)),
          site') ∧
      site.OnlyNoted site' := by
  obtain ⟨site₁, hlist, h₁⟩ := run_listTasks h now ⟨s.clusterName, status⟩
  rw [Service.listTasks_eq _ _ hstatus] at hlist
  rw [listedTasksWith, run_bind_of_ok (run_adapt_eq_ok_iff.mpr hlist)]
  by_cases hempty :
      ((site.service.running s.clusterName).map Task.arn).isEmpty = true
  · have hnone : site.service.running s.clusterName = [] := by
      rwa [List.isEmpty_iff, List.map_eq_nil_iff] at hempty
    rw [if_pos hempty, hnone]
    exact ⟨site₁, run_pureExcept now _ _, h₁⟩
  · have hdirect₁ := h₁.isDirect h
    obtain ⟨cs, rfl⟩ := h₁
    obtain ⟨site₂, hdescribe, h₂⟩ :=
      run_describeTasks hdirect₁ now s.clusterName
        ((site.service.running s.clusterName).map Task.arn)
    have htasks := hkeyed.describeTasks_running s.clusterName
    have hnone : ∀ (arn : String) (d : TaskDefinition),
        (∅ : Std.ExtTreeMap String TaskDefinition)[arn]? = some d →
          site.service.definitions[arn]? = some d := by
      simp
    have hdirect₂ := h₂.isDirect hdirect₁
    obtain ⟨cs', rfl⟩ := h₂
    obtain ⟨site₃, hpair, h₃⟩ := withDefinitions_run hdirect₂ now hnone
      (site.service.running s.clusterName)
    refine ⟨site₃, ?_, .trans ⟨cs, rfl⟩ (.trans ⟨cs', rfl⟩ h₃)⟩
    rw [if_neg hempty, run_bind_of_ok (run_adapt_eq_ok_iff.mpr hdescribe)]
    refine (congrArg (fun ts => (withDefinitions ∅ ts).run.run now _)
        htasks).trans ?_
    exact hpair

theorem listedTasks_run
    (h : site.IsDirect) (hkeyed : site.service.Keyed) (now : UInt64)
    (s : Settings) :
    ∃ site',
      (listedTasks s).run.run now site =
        (.ok (site.service.withDefinition (site.service.running s.clusterName)),
          site') ∧
      site.OnlyNoted site' :=
  listedTasksWith_run h hkeyed now s rfl

/-- The machines are those of the instances. -/
theorem machinesOf_run
    (h : site.IsDirect) (hkeyed : site.service.Keyed) (now : UInt64)
    (s : Settings) :
    ∃ site',
      (machinesOf s).run.run now site = (.ok site.service.machines, site') ∧
      site.OnlyNoted site' := by
  obtain ⟨site₁, hlist, h₁⟩ := run_listInstances h now s.clusterName
  rw [machinesOf, run_bind_of_ok (run_adapt_eq_ok_iff.mpr hlist)]
  have hkeys := hkeyed.instances.map_values
  by_cases hempty : site.service.instances.keys.isEmpty = true
  · have hnone : site.service.instances.values = [] := by
      rwa [List.isEmpty_iff, ← hkeys, List.map_eq_nil_iff] at hempty
    rw [if_pos hempty, Service.machines, hnone]
    exact ⟨site₁, run_pureExcept now _ _, h₁⟩
  · have hdirect₁ := h₁.isDirect h
    obtain ⟨cs, rfl⟩ := h₁
    obtain ⟨site₂, hdescribe, h₂⟩ :=
      run_describeInstances hdirect₁ now s.clusterName
        site.service.instances.keys
    have hall := hkeyed.instances.filterMap_names fun _ hv => hv
    rw [hkeys] at hall
    rw [if_neg hempty, run_bind_of_ok (run_adapt_eq_ok_iff.mpr hdescribe),
      Service.machines]
    exact ⟨site₂,
      congrArg
        (fun is : List ContainerInstance =>
            (Except.ok
                (Std.ExtTreeMap.ofList (is.map fun i => (i.arn, i.machineId))),
              site₂)) hall, .trans ⟨cs, rfl⟩ h₂⟩

/-- The agents of a server are read from what its service keeps. -/
theorem readAgents_run
    (h : site.IsDirect) (hkeyed : site.service.Keyed) (now : UInt64)
    (server : String) (s : Settings) :
    ∃ site',
      (readAgents server s).run.run now site =
        (.ok (ownedAgents
              (site.service.withDefinition (site.service.running s.clusterName))
              site.service.machines server), site') ∧
      site.OnlyNoted site' := by
  obtain ⟨site₁, hlisted, h₁⟩ := listedTasks_run h hkeyed now s
  have hdirect₁ := h₁.isDirect h
  obtain ⟨cs, rfl⟩ := h₁
  obtain ⟨site₂, hmachines, h₂⟩ :=
    machinesOf_run hdirect₁ (hkeyed.noted cs) now s
  refine ⟨site₂, ?_, .trans ⟨cs, rfl⟩ h₂⟩
  rw [readAgents, run_bind_of_ok hlisted, run_bind_of_ok hmachines]
  rfl

end AgentFleet
