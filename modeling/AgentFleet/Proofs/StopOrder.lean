import Mathlib.Data.List.Dedup
import AgentFleet.Proofs.Account
import AgentFleet.Proofs.Stopping

/-!
# The order of stops

Agents may be stopped in any order.  Two stops of one task are the same stop
done twice, and stops of two tasks touch different tasks and different
reservations, so that all that has to be seen is that an instance which both
tasks are on gets back the same in either order.  This holds of any instance,
also of one that has more left than it came with.
-/

namespace AgentFleet

/-! ## Releases -/

/-- What is left after two releases with the same bound does not depend on their
order. -/
theorem min_add_right_comm
    (left bound a b : Nat) :
    min (min (left + a) bound + b) bound =
      min (min (left + b) bound + a) bound := by
  omega

/-- Two tasks may be taken off an instance in either order. -/
theorem ContainerInstance.release_right_comm
    (i : ContainerInstance) (a b : Option Demand) :
    (i.release a).release b = (i.release b).release a := by
  cases a with
  | none => cases b <;> rfl
  | some a =>
    cases b with
    | none => rfl
    | some b =>
      rw [release, release, release, release]
      simp only [toNat_ofNat_of_le (Nat.min_le_right _ _),
        min_add_right_comm _ _ a.memory, min_add_right_comm _ _ a.cpu]

namespace Service

variable {s : Service} {cluster arn arn' : String}

/-! ## Two stops -/

theorem unstopped?_halting_of_ne
    (h : arn ≠ arn') :
    (s.halting cluster arn).unstopped? cluster arn' =
      s.unstopped? cluster arn' := by
  rw [unstopped?, getElem?_tasks_halting, if_neg h, unstopped?]

theorem frees_halting_iff
    (h : arn ≠ arn') (a : String) :
    (s.halting cluster arn).frees cluster arn' a ↔ s.frees cluster arn' a := by
  rw [frees, unstopped?_halting_of_ne h, frees]

theorem instances_halting_right_comm
    (h : arn ≠ arn') :
    ((s.halting cluster arn).halting cluster arn').instances =
      ((s.halting cluster arn').halting cluster arn).instances := by
  apply Std.ExtTreeMap.ext_getElem?
  intro k
  have hreserved :
      (s.halting cluster arn).reservations[arn']? = s.reservations[arn']? := by
    rw [getElem?_reservations_halting, if_neg fun hk => h hk.1]
  have hreserved' :
      (s.halting cluster arn').reservations[arn]? = s.reservations[arn]? := by
    rw [getElem?_reservations_halting, if_neg fun hk => h hk.1.symm]
  rw [getElem?_instances_halting, getElem?_instances_halting cluster arn,
    getElem?_instances_halting cluster arn,
    getElem?_instances_halting cluster arn', hreserved, hreserved']
  simp only [frees_halting_iff h, frees_halting_iff h.symm]
  by_cases hfrees : s.frees cluster arn k
  · by_cases hfrees' : s.frees cluster arn' k
    · simp only [if_pos hfrees, if_pos hfrees', Option.map_map,
        Function.comp_def,
        ContainerInstance.release_right_comm _ s.reservations[arn]?]
    · simp only [if_pos hfrees, if_neg hfrees']
  · simp only [if_neg hfrees]

/-- Two tasks may be stopped in either order. -/
theorem halting_right_comm
    (cluster arn arn' : String) (s : Service) :
    (s.halting cluster arn).halting cluster arn' =
      (s.halting cluster arn').halting cluster arn := by
  by_cases h : arn = arn'
  · rw [h]
  have htasks : ((s.halting cluster arn).halting cluster arn').tasks =
      ((s.halting cluster arn').halting cluster arn).tasks := by
    apply Std.ExtTreeMap.ext_getElem?
    intro k
    simp only [getElem?_tasks_halting]
    split_ifs <;> rfl
  have hreservations :
      ((s.halting cluster arn).halting cluster arn').reservations =
        ((s.halting cluster arn').halting cluster arn).reservations := by
    apply Std.ExtTreeMap.ext_getElem?
    intro k
    simp only [getElem?_reservations_halting, unstopped?_halting_of_ne h,
      unstopped?_halting_of_ne (Ne.symm h)]
    split_ifs <;> rfl
  have hinstances : ((s.halting cluster arn).halting cluster arn').instances =
      ((s.halting cluster arn').halting cluster arn).instances :=
    instances_halting_right_comm h
  apply Service.ext
  case tasks => exact htasks
  case instances => exact hinstances
  case reservations => exact hreservations
  all_goals simp

/-! ## Two agents -/

theorem without_right_comm
    (arn arn' : String) (s : Service) :
    (s.without arn).without arn' = (s.without arn').without arn := by
  have herase :
      (s.definitions.erase arn).erase arn' =
        (s.definitions.erase arn').erase arn := by
    apply Std.ExtTreeMap.ext_getElem?
    intro k
    simp only [Std.ExtTreeMap.getElem?_erase]
    split_ifs <;> rfl
  exact congrArg (fun ds => { s with definitions := ds }) herase

/-- Two agents may be stopped in either order, also if they share a task or a
definition. -/
theorem quit_right_comm
    (cluster : String) (s : Service) (t t' : Agent) :
    (s.quit cluster t).quit cluster t' =
      (s.quit cluster t').quit cluster t := by
  rw [quit, quit, quit, quit, halting_without, halting_without,
    halting_right_comm cluster t.taskArn, without_right_comm]

/-! ## Any number of agents -/

theorem getElem?_definitions_quit
    (t : Agent) (k : String) :
    (s.quit cluster t).definitions[k]? =
      if k = t.definitionArn then none else s.definitions[k]? := by
  have herase :
      (s.quit cluster t).definitions = s.definitions.erase t.definitionArn := by
    rw [quit, without, halting_definitions]
  rw [herase, Std.ExtTreeMap.getElem?_erase]
  by_cases hk : t.definitionArn = k
  · simp [hk]
  · simp [hk, Ne.symm hk]

theorem getElem?_definitions_foldl_quit
    (ts : List Agent) (k : String) :
    (ts.foldl (quit cluster) s).definitions[k]? =
      if k ∈ ts.map Agent.definitionArn then none else s.definitions[k]? := by
  induction ts generalizing s with
  | nil => rfl
  | cons t ts ih =>
    rw [List.foldl_cons, ih, getElem?_definitions_quit, List.map_cons]
    by_cases hk : k = t.definitionArn <;> simp [hk]

theorem foldl_quit_journal
    (ts : List Agent) :
    (ts.foldl (quit cluster) s).journal = s.journal := by
  induction ts generalizing s with
  | nil => rfl
  | cons t ts ih => rw [List.foldl_cons, ih, quit, without, halting_journal]

theorem getElem?_tasks_foldl_quit
    (ts : List Agent) (k : String) :
    (ts.foldl (quit cluster) s).tasks[k]? =
      if k ∈ ts.map Agent.taskArn then s.tasks[k]?.map (Task.stoppedIn cluster)
      else s.tasks[k]? := by
  induction ts generalizing s with
  | nil => rfl
  | cons t ts ih =>
    have hquit :
        (s.quit cluster t).tasks = (s.halting cluster t.taskArn).tasks := rfl
    rw [List.foldl_cons, ih, hquit, getElem?_tasks_halting, List.map_cons]
    by_cases hk : t.taskArn = k
    · simp [hk, Function.comp_def, Task.stoppedIn_stoppedIn]
    · simp [hk, Ne.symm hk]

/-! ## What instances get back -/

/-- What stops of the tasks of given names hand back to an instance: once for
each task that is still there to be taken off it, however often it is named. -/
def freed (cluster : String) (arns : List String) (a : String) (s : Service) :
    List (Option Demand) :=
  (arns.dedup.filter (s.frees cluster · a)).map (s.reservations[·]?)

theorem frees_quit_iff
    (t : Agent) (a : String) :
    (s.quit cluster t).frees cluster arn a ↔
      arn ≠ t.taskArn ∧ s.frees cluster arn a := by
  change (s.halting cluster t.taskArn).frees cluster arn a ↔ _
  by_cases h : arn = t.taskArn
  · subst h
    simp [frees, unstopped?_halting_self]
  · simp [frees_halting_iff (Ne.symm h), h]

/-- The first of several stops hands back what it frees, and the others what is
freed besides. -/
theorem freed_cons_perm
    (t : Agent) (arns : List String) (a : String) :
    (s.freed cluster (t.taskArn :: arns) a).Perm
      ((if s.frees cluster t.taskArn a then [s.reservations[t.taskArn]?]
        else []) ++ (s.quit cluster t).freed cluster arns a) := by
  have hothers : (s.quit cluster t).freed cluster arns a =
      (arns.dedup.filter fun arn => arn ≠ t.taskArn ∧ s.frees cluster arn a).map
        (s.reservations[·]?) := by
    simp only [freed, frees_quit_iff]
    apply List.map_congr_left
    intro arn harn
    have hne : t.taskArn ≠ arn := by
      rintro rfl
      simp at harn
    change (s.halting cluster t.taskArn).reservations[arn]? = _
    rw [getElem?_reservations_halting, if_neg fun h => hne h.1]
  have hperm :
      ((t.taskArn :: arns).dedup.filter (s.frees cluster · a)).Perm
        ((if s.frees cluster t.taskArn a then [t.taskArn] else []) ++
            arns.dedup.filter fun arn =>
              arn ≠ t.taskArn ∧ s.frees cluster arn a) := by
    rw [List.perm_ext_iff_of_nodup ((List.nodup_dedup _).filter _)]
    · intro arn
      by_cases hfrees : s.frees cluster t.taskArn a <;>
        by_cases harn : arn = t.taskArn <;> simp [hfrees, harn]
    · split_ifs <;> simp [List.nodup_cons, (List.nodup_dedup arns).filter]
  rw [freed, hothers]
  refine (hperm.map _).trans (List.Perm.of_eq ?_)
  rw [List.map_append]
  split_ifs <;> rfl

theorem getElem?_instances_foldl_quit
    (ts : List Agent) (a : String) :
    (ts.foldl (quit cluster) s).instances[a]? =
      s.instances[a]?.map fun i =>
        (s.freed cluster (ts.map Agent.taskArn) a).foldl
          ContainerInstance.release i := by
  induction ts generalizing s with
  | nil => simp [freed]
  | cons t ts ih =>
    have hquit :
        (s.quit cluster t).instances =
          (s.halting cluster t.taskArn).instances := rfl
    have hfold :
        ∀ i,
          (s.freed cluster (t.taskArn :: ts.map Agent.taskArn) a).foldl
              ContainerInstance.release i =
            ((if s.frees cluster t.taskArn a then [s.reservations[t.taskArn]?]
              else []) ++
              (s.quit cluster t).freed cluster (ts.map Agent.taskArn) a).foldl
              ContainerInstance.release i :=
      (freed_cons_perm t (ts.map Agent.taskArn) a).foldl_eq' fun x _ y _ i =>
        ContainerInstance.release_right_comm i x y
    rw [List.foldl_cons, ih, hquit, getElem?_instances_halting, List.map_cons]
    simp only [hfold, List.foldl_append]
    by_cases hfrees : s.frees cluster t.taskArn a
    · simp only [if_pos hfrees, Option.map_map, Function.comp_def,
        List.foldl_cons, List.foldl_nil]
    · simp only [if_neg hfrees, List.foldl_nil]

theorem getElem?_reservations_foldl_quit
    (ts : List Agent) (k : String) :
    (ts.foldl (quit cluster) s).reservations[k]? =
      if k ∈ ts.map Agent.taskArn ∧ (s.unstopped? cluster k).isSome then none
      else s.reservations[k]? := by
  induction ts generalizing s with
  | nil => simp
  | cons t ts ih =>
    have hreservations : (s.quit cluster t).reservations[k]? =
        (s.halting cluster t.taskArn).reservations[k]? := rfl
    have hunstopped : (s.quit cluster t).unstopped? cluster k =
        (s.halting cluster t.taskArn).unstopped? cluster k := rfl
    rw [List.foldl_cons, ih, hreservations, hunstopped,
      getElem?_reservations_halting, List.map_cons]
    by_cases hk : t.taskArn = k
    · subst hk
      rw [unstopped?_halting_self]
      simp
    · rw [unstopped?_halting_of_ne hk]
      simp [hk, Ne.symm hk]

/-- The second service is the first one without some agents: their definitions
are gone, their tasks in the cluster are stopped, and each of those that was not
stopped before has handed back what it had reserved. -/
structure Quits
    (cluster : String) (ts : List Agent) (s s' : Service) : Prop where
  definitions :
    ∀ k : String,
      s'.definitions[k]? =
        if k ∈ ts.map Agent.definitionArn then none else s.definitions[k]?
  tasks :
    ∀ k : String,
      s'.tasks[k]? =
        if k ∈ ts.map Agent.taskArn then
          s.tasks[k]?.map (Task.stoppedIn cluster)
        else s.tasks[k]?
  instances :
    ∀ a : String,
      s'.instances[a]? =
        s.instances[a]?.map fun i =>
          (s.freed cluster (ts.map Agent.taskArn) a).foldl
            ContainerInstance.release i
  reservations : ∀ k : String,
    s'.reservations[k]? =
      if k ∈ ts.map Agent.taskArn ∧ (s.unstopped? cluster k).isSome then none
      else s.reservations[k]?

theorem quits_foldl_quit
    (cluster : String) (ts : List Agent) (s : Service) :
    Quits cluster ts s (ts.foldl (quit cluster) s) where
  definitions := getElem?_definitions_foldl_quit ts
  tasks := getElem?_tasks_foldl_quit ts
  instances := getElem?_instances_foldl_quit ts
  reservations := getElem?_reservations_foldl_quit ts

end Service

/-- Stopping agents one after the other, in whatever order and however often
each of them is named, leaves the same service but for the calls in its journal,
and those are the same calls.  Nothing is assumed of the tasks, instances and
reservations that are there before. -/
theorem stopAgents_perm
    {site : Site} (hdirect : site.IsDirect)
    (hderegister : site.service.mishaps.deregister = none)
    (hdelete : site.service.mishaps.delete = none) (s : Settings)
    {ts ts' : List Agent} (hperm : ts.Perm ts') (now now' : UInt64) :
    ∃ (service : Service) (calls calls' : List Call),
      (ts.forM (stopAgent s)).run now site =
        ((), site.withService (service.noted calls)) ∧
      (ts'.forM (stopAgent s)).run now' site =
        ((), site.withService (service.noted calls')) ∧
      calls.Perm calls' ∧
      service.journal = site.service.journal ∧
      site.service.Quits s.clusterName ts service := by
  have hsame : ts'.foldl (Service.quit s.clusterName) site.service =
      ts.foldl (Service.quit s.clusterName) site.service :=
    hperm.symm.foldl_eq' (fun t _ t' _ service =>
      Service.quit_right_comm s.clusterName service t t') _
  refine ⟨ts.foldl (Service.quit s.clusterName) site.service,
    ts.flatMap (stopCalls s), ts'.flatMap (stopCalls s),
    stopAgents_run_eq hdirect hderegister hdelete now s ts, ?_,
    hperm.flatMap_right _, Service.foldl_quit_journal ts,
    Service.quits_foldl_quit s.clusterName ts site.service⟩
  rw [stopAgents_run_eq hdirect hderegister hdelete now' s ts', hsame]

/-- An agent that stands for a task and a definition. -/
def namedAgent (taskArn definitionArn : String) : Agent where
  name := "GoCD"
  taskArn := taskArn
  definitionArn := definitionArn
  profile := smallRequest.profile
  job := smallRequest.job
  environment := smallRequest.environment
  target := .unknown
  createdAt := none
  lastStatus := "RUNNING"

/-- A running task of a cluster on the instance called `crowded`. -/
def crowdedTask (cluster arn : String) : Task where
  arn := arn
  definitionArn := "d"
  cluster := cluster
  instanceArn := some "crowded"
  lastStatus := "RUNNING"
  desiredStatus := .running
  launchType := some .ec2
  capacityProvider := none
  createdAt := none

/-- A site with an instance that has more left than it came with, two tasks of
the cluster `agents` on it, of which one has nothing reserved, and one task of
another cluster. -/
def overfullSite : Site where
  gateway.service :=
    { instances :=
        (∅ : Std.ExtTreeMap String ContainerInstance).insert "crowded"
          { arn := "crowded"
            machineId := "i-0"
            status := "ACTIVE"
            runningTasks := 0
            pendingTasks := 2
            registeredCpu := 8
            registeredMemory := 512
            remainingCpu := 4
            remainingMemory := 700 }
      tasks := .ofList ([crowdedTask "agents" "t1", crowdedTask "agents" "t2",
        crowdedTask "others" "t3"].map fun t => (t.arn, t))
      reservations :=
        (∅ : Std.ExtTreeMap String Demand).insert "t1" ⟨16, 2⟩
          |>.insert "t3" ⟨16, 2⟩ }

/-- Agents at `overfullSite`, one of them twice, with one of another cluster and
one whose task does not exist among them. -/
def overfullAgents : List Agent :=
  [namedAgent "t1" "d", namedAgent "t2" "d", namedAgent "t3" "e",
    namedAgent "t1" "d", namedAgent "t4" "d"]

/-- At `overfullSite` the agents are stopped forwards and backwards. -/
theorem stopAgents_perm_overfullSite :
    ∃ (service : Service) (calls calls' : List Call),
      (overfullAgents.forM (stopAgent smallSettings)).run 0 overfullSite =
        ((), overfullSite.withService (service.noted calls)) ∧
      (overfullAgents.reverse.forM (stopAgent smallSettings)).run 0
          overfullSite =
        ((), overfullSite.withService (service.noted calls')) ∧
      service.instances["crowded"]?.map
          (fun i => (i.remainingMemory, i.remainingCpu, i.pendingTasks)) =
        some (512, 6, 0) := by
  have hdirect : overfullSite.IsDirect := rfl
  obtain ⟨service, calls, calls', hrun, hrun', -, -, hquits⟩ :=
    stopAgents_perm hdirect rfl rfl smallSettings
      (List.reverse_perm overfullAgents).symm 0 0
  refine ⟨service, calls, calls', hrun, hrun', ?_⟩
  rw [hquits.instances]
  decide +kernel

end AgentFleet
