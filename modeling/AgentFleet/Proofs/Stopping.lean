import AgentFleet.Proofs.Creating

/-!
# Stopping agents

What is left of a service when an agent has been stopped and nothing is arranged
against the removal of definitions.  Each table is described entry by entry, for
a task that is still running as well as for one that is stopped already, is in
another cluster or does not exist.
-/

namespace AgentFleet

/-- The task as a stop in a cluster leaves it. -/
def Task.stoppedIn (cluster : String) (t : Task) : Task :=
  if t.cluster = cluster then Service.stopped t else t

theorem Task.stoppedIn_stoppedIn
    (cluster : String) (t : Task) :
    (t.stoppedIn cluster).stoppedIn cluster = t.stoppedIn cluster := by
  by_cases h : t.cluster = cluster
  · simp [stoppedIn, Service.stopped, h]
  · simp [stoppedIn, h]

attribute [ext] Service

namespace Service

variable {s : Service} {cluster arn : String}

/-! ## One task -/

/-- The service once it was asked to stop a task. -/
def halting (cluster arn : String) (s : Service) : Service :=
  (s.stopTask cluster arn).2

/-- The task of a name, if a stop in the cluster is the first one for it. -/
def unstopped? (cluster arn : String) (s : Service) : Option Task :=
  s.tasks[arn]?.filter fun t => t.cluster = cluster ∧ t.desiredStatus ≠ .stopped

theorem unstopped?_eq_some_iff
    {t : Task} :
    s.unstopped? cluster arn = some t ↔
      s.tasks[arn]? = some t ∧
      t.cluster = cluster ∧
      t.desiredStatus ≠ .stopped := by
  rw [unstopped?, Option.filter_eq_some_iff, decide_eq_true_iff]

/-- A stop in the cluster takes the task off the instance called `a`. -/
def frees (cluster arn a : String) (s : Service) : Prop :=
  ∃ t, s.unstopped? cluster arn = some t ∧ t.instanceArn = some a

instance
    (cluster arn a : String) (s : Service) :
    Decidable (s.frees cluster arn a) :=
  match h : s.unstopped? cluster arn with
  | none => isFalse (by simp [frees, h])
  | some t => decidable_of_iff (t.instanceArn = some a) (by simp [frees, h])

theorem halting_cases
    (cluster arn : String) (s : Service) :
    (s.unstopped? cluster arn = none ∧
      (∀ t, s.tasks[arn]? = some t → t.cluster ≠ cluster) ∧
      s.halting cluster arn = s) ∨
    (∃ t,
        s.unstopped? cluster arn = none ∧
        s.tasks[arn]? = some t ∧
        t.cluster = cluster ∧
        s.halting cluster arn =
          { s with tasks := s.tasks.insert arn (stopped t) }) ∨
    (∃ t,
        s.unstopped? cluster arn = some t ∧
        s.tasks[arn]? = some t ∧
        t.cluster = cluster ∧
        s.halting cluster arn =
          { s with tasks := s.tasks.insert arn (stopped t) }.handBack arn
            t) := by
  rcases stopTask_cases cluster arn s with
    ⟨e, heq, hnone⟩ | ⟨t, ht, hcluster, hstopped, heq⟩ |
      ⟨t, ht, hcluster, hstopped, heq⟩
  · refine Or.inl ⟨?_, hnone, congrArg Prod.snd heq⟩
    rw [Option.eq_none_iff_forall_ne_some]
    intro t ht
    obtain ⟨ht, hcluster, -⟩ := unstopped?_eq_some_iff.mp ht
    exact hnone t ht hcluster
  · refine Or.inr (Or.inl ⟨t, ?_, ht, hcluster, congrArg Prod.snd heq⟩)
    rw [unstopped?, ht]
    simp [hstopped]
  · exact Or.inr
      (Or.inr
          ⟨t, unstopped?_eq_some_iff.mpr ⟨ht, hcluster, hstopped⟩, ht, hcluster,
            congrArg Prod.snd heq⟩)

theorem getElem?_tasks_halting
    (cluster arn k : String) (s : Service) :
    (s.halting cluster arn).tasks[k]? =
      if arn = k then s.tasks[k]?.map (Task.stoppedIn cluster)
      else s.tasks[k]? := by
  have hinsert :
      ∀ t,
        s.tasks[arn]? = some t →
        t.cluster = cluster →
        (s.tasks.insert arn (stopped t))[k]? =
          if arn = k then s.tasks[k]?.map (Task.stoppedIn cluster)
          else s.tasks[k]? := by
    intro t ht hcluster
    rw [Std.ExtTreeMap.getElem?_insert]
    by_cases hk : arn = k
    · subst hk
      simp [ht, Task.stoppedIn, hcluster]
    · simp [hk]
  rcases halting_cases cluster arn s with
    ⟨-, hnone, heq⟩ | ⟨t, -, ht, hcluster, heq⟩ | ⟨t, -, ht, hcluster, heq⟩
  · rw [heq]
    by_cases hk : arn = k
    · subst hk
      rw [if_pos rfl]
      cases ht : s.tasks[arn]? with
      | none => rfl
      | some t => rw [Option.map_some, Task.stoppedIn, if_neg (hnone t ht)]
    · rw [if_neg hk]
  · rw [heq]
    exact hinsert t ht hcluster
  · rw [heq]
    rcases handBack_cases arn t
      { s with tasks := s.tasks.insert arn (stopped t) } with
      ⟨-, heq'⟩ | ⟨a, i, -, -, heq'⟩ <;> rw [heq'] <;>
        exact hinsert t ht hcluster

theorem getElem?_reservations_halting
    (cluster arn k : String) (s : Service) :
    (s.halting cluster arn).reservations[k]? =
      if arn = k ∧ (s.unstopped? cluster arn).isSome then none
      else s.reservations[k]? := by
  rcases halting_cases cluster arn s with
    ⟨hnone, -, heq⟩ | ⟨t, hnone, -, -, heq⟩ | ⟨t, hsome, -, -, heq⟩
  · rw [heq, hnone]
    simp
  · rw [heq, hnone]
    simp
  · have herase :
        (s.reservations.erase arn)[k]? =
          if arn = k ∧ (s.unstopped? cluster arn).isSome then none
          else s.reservations[k]? := by
      rw [Std.ExtTreeMap.getElem?_erase, hsome]
      simp
    rw [heq]
    rcases handBack_cases arn t
      { s with tasks := s.tasks.insert arn (stopped t) } with
      ⟨-, heq'⟩ | ⟨a, i, -, -, heq'⟩ <;> rw [heq'] <;> exact herase

theorem getElem?_instances_halting
    (cluster arn k : String) (s : Service) :
    (s.halting cluster arn).instances[k]? =
      if s.frees cluster arn k then
        s.instances[k]?.map (·.release s.reservations[arn]?)
      else s.instances[k]? := by
  rcases halting_cases cluster arn s with
    ⟨hnone, -, heq⟩ | ⟨t, hnone, -, -, heq⟩ | ⟨t, hsome, -, -, heq⟩
  · rw [heq, if_neg (by simp [frees, hnone])]
  · rw [heq, if_neg (by simp [frees, hnone])]
  · have hfrees : s.frees cluster arn k ↔ t.instanceArn = some k := by
      simp [frees, hsome]
    rw [heq]
    rcases handBack_cases arn t
      { s with tasks := s.tasks.insert arn (stopped t) } with
      ⟨hnone, heq'⟩ | ⟨a, i, ha, hi, heq'⟩
    · rw [heq']
      by_cases hk : t.instanceArn = some k
      · have hmissing : s.instances[k]? = none := hnone k hk
        rw [if_pos (hfrees.mpr hk)]
        change s.instances[k]? = _
        rw [hmissing]
        rfl
      · exact (if_neg (mt hfrees.mp hk)).symm
    · rw [heq']
      change (s.instances.insert a (i.release s.reservations[arn]?))[k]? = _
      rw [Std.ExtTreeMap.getElem?_insert]
      have hi : s.instances[a]? = some i := hi
      by_cases hk : a = k
      · subst hk
        rw [if_pos (hfrees.mpr ha), hi]
        simp
      · have hother : ¬t.instanceArn = some k := by
          rw [ha]
          exact fun h => hk (Option.some.inj h)
        rw [if_neg (mt hfrees.mp hother)]
        simp [hk]

/-- A stop touches only tasks, instances and reservations. -/
theorem halting_eq (cluster arn : String) (s : Service) :
    s.halting cluster arn = { s with
      tasks := (s.halting cluster arn).tasks
      instances := (s.halting cluster arn).instances
      reservations := (s.halting cluster arn).reservations } := by
  rcases halting_cases cluster arn s with
    ⟨-, -, heq⟩ | ⟨t, -, -, -, heq⟩ | ⟨t, -, -, -, heq⟩
  · rw [heq]
  · rw [heq]
  · rw [heq]
    rcases handBack_cases arn t
      { s with tasks := s.tasks.insert arn (stopped t) } with
      ⟨-, heq'⟩ | ⟨a, i, -, -, heq'⟩ <;> rw [heq']

@[simp]
theorem halting_definitions :
    (s.halting cluster arn).definitions = s.definitions := by
  rw [halting_eq]

@[simp]
theorem halting_revisions :
    (s.halting cluster arn).revisions = s.revisions := by
  rw [halting_eq]

@[simp]
theorem halting_launched : (s.halting cluster arn).launched = s.launched := by
  rw [halting_eq]

@[simp]
theorem halting_journal : (s.halting cluster arn).journal = s.journal := by
  rw [halting_eq]

@[simp]
theorem halting_hasProviders :
    (s.halting cluster arn).hasProviders = s.hasProviders := by
  rw [halting_eq]

@[simp]
theorem halting_mishaps : (s.halting cluster arn).mishaps = s.mishaps := by
  rw [halting_eq]

/-- A task is not stopped twice. -/
theorem unstopped?_halting_self :
    (s.halting cluster arn).unstopped? cluster arn = none := by
  rw [unstopped?, getElem?_tasks_halting, if_pos rfl, Option.filter_eq_none_iff]
  intro t ht
  obtain ⟨t, -, rfl⟩ := Option.map_eq_some_iff.mp ht
  by_cases hcluster : t.cluster = cluster
  · simp [Task.stoppedIn, hcluster, stopped]
  · simp [Task.stoppedIn, hcluster]

/-- Stops of a task at services that agree in what a stop touches come to the
same there. -/
theorem halting_congr
    {s' : Service} (htasks : s'.tasks = s.tasks)
    (hinstances : s'.instances = s.instances)
    (hreservations : s'.reservations = s.reservations) (cluster arn : String) :
    (s'.halting cluster arn).tasks = (s.halting cluster arn).tasks ∧
    (s'.halting cluster arn).instances = (s.halting cluster arn).instances ∧
    (s'.halting cluster arn).reservations =
      (s.halting cluster arn).reservations := by
  have htask : s'.unstopped? cluster arn = s.unstopped? cluster arn := by
    rw [unstopped?, unstopped?, htasks]
  have hfrees : ∀ k, s'.frees cluster arn k ↔ s.frees cluster arn k := by
    intro k
    rw [frees, frees, htask]
  refine ⟨?_, ?_, ?_⟩ <;> apply Std.ExtTreeMap.ext_getElem? <;> intro k
  · rw [getElem?_tasks_halting, getElem?_tasks_halting, htasks]
  · simp only [getElem?_instances_halting, hfrees, hinstances, hreservations]
  · rw [getElem?_reservations_halting, getElem?_reservations_halting, htask,
      hreservations]

theorem halting_noted
    (cs : List Call) (cluster arn : String) (s : Service) :
    (s.noted cs).halting cluster arn = (s.halting cluster arn).noted cs := by
  have hsame : (s.noted cs).tasks = s.tasks := rfl
  obtain ⟨htasks, hinstances, hreservations⟩ :=
    halting_congr hsame rfl rfl cluster arn
  rw [halting_eq, halting_eq cluster arn s]
  exact Service.ext rfl rfl htasks hinstances hreservations rfl rfl rfl rfl

/-! ## One agent -/

/-- The service without a definition. -/
def without (arn : String) (s : Service) : Service :=
  { s with definitions := s.definitions.erase arn }

theorem halting_without
    (arn' cluster arn : String) (s : Service) :
    (s.without arn').halting cluster arn =
      (s.halting cluster arn).without arn' := by
  have hsame : (s.without arn').tasks = s.tasks := rfl
  obtain ⟨htasks, hinstances, hreservations⟩ :=
    halting_congr hsame rfl rfl cluster arn
  rw [halting_eq, halting_eq cluster arn s]
  exact Service.ext rfl rfl htasks hinstances hreservations rfl rfl rfl rfl

/-- If nothing is arranged against it, all that comes of the removal of a
definition is that it is gone. -/
theorem removing_eq
    (now : UInt64) (arn : String) (hderegister : s.mishaps.deregister = none)
    (hdelete : s.mishaps.delete = none) :
    s.removing now arn =
      (s.noted [.deregister arn, .delete [arn]]).without arn := by
  obtain ⟨ds, hfirst⟩ : ∃ ds, ((s.noted [.deregister arn]).deregister arn).2 =
      { s.noted [.deregister arn] with definitions := ds } := by
    rcases deregister_cases arn (s.noted [.deregister arn]) with
      ⟨e, hsome, -⟩ | ⟨-, -, heq⟩ | ⟨d, -, -, heq⟩
    · exact absurd (hderegister.symm.trans hsome) (Option.some_ne_none e).symm
    · exact ⟨_, congrArg Prod.snd heq⟩
    · exact ⟨_, congrArg Prod.snd heq⟩
  obtain ⟨ds', hsecond⟩ : ∃ ds', s.removing now arn =
      { s.noted [.deregister arn, .delete [arn]] with definitions := ds' } := by
    change ∃ ds', ((((s.noted [.deregister arn]).deregister arn).2.noted
      [.delete [arn]]).delete [arn]).2 = _
    rw [hfirst]
    rcases delete_cases [arn] ({ s.noted [.deregister arn] with
      definitions := ds }.noted [.delete [arn]]) with ⟨e, hsome, -⟩ | ⟨-, heq⟩
    · exact absurd (hdelete.symm.trans hsome) (Option.some_ne_none e).symm
    · have hnoted : s.noted [.deregister arn, .delete [arn]] =
          (s.noted [.deregister arn]).noted [.delete [arn]] :=
        (noted_noted [.deregister arn] [.delete [arn]] s).symm
      rw [heq, hnoted]
      exact ⟨_, rfl⟩
  have hdefinitions := removing_definitions now arn hderegister hdelete
  rw [hsecond] at hdefinitions ⊢
  exact congrArg
    (fun ds =>
        { s.noted [.deregister arn, .delete [arn]] with definitions := ds })
    hdefinitions

/-- The service without an agent: its task is stopped and its definition is
gone. -/
def quit (cluster : String) (s : Service) (t : Agent) : Service :=
  (s.halting cluster t.taskArn).without t.definitionArn

theorem quit_noted
    (cs : List Call) (t : Agent) :
    (s.noted cs).quit cluster t = (s.quit cluster t).noted cs := by
  rw [quit, halting_noted]
  rfl

@[simp]
theorem quit_mishaps (t : Agent) : (s.quit cluster t).mishaps = s.mishaps :=
  halting_mishaps

end Service

/-- The calls that stop an agent. -/
def stopCalls (s : Settings) (t : Agent) : List Call :=
  [.stopTask s.clusterName t.taskArn stoppedBecause,
    .deregister t.definitionArn, .delete [t.definitionArn]]

variable {site : Site}

/-- If nothing is arranged against the removal of its definition, a stop leaves
the service without the agent. -/
theorem stopAgent_run_eq
    (h : site.IsDirect) (hderegister : site.service.mishaps.deregister = none)
    (hdelete : site.service.mishaps.delete = none) (now : UInt64) (s : Settings)
    (t : Agent) :
    (stopAgent s t).run now site =
      ((),
        site.withService
          ((site.service.quit s.clusterName t).noted (stopCalls s t))) := by
  have hstop :=
    Script.run_call h now (.stopTask s.clusterName t.taskArn stoppedBecause)
  have hnoted :=
    Service.halting_noted [.stopTask s.clusterName t.taskArn stoppedBecause]
      s.clusterName t.taskArn site.service
  rw [stopAgent, Script.run_bind, Script.run_discard, hstop,
    removeDefinition_run (h.withService _)]
  change ((),
      site.withService
        (Service.removing now t.definitionArn
            ((site.service.noted
                [.stopTask s.clusterName t.taskArn stoppedBecause]).halting
                s.clusterName t.taskArn))) =
    _
  have hmishaps : (site.service.halting s.clusterName t.taskArn).mishaps =
      site.service.mishaps := Service.halting_mishaps
  rw [hnoted, Service.removing_eq, Service.noted_noted]
  · rfl
  · exact hmishaps ▸ hderegister
  · exact hmishaps ▸ hdelete

/-- Several stops leave the service without any of the agents. -/
theorem stopAgents_run_eq
    (h : site.IsDirect) (hderegister : site.service.mishaps.deregister = none)
    (hdelete : site.service.mishaps.delete = none) (now : UInt64) (s : Settings)
    (ts : List Agent) :
    (ts.forM (stopAgent s)).run now site =
      ((),
        site.withService
          ((ts.foldl (Service.quit s.clusterName) site.service).noted
              (ts.flatMap (stopCalls s)))) := by
  induction ts generalizing site with
  | nil =>
    rw [List.flatMap_nil, Service.noted, List.append_nil]
    rfl
  | cons t ts ih =>
    have hmishaps :
        (site.service.quit s.clusterName t).mishaps = site.service.mishaps :=
      Service.quit_mishaps t
    have hrest := ih (h.withService
      ((site.service.quit s.clusterName t).noted (stopCalls s t)))
      (hmishaps ▸ hderegister) (hmishaps ▸ hdelete)
    have hfold :
        ts.foldl (Service.quit s.clusterName)
            ((site.service.quit s.clusterName t).noted (stopCalls s t)) =
          (ts.foldl (Service.quit s.clusterName)
                (site.service.quit s.clusterName t)).noted (stopCalls s t) :=
      List.foldl_hom (Service.noted (stopCalls s t)) fun _ t' =>
        Service.quit_noted _ t'
    change (stopAgent s t >>= fun _ => ts.forM (stopAgent s)).run now site = _
    rw [Script.run_bind, stopAgent_run_eq h hderegister hdelete, hrest,
      Site.withService_withService, Site.service_withService, hfold,
      Service.noted_noted, List.foldl_cons, List.flatMap_cons]

end AgentFleet
