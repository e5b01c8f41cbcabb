import Mathlib.Data.List.Induction
import AgentFleet.Proofs.CallOrder
import AgentFleet.Proofs.Reading

/-!
# Listings

A listing asks for each definition when it comes upon the first task of it, and
keeps the answer.  What it lists is the same as if each definition had been
asked for anew.  What it saves are calls: a definition that is stored is asked
for once, and one that is gone once for each of its tasks, because a refusal is
not kept.
-/

namespace AgentFleet

namespace Service

/-- Each task with its definition, which is described anew for each of them; a
task is left out if that is refused. -/
def describedAnew
    (s : Service) (ts : List Task) : List (Task × TaskDefinition) :=
  ts.filterMap fun t =>
    (s.describeDefinition t.definitionArn).toOption.map fun d => (t, d)

/-- The calls that describe definitions, in the order in which they come up:
none for a definition that is stored and has come up before. -/
def describing (s : Service) (arns : List String) : List Call :=
  arns.zipIdx.filterMap fun (arn, n) =>
    if arn ∈ s.definitions ∧ arn ∈ arns.take n then none
    else some (.describeDefinition arn)

/-- The calls of a listing: the tasks are listed, and if there are any they are
described, and then their definitions. -/
def listing
    (s : Service) (cluster : String) (status : Option DesiredStatus) :
    List Call :=
  .listTasks ⟨cluster, status⟩ ::
    if s.running cluster = [] then []
    else
      .describeTasks cluster ((s.running cluster).map Task.arn) ::
        s.describing ((s.running cluster).map Task.definitionArn)

/-- What is remembered are the stored definitions among those that have come up.
-/
def Remembers
    (s : Service) (known : Std.ExtTreeMap String TaskDefinition)
    (arns : List String) : Prop :=
  ∀ (arn : String) (d : TaskDefinition), known[arn]? = some d ↔
    arn ∈ arns ∧ s.definitions[arn]? = some d

variable {s : Service}

theorem withDefinition_eq_describedAnew
    (s : Service) (ts : List Task) :
    s.withDefinition ts = s.describedAnew ts := by
  rw [withDefinition, describedAnew]
  congr 1
  funext t
  rw [describeDefinition]
  cases s.definitions[t.definitionArn]? with
  | none => rfl
  | some d => rfl

/-- Tasks are listed in the order of their names. -/
theorem Keyed.pairwise_running
    (h : s.Keyed) (cluster : String) :
    ((s.running cluster).map Task.arn).Pairwise (· < ·) :=
  h.tasks.pairwise_names.sublist (List.filter_sublist.map Task.arn)

/-! ## Describing definitions -/

theorem describing_concat
    (s : Service) (arns : List String) (arn : String) :
    s.describing (arns ++ [arn]) =
      s.describing arns ++
        if arn ∈ s.definitions ∧ arn ∈ arns then []
        else [.describeDefinition arn] := by
  rw [describing, List.zipIdx_append, List.filterMap_append]
  congr 1
  · apply List.filterMap_congr
    rintro ⟨arn', n⟩ hmem
    have hn : n < arns.length := by
      simpa using List.snd_lt_of_mem_zipIdx hmem
    simp only [List.take_append_of_le_length (Nat.le_of_lt hn)]
  · by_cases hagain : arn ∈ s.definitions ∧ arn ∈ arns
    · simp [hagain]
    · simp [hagain]

theorem count_describing
    (s : Service) (arns : List String) (arn : String) :
    (s.describing arns).count (.describeDefinition arn) =
      if arn ∈ s.definitions then if arn ∈ arns then 1 else 0
      else arns.count arn := by
  induction arns using List.reverseRecOn with
  | nil => simp [describing]
  | append_singleton arns last ih =>
    rw [describing_concat, List.count_append, ih, List.count_append]
    by_cases hlast : last = arn
    · subst hlast
      by_cases hstored : last ∈ s.definitions
      · by_cases hbefore : last ∈ arns
        · simp [hstored, hbefore]
        · simp [hstored, hbefore]
      · simp [hstored]
    · have hother :
          (if last ∈ s.definitions ∧ last ∈ arns then []
                else [Call.describeDefinition last]).count
              (.describeDefinition arn) =
            0 := by
        split
        · rfl
        · simp [hlast]
      rw [hother]
      simp [hlast, Ne.symm hlast]

namespace Remembers

variable {known : Std.ExtTreeMap String TaskDefinition} {arns : List String}
  {arn : String}

theorem nil (s : Service) : s.Remembers ∅ [] := by
  intro arn d
  simp

theorem mem_iff
    (h : s.Remembers known arns) :
    arn ∈ known ↔ arn ∈ s.definitions ∧ arn ∈ arns := by
  simp only [Std.ExtTreeMap.mem_iff_isSome_getElem?, Option.isSome_iff_exists,
    h arn, exists_and_left, and_comm]

/-- What is remembered is not described once more. -/
theorem describing_of_mem
    (h : s.Remembers known arns) (hmem : arn ∈ known) :
    s.describing (arns ++ [arn]) = s.describing arns := by
  rw [describing_concat, if_pos (h.mem_iff.mp hmem), List.append_nil]

theorem describing_of_notMem
    (h : s.Remembers known arns) (hmem : arn ∉ known) :
    s.describing (arns ++ [arn]) =
      s.describing arns ++ [.describeDefinition arn] := by
  rw [describing_concat, if_neg (mt h.mem_iff.mpr hmem)]

/-- There is nothing to remember of a definition that came up before or is gone.
-/
theorem again
    (h : s.Remembers known arns)
    (harn : arn ∈ arns ∨ s.definitions[arn]? = none) :
    s.Remembers known (arns ++ [arn]) := by
  intro arn' d
  rw [h arn' d, List.mem_append, List.mem_singleton]
  constructor
  · rintro ⟨hmem, hd⟩
    exact ⟨Or.inl hmem, hd⟩
  · rintro ⟨hmem | rfl, hd⟩
    · exact ⟨hmem, hd⟩
    · refine ⟨harn.resolve_right ?_, hd⟩
      rw [hd]
      exact Option.some_ne_none d

theorem insert
    (h : s.Remembers known arns) {d : TaskDefinition}
    (hd : s.definitions[arn]? = some d) :
    s.Remembers (known.insert arn d) (arns ++ [arn]) := by
  intro arn' d'
  rw [Table.getElem?_insert_eq_some_iff, h arn' d', List.mem_append,
    List.mem_singleton]
  constructor
  · rintro (⟨rfl, rfl⟩ | ⟨-, hmem, hd'⟩)
    · exact ⟨Or.inr rfl, hd⟩
    · exact ⟨Or.inl hmem, hd'⟩
  · rintro ⟨hmem, hd'⟩
    by_cases harn : arn = arn'
    · subst harn
      exact Or.inl ⟨rfl, Option.some.inj (hd.symm.trans hd')⟩
    · exact Or.inr ⟨harn, hmem.resolve_right (Ne.symm harn), hd'⟩

end Remembers
end Service

open Script

variable {site site' : Site}

/-- A run that changes nothing but the journal writes its calls there. -/
theorem Site.IsDirect.eq_noted_calls
    {α : Type} {x : Script α} {a : α} (h : site.IsDirect) {now : UInt64}
    (hrun : x.run now site = (a, site')) (hnoted : site.OnlyNoted site') :
    site' = site.withService (site.service.noted (x.calls now site)) := by
  obtain ⟨cs, rfl⟩ := hnoted
  have hjournal := h.run_journal now x
  rw [hrun] at hjournal
  rw [List.append_cancel_left hjournal]

/-- The definitions of further tasks are described as those that came up before
demand. -/
theorem describing_append_calls
    (h : site.IsDirect) (now : UInt64)
    {known : Std.ExtTreeMap String TaskDefinition} {earlier : List String}
    (hknown : site.service.Remembers known earlier) (ts : List Task) :
    site.service.describing (earlier ++ ts.map Task.definitionArn) =
      site.service.describing earlier ++
        (withDefinitions known ts).run.calls now site := by
  induction ts generalizing known earlier site with
  | nil =>
    rw [List.map_nil, List.append_nil]
    exact (List.append_nil _).symm
  | cons t rest ih =>
    rw [List.map_cons, ← List.singleton_append, ← List.append_assoc,
      withDefinitions]
    cases hd : known[t.definitionArn]? with
    | some d =>
      have hmem : t.definitionArn ∈ known := by
        rw [Std.ExtTreeMap.mem_iff_isSome_getElem?, hd, Option.isSome_some]
      have hcame := (hknown.mem_iff.mp hmem).2
      rw [ih h (hknown.again (Or.inl hcame)), hknown.describing_of_mem hmem,
        calls_bind_pure]
    | none =>
      have hnew : t.definitionArn ∉ known := by
        rw [Std.ExtTreeMap.mem_iff_isSome_getElem?, hd]
        exact Bool.false_ne_true
      obtain ⟨site₁, hdescribe, h₁⟩ :=
        run_describeDefinition h now t.definitionArn
      have hdirect := h₁.isDirect h
      obtain ⟨cs, rfl⟩ := h₁
      rw [Service.describeDefinition] at hdescribe
      rw [calls_bind_of_ok (run_lift hdescribe), calls_lift, calls_call,
        ← List.append_assoc, ← hknown.describing_of_notMem hnew]
      cases hstored : site.service.definitions[t.definitionArn]? with
      | some d =>
        rw [calls_bind_pure]
        exact ih hdirect (hknown.insert hstored)
      | none => exact ih hdirect (hknown.again (Or.inr hstored))

/-- A listing makes the calls it is said to make. -/
theorem listedTasksWith_calls
    (h : site.IsDirect) (hkeyed : site.service.Keyed) (now : UInt64)
    (s : Settings) {status : Option DesiredStatus}
    (hstatus : status.getD .running = .running) :
    (listedTasksWith s status).run.calls now site =
      site.service.listing s.clusterName status := by
  obtain ⟨site₁, hlist, h₁⟩ := run_listTasks h now ⟨s.clusterName, status⟩
  rw [Service.listTasks_eq _ _ hstatus] at hlist
  rw [listedTasksWith, calls_bind_of_ok (run_adapt_eq_ok_iff.mpr hlist),
    calls_adapt, calls_call, Service.listing]
  by_cases hempty : site.service.running s.clusterName = []
  · rw [if_pos hempty, if_pos (by simp [hempty])]
    rfl
  · have hdirect₁ := h₁.isDirect h
    obtain ⟨cs, rfl⟩ := h₁
    obtain ⟨site₂, hdescribe, h₂⟩ :=
      run_describeTasks hdirect₁ now s.clusterName
        ((site.service.running s.clusterName).map Task.arn)
    have hdirect₂ := h₂.isDirect hdirect₁
    obtain ⟨cs', rfl⟩ := h₂
    have htasks :
        ((site.withService (site.service.noted cs)).service.describeTasks
              s.clusterName
              ((site.service.running s.clusterName).map Task.arn)) =
          site.service.running s.clusterName :=
      hkeyed.describeTasks_running s.clusterName
    rw [htasks] at hdescribe
    have hrest := describing_append_calls hdirect₂ now (.nil _)
      (site.service.running s.clusterName)
    rw [if_neg hempty, if_neg (by simpa using hempty),
      calls_bind_of_ok (run_adapt_eq_ok_iff.mpr hdescribe), calls_adapt,
      calls_call]
    exact congrArg ([_, _] ++ ·) hrest.symm

/-- A listing gives each task of the cluster that is meant to run and whose
definition is stored, with that definition and in the order of the names, which
is what describing the definition anew for each task gives.  The containers that
are shown are those of the same tasks.  Nothing is changed but the journal: the
tasks are listed and described, then each stored definition once, where it first
comes up, and a missing one for each of its tasks. -/
theorem listing_describes_once
    {site : Site} (hdirect : site.IsDirect) (hpossible : site.service.Possible)
    (now : UInt64) (server : String) (s : Settings) :
    ∃ listed,
      listed = site.service.describedAnew (site.service.running s.clusterName) ∧
      (listedTasks s).run.run now site =
        (.ok listed,
          site.withService
            (site.service.noted (site.service.listing s.clusterName none))) ∧
      (runningViews server s).run.run now site =
        (.ok (listed.map fun p => ContainerView.ofTask p.1 p.2 server),
          site.withService
            (site.service.noted
                (site.service.listing s.clusterName (some .running)))) ∧
      listed.Pairwise (fun p q => p.1.arn < q.1.arn) ∧
      (∀ t d,
          (t, d) ∈ listed ↔
            (site.service.tasks[t.arn]? = some t ∧
              t.cluster = s.clusterName ∧
              t.desiredStatus = .running) ∧
            site.service.definitions[t.definitionArn]? = some d) ∧
      ∀ (arns : List String) (arn : String),
        (site.service.describing arns).count (.describeDefinition arn) =
          if arn ∈ site.service.definitions then if arn ∈ arns then 1 else 0
          else arns.count arn := by
  have hkeyed := hpossible.keyed
  have hrun :
      ∀ {status : Option DesiredStatus},
        status.getD .running = .running →
        (listedTasksWith s status).run.run now site =
          (.ok (site.service.withDefinition
                (site.service.running s.clusterName)),
            site.withService
              (site.service.noted
                  (site.service.listing s.clusterName status))) := by
    intro status hstatus
    obtain ⟨site', hlisted, hnoted⟩ :=
      listedTasksWith_run hdirect hkeyed now s hstatus
    rw [hlisted, hdirect.eq_noted_calls hlisted hnoted,
      listedTasksWith_calls hdirect hkeyed now s hstatus]
  refine ⟨_, rfl, ?_, ?_, ?_, ?_, Service.count_describing site.service⟩
  · rw [← Service.withDefinition_eq_describedAnew]
    exact hrun rfl
  · rw [← Service.withDefinition_eq_describedAnew, runningViews]
    exact run_bind_of_ok (hrun rfl) _
  · rw [← Service.withDefinition_eq_describedAnew]
    exact Service.pairwise_withDefinition
      (hkeyed.pairwise_running s.clusterName)
  · intro t d
    rw [← Service.withDefinition_eq_describedAnew,
      Service.mem_withDefinition_iff, Service.mem_running_iff hkeyed.tasks]

/-- A task of the cluster `agents` that is meant to run. -/
def plantedTask (arn definitionArn : String) : Task where
  arn := arn
  definitionArn := definitionArn
  cluster := "agents"
  instanceArn := none
  lastStatus := "RUNNING"
  desiredStatus := .running
  launchType := none
  capacityProvider := none
  createdAt := none

/-- A definition without containers. -/
def emptyDefinition (arn : String) : TaskDefinition where
  arn := arn
  family := "planted"
  revision := 1
  status := .active
  containers := []
  networkMode := .bridge
  compatibilities := []
  cpu := none
  memory := none

/-- A site with two tasks of one definition and two more whose definition is
missing. -/
def plantedSite : Site where
  gateway.service :=
    [plantedTask "t1" "gone", plantedTask "t2" "kept", plantedTask "t3" "kept",
      plantedTask "t4" "gone"].foldr
        (fun t service => service.plantTask t (emptyDefinition "kept")) {}

/-- At `plantedSite` the definition of the two tasks that are listed is asked
for once, and the missing one twice. -/
theorem listing_describes_once_plantedSite :
    ∃ listed site',
      (listedTasks smallSettings).run.run 0 plantedSite = (.ok listed, site') ∧
      listed.map (fun p => p.1.arn) = ["t2", "t3"] ∧
      site'.service.journal =
        [.listTasks ⟨"agents", none⟩,
          .describeTasks "agents" ["t1", "t2", "t3", "t4"],
          .describeDefinition "gone", .describeDefinition "kept",
          .describeDefinition "gone"] := by
  have hdirect : plantedSite.IsDirect := rfl
  have hpossible : plantedSite.service.Possible :=
    (((Service.Possible.empty.plant _ _).plant _ _).plant _ _).plant _ _
  obtain ⟨listed, hlisted, hrun, -⟩ :=
    listing_describes_once hdirect hpossible 0 "ci" smallSettings
  refine ⟨listed, _, hrun, ?_, ?_⟩
  · rw [hlisted]
    decide +kernel
  · decide +kernel

end AgentFleet
