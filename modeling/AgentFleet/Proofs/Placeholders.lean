import AgentFleet.Proofs.LifeCycles
import AgentFleet.Proofs.PassCounts
import AgentFleet.Proofs.Passes

/-!
# Placeholders

A placeholder that is taken from the name of a task ends with the number of the
task, whatever cluster the task is in, and the number is read off it whichever
flag stands in front.  A service into which nothing was planted gives each
number once.  So its tasks are told apart by their placeholders, and so are the
serverless agents on a roster that is read from it.
-/

namespace AgentFleet

open Service

namespace Table

variable {β : Type} {m : Std.ExtTreeMap String β}

theorem mem_of_getElem?_eq_some
    {k : String} {v : β} (h : m[k]? = some v) :
    k ∈ m := by
  rw [Std.ExtTreeMap.mem_iff_isSome_getElem?, h, Option.isSome_some]

end Table

/-! ## Placeholders and numbers -/

theorem Text.paddedDigits_inj
    {base : Nat} (hlow : 1 < base) (hhigh : base ≤ 16) {width n n' : Nat}
    (h : paddedDigits base width n = paddedDigits base width n') :
    n = n' := by
  have hvalue := congrArg (valueOf base) h
  rwa [valueOf_paddedDigits hlow hhigh, valueOf_paddedDigits hlow hhigh]
    at hvalue

namespace Target

/-- The name of a task ends with its number, even if there are slashes in the
name of the cluster. -/
theorem lastSegment_taskArn
    (cluster : String) (n : Nat) :
    lastSegment (taskArn cluster n) = Text.hexPadded 32 n := by
  have hdigits :
      ∀ c ∈ (Text.paddedDigits 16 32 n).reverse, (c != '/') = true := by
    intro c hc
    rw [bne_iff_ne]
    rintro rfl
    exact Text.not_mem_paddedDigits (by decide) (by decide) (by decide) 32 n
      (List.mem_reverse.mp hc)
  rw [lastSegment, toList_taskArn, List.reverse_append, List.reverse_cons,
    List.append_assoc, Text.takeWhile_run hdigits (by simp),
    List.reverse_reverse, Text.hexPadded]

theorem toList_placeholder_hexPadded
    (spot : Bool) (n : Nat) :
    (placeholder spot (Text.hexPadded 32 n)).toList =
      "Fargate".toList ++
        ((if spot then "Spot" else "").toList ++
            Text.paddedDigits 16 32 n) := by
  cases spot <;> simp [placeholder, Text.hexPadded]

/-- One flag's words start with the other's, but go on with a letter that is no
digit. -/
theorem placeholder_hexPadded_inj
    {spot spot' : Bool} {n n' : Nat}
    (h : placeholder spot (Text.hexPadded 32 n) =
        placeholder spot' (Text.hexPadded 32 n')) :
    spot = spot' ∧ n = n' := by
  have hchars := congrArg String.toList h
  rw [toList_placeholder_hexPadded, toList_placeholder_hexPadded] at hchars
  have hends := List.append_cancel_left hchars
  have hletter : ∀ m, 'S' ∉ Text.paddedDigits 16 32 m :=
    Text.not_mem_paddedDigits (by decide) (by decide) (by decide) 32
  cases spot with
  | false =>
    cases spot' with
    | false => exact ⟨rfl, Text.paddedDigits_inj (by decide) (by decide) hends⟩
    | true =>
      have hdigits :
          Text.paddedDigits 16 32 n =
            "Spot".toList ++ Text.paddedDigits 16 32 n' := hends
      exact absurd (hdigits ▸ List.mem_append_left _ (by decide)) (hletter n)
  | true =>
    cases spot' with
    | false =>
      have hdigits :
          "Spot".toList ++ Text.paddedDigits 16 32 n =
            Text.paddedDigits 16 32 n' := hends
      exact absurd (hdigits ▸ List.mem_append_left _ (by decide)) (hletter n')
    | true =>
      exact ⟨rfl,
        Text.paddedDigits_inj (by decide) (by decide)
          (List.append_cancel_left hends)⟩

/-- The identity that is shown for a task tells the flag and the number of the
task. -/
theorem shownId?_ofTask_taskArn_inj
    {spot spot' : Bool} {cluster cluster' : String} {n n' : Nat}
    (h : (ofTask spot (taskArn cluster n)).shownId? =
        (ofTask spot' (taskArn cluster' n')).shownId?) :
    spot = spot' ∧ n = n' := by
  have hplaceholder := Option.some.inj h
  rw [lastSegment_taskArn, lastSegment_taskArn] at hplaceholder
  exact placeholder_hexPadded_inj hplaceholder

end Target

/-! ## Numbers of tasks -/

namespace Service

/-- Every task has the name that goes with a number, and no number is given
twice. -/
structure Numbered
    (tasks : Std.ExtTreeMap String Task) (launched : Nat) : Prop where
  named : ∀ arn ∈ tasks, ∃ cluster, ∃ n ≤ launched, arn = taskArn cluster n
  once : ∀ {cluster cluster' : String} {n : Nat}, taskArn cluster n ∈ tasks →
    taskArn cluster' n ∈ tasks → cluster = cluster'

namespace Numbered

variable {tasks : Std.ExtTreeMap String Task} {launched : Nat}

theorem empty : Numbered ∅ 0 where
  named := by simp
  once := by simp

theorem le
    (h : Numbered tasks launched) {cluster : String} {n : Nat}
    (hmem : taskArn cluster n ∈ tasks) :
    n ≤ launched := by
  obtain ⟨cluster', n', hn, heq⟩ := h.named _ hmem
  rwa [(taskArn_inj heq).2]

/-- A launch gives out the next number. -/
theorem launch
    (h : Numbered tasks launched) (cluster : String) (t : Task) :
    Numbered (tasks.insert (taskArn cluster (launched + 1)) t)
      (launched + 1) where
  named := by
    intro arn harn
    rw [Std.ExtTreeMap.mem_insert, Std.LawfulEqCmp.compare_eq_iff_eq] at harn
    rcases harn with rfl | hold
    · exact ⟨cluster, launched + 1, Nat.le_refl _, rfl⟩
    · obtain ⟨cluster', n, hn, rfl⟩ := h.named arn hold
      exact ⟨cluster', n, Nat.le_succ_of_le hn, rfl⟩
  once := by
    intro c c' n hc hc'
    rw [Std.ExtTreeMap.mem_insert, Std.LawfulEqCmp.compare_eq_iff_eq] at hc hc'
    rcases hc with hnew | hold
    · obtain ⟨rfl, rfl⟩ := taskArn_inj hnew
      rcases hc' with hnew' | hold'
      · exact (taskArn_inj hnew').1
      · exact absurd (h.le hold') (Nat.not_succ_le_self launched)
    · rcases hc' with hnew' | hold'
      · obtain ⟨rfl, rfl⟩ := taskArn_inj hnew'
        exact absurd (h.le hold) (Nat.not_succ_le_self launched)
      · exact h.once hold hold'

/-- A task may change as long as it keeps its name. -/
theorem update
    (h : Numbered tasks launched) {arn : String} (harn : arn ∈ tasks)
    (t : Task) :
    Numbered (tasks.insert arn t) launched := by
  have hsame : ∀ a, a ∈ tasks.insert arn t → a ∈ tasks := by
    intro a ha
    rw [Std.ExtTreeMap.mem_insert, Std.LawfulEqCmp.compare_eq_iff_eq] at ha
    rcases ha with rfl | hold
    · exact harn
    · exact hold
  exact ⟨fun a ha => h.named a (hsame a ha),
    fun hc hc' => h.once (hsame _ hc) (hsame _ hc')⟩

theorem changes
    {s s' : Service} {now : UInt64} (h : Numbered s.tasks s.launched)
    (hchange : Changes now s s') :
    Numbered s'.tasks s'.launched := by
  cases hchange with
  | start cluster hd hi hmemory hcpu => exact h.launch cluster _
  | run cluster launchType provider hd => exact h.launch cluster _
  | stopAgain ht hstopped => exact h.update (Table.mem_of_getElem?_eq_some ht) _
  | @stop arn t ht hactive =>
    have hstopped := h.update (Table.mem_of_getElem?_eq_some ht) (stopped t)
    rcases handBack_cases arn t
      { s with tasks := s.tasks.insert arn (stopped t) } with
      ⟨-, heq⟩ | ⟨a, i, -, -, heq⟩
    · rw [heq]
      exact hstopped
    · rw [heq]
      exact hstopped
  | _ => exact h

theorem apply
    {s : Service} (h : Numbered s.tasks s.launched) (e : Event) :
    Numbered (e.apply s).tasks (e.apply s).launched := by
  cases e with
  | call now c =>
    exact serve_keeps (P := fun s => Numbered s.tasks s.launched)
      (fun _ _ hchange h => h.changes hchange) c h
  | enlist i => exact h
  | arrange a => cases a <;> exact h

theorem run
    {h : History} (hn : Numbered h.service.tasks h.service.launched)
    (es : List Event) :
    Numbered (h.run es).service.tasks (h.run es).service.launched := by
  induction es generalizing h with
  | nil => exact hn
  | cons e es ih => exact ih (hn.apply e)

/-- Tasks are told apart by what is shown for them, whatever the flags. -/
theorem shownId?_ne
    (h : Numbered tasks launched) {arn arn' : String} (harn : arn ∈ tasks)
    (harn' : arn' ∈ tasks) (hne : arn ≠ arn') (spot spot' : Bool) :
    (Target.ofTask spot arn).shownId? ≠
      (Target.ofTask spot' arn').shownId? := by
  intro hshown
  obtain ⟨cluster, n, -, rfl⟩ := h.named arn harn
  obtain ⟨cluster', n', -, rfl⟩ := h.named arn' harn'
  obtain ⟨-, rfl⟩ := Target.shownId?_ofTask_taskArn_inj hshown
  obtain rfl := h.once harn harn'
  exact hne rfl

end Numbered

/-! ## Agents and rosters -/

theorem targetOf_of_isServerless
    {t : Task} {o : Ownership} {machines : Std.ExtTreeMap String String}
    (h : (targetOf t o machines).isServerless = true) :
    targetOf t o machines = Target.ofTask o.profile.spot t.arn := by
  cases harn : t.instanceArn with
  | none =>
    by_cases hserverless : isServerlessTask t o = true
    · simp only [targetOf, harn, if_pos hserverless]
    · simp only [targetOf, harn, if_neg hserverless] at h
      cases h
  | some arn =>
    cases hmachine : machines[arn]? with
    | none =>
      simp only [targetOf, harn, hmachine] at h
      cases h
    | some id =>
      simp only [targetOf, harn, hmachine] at h
      cases h

variable {s : Service} {cluster server : String}

/-- A serverless agent that is read shows a placeholder that is taken from its
task. -/
theorem exists_ofTask_of_mem_agentsOf
    {a : Agent} (ha : a ∈ s.agentsOf cluster server)
    (hserverless : a.target.isServerless = true) :
    ∃ spot, a.target = Target.ofTask spot a.taskArn := by
  obtain ⟨t, -, ha⟩ := List.mem_filterMap.mp ha
  rw [agentOf?, Option.ite_none_right_eq_some, Option.bind_eq_some_iff] at ha
  obtain ⟨-, d, -, ha⟩ := ha
  obtain ⟨labels, o, -, -, -, rfl⟩ :=
    Agent.exists_of_ofListed? (join_toOption_eq_some_iff.mp ha)
  exact ⟨_, targetOf_of_isServerless hserverless⟩

/-- Two serverless agents that are read do not show the same. -/
theorem Numbered.shownId?_ne_of_mem_agentsOf
    (h : Numbered s.tasks s.launched) (hkeyed : s.Keyed) {a a' : Agent}
    (ha : a ∈ s.agentsOf cluster server) (ha' : a' ∈ s.agentsOf cluster server)
    (hne : a ≠ a') (hserverless : a.target.isServerless = true)
    (hserverless' : a'.target.isServerless = true) :
    a.target.shownId? ≠ a'.target.shownId? := by
  obtain ⟨t, -, -, ht, -⟩ := hkeyed.exists_of_mem_agentsOf ha
  obtain ⟨t', -, -, ht', -⟩ := hkeyed.exists_of_mem_agentsOf ha'
  obtain ⟨spot, htarget⟩ := exists_ofTask_of_mem_agentsOf ha hserverless
  obtain ⟨spot', htarget'⟩ := exists_ofTask_of_mem_agentsOf ha' hserverless'
  have harn : a.taskArn ≠ a'.taskArn :=
    fun heq =>
      hne
        (List.inj_on_of_nodup_map (hkeyed.nodup_taskArn_agentsOf cluster server)
            ha ha' heq)
  rw [htarget, htarget']
  exact h.shownId?_ne (Table.mem_of_getElem?_eq_some ht)
    (Table.mem_of_getElem?_eq_some ht') harn spot spot'

end Service

/-- No two serverless agents on the roster show the same. -/
def Roster.ShowsApart (r : Roster) : Prop :=
  ∀ (name name' : String) (a a' : Agent),
    r[name]? = some a →
    r[name']? = some a' →
    name ≠ name' →
    a.target.isServerless = true →
    a'.target.isServerless = true →
    a.target.shownId? ≠ a'.target.shownId?

/-- In an empty roster there is no placeholder that could be kept. -/
theorem Roster.keepPlaceholder_empty (t : Agent) : keepPlaceholder ∅ t = t :=
  keepPlaceholder_of_none (by simp)

theorem Service.Numbered.showsApart
    {s : Service} (h : Numbered s.tasks s.launched) (hkeyed : s.Keyed)
    (cluster server : String) :
    (Roster.renew ∅ (s.agentsOf cluster server)).ShowsApart := by
  intro name name' a a' ha ha' hname
  obtain ⟨t, ht, htname, heq⟩ := Roster.exists_of_getElem?_renew ha
  obtain ⟨t', ht', htname', heq'⟩ := Roster.exists_of_getElem?_renew ha'
  rw [Roster.keepPlaceholder_empty] at heq heq'
  subst heq heq' htname htname'
  exact h.shownId?_ne_of_mem_agentsOf hkeyed ht ht' fun heq =>
    hname (congrArg Agent.name heq)

namespace History

/-- What is shown for the tasks of a history tells them apart, whatever the
flags.  So in a roster that is read from the service afresh no two serverless
agents show the same. -/
theorem shownIds_apart
    (es : List Event) {site : Site} (hdirect : site.IsDirect)
    (hservice : site.service = (run {} es).service) (now : UInt64)
    (server : String) (s : Settings) :
    ((run {} es).launched.Pairwise fun t u =>
        ∀ spot spot' : Bool,
          (Target.ofTask spot t.arn).shownId? ≠
            (Target.ofTask spot' u.arn).shownId?) ∧
    ∃ found next,
      ((Roster.reconcile server s ∅).run.run now site).1 = .ok (found, next) ∧
      next.ShowsApart := by
  have hcoherent := Coherent.empty.run es
  have hnumbered := Numbered.empty.run (h := {}) es
  constructor
  · have hstored :
        ∀ t ∈ (run {} es).launched, t.arn ∈ (run {} es).service.tasks := by
      intro t ht
      obtain ⟨t', ht'⟩ := (hcoherent.tasks t ht).exists
      exact Table.mem_of_getElem?_eq_some ht'
    refine (List.pairwise_map.mp hcoherent.taskNames).imp_of_mem ?_
    intro t u ht hu hne
    exact hnumbered.shownId?_ne (hstored t ht) (hstored u hu) hne
  · rw [← hservice] at hnumbered
    have hkeyed : site.service.Keyed := hservice ▸ hcoherent.sound.keyed
    exact ⟨_, _, Roster.reconcile_run_of_keyed hdirect hkeyed now server s ∅,
      hnumbered.showsApart hkeyed s.clusterName server⟩

/-- The registration of a serverless agent, and its launch in a cluster. -/
def serverlessLaunch (name cluster : String) : List Event :=
  [.call 0 (.register
      (Specification.assemble name smallRequest smallSettings "ci"
        ∅).registration),
    .call 0 (.runTask
      { cluster
        definition := definitionArn name 1
        launchType := some .fargate
        network := none
        startedBy := none })]

/-- Launches in a cluster and in one with a slash in its name. -/
def launchesInTwoClusters : List Event :=
  serverlessLaunch "a" "agents" ++ serverlessLaunch "b" "agents/2" ++
    serverlessLaunch "c" "agents"

/-- A site with the service of these launches. -/
def twoClustersSite : Site :=
  Site.withService {} (run {} launchesInTwoClusters).service

theorem twoClustersSite_agents :
    (twoClustersSite.service.agentsOf "agents" "ci").map
        (fun a => (a.name, a.target.shownId?)) =
      [("a", some "Fargate00000000000000000000000000000001"),
        ("c", some "Fargate00000000000000000000000000000003")] := by
  have hlabels :
      (twoClustersSite.service.withDefinition
          (twoClustersSite.service.running "agents")).map
          (fun p => p.2.agentLabels?) =
        (List.replicate 2 (Specification.ownership smallRequest "ci")).map
          fun o => some (o.toLabels smallSettings.pluginId) := by
    rfl
  rw [← ownedAgents_withDefinition, ownedAgents_of_labels hlabels]
  rfl

/-- Of three tasks in two clusters two are serverless agents of one cluster. -/
theorem shownIds_apart_twoClusters :
    (run {} launchesInTwoClusters).launched.map Task.arn =
      [taskArn "agents" 1, taskArn "agents/2" 2, taskArn "agents" 3] ∧
    (twoClustersSite.service.agentsOf "agents" "ci").map
        (fun a => (a.name, a.target.shownId?)) =
      [("a", some "Fargate00000000000000000000000000000001"),
        ("c", some "Fargate00000000000000000000000000000003")] ∧
    ((run {} launchesInTwoClusters).launched.Pairwise fun t u =>
        ∀ spot spot' : Bool,
          (Target.ofTask spot t.arn).shownId? ≠
            (Target.ofTask spot' u.arn).shownId?) ∧
    ∃ found next,
      ((Roster.reconcile "ci" smallSettings ∅).run.run 0 twoClustersSite).1 =
        .ok (found, next) ∧
      next.ShowsApart := by
  have hempty : Site.IsDirect {} := rfl
  have hdirect : twoClustersSite.IsDirect := hempty.withService _
  exact ⟨by decide +kernel, twoClustersSite_agents,
    shownIds_apart launchesInTwoClusters hdirect rfl 0 "ci" smallSettings⟩

end History
end AgentFleet
