import Mathlib.Data.List.Dedup
import AgentFleet.Proofs.ReadBack
import AgentFleet.Proofs.Renewals
import AgentFleet.Proofs.Sharing

/-!
# How many agents a pass finds

A pass answers with the number of running tasks that are agents of the server.
Its roster has one entry for each family of definitions that these tasks come
from.  So the answer is the size of the roster, and every one of the tasks is on
it, exactly if no two of them come from one family.  Of several tasks of one
family only the one that is listed last is on the roster.
-/

namespace AgentFleet

namespace Roster

variable {r : Roster} {ts : List Agent} {t : Agent}

/-- A new roster has each name of the agents once. -/
theorem size_renew
    (r : Roster) (ts : List Agent) :
    (r.renew ts).size = (ts.map Agent.name).dedup.length := by
  have hperm : (r.renew ts).keys.Perm (ts.map Agent.name).dedup := by
    rw [List.perm_ext_iff_of_nodup (r.renew ts).nodup_keys (List.nodup_dedup _)]
    intro name
    rw [Std.ExtTreeMap.mem_keys, mem_renew_iff, List.mem_dedup]
  rw [← Std.ExtTreeMap.length_keys]
  exact hperm.length_eq

theorem size_renew_eq_iff :
    (r.renew ts).size = ts.length ↔ (ts.map Agent.name).Nodup := by
  have hsub := List.dedup_sublist (ts.map Agent.name)
  rw [size_renew, ← List.dedup_eq_self]
  constructor
  · intro hlength
    exact hsub.eq_of_length (by rw [hlength, List.length_map])
  · intro hall
    rw [hall, List.length_map]

/-- Of several agents of one name the last one is on the roster. -/
theorem exists_taskArn_iff
    (hnodup : (ts.map Agent.taskArn).Nodup) (ht : t ∈ ts) :
    (∃ a ∈ (r.renew ts).agents, a.taskArn = t.taskArn) ↔
      IsLast ts t.name t := by
  constructor
  · rintro ⟨a, ha, harn⟩
    obtain ⟨name, hentry⟩ := Table.mem_values_iff.mp ha
    have hname : name ∈ ts.map Agent.name := by
      rw [← mem_renew_iff (r := r), Std.ExtTreeMap.mem_iff_isSome_getElem?,
        hentry]
      rfl
    obtain ⟨last, hlast⟩ := exists_isLast_iff.mpr hname
    rw [getElem?_renew, find?_reverse_eq_some_iff.mpr hlast] at hentry
    rw [← Option.some.inj hentry, keepPlaceholder_taskArn] at harn
    obtain rfl := List.inj_on_of_nodup_map hnodup hlast.mem ht harn
    rwa [hlast.name_eq]
  · intro hlast
    refine ⟨r.keepPlaceholder t, ?_, r.keepPlaceholder_taskArn t⟩
    refine Table.mem_values_iff.mpr ⟨t.name, ?_⟩
    rw [getElem?_renew, find?_reverse_eq_some_iff.mpr hlast, Option.map_some]

/-- Every agent is the last one of its name exactly if no two have one name. -/
theorem forall_isLast_iff
    (hnodup : ts.Nodup) :
    (∀ t ∈ ts, IsLast ts t.name t) ↔ (ts.map Agent.name).Nodup := by
  rw [List.nodup_map_iff_inj_on hnodup]
  constructor
  · intro hall t ht u hu hname
    have hlast := hall u hu
    rw [← hname] at hlast
    exact (hall t ht).unique hlast
  · intro hinj t ht
    obtain ⟨last, hlast⟩ := exists_isLast_iff.mpr (List.mem_map_of_mem ht)
    obtain rfl := hinj last hlast.mem t ht hlast.name_eq
    exact hlast

end Roster

/-! ## Passes -/

/-- No task is found twice. -/
theorem Service.Keyed.nodup_taskArn_agentsOf
    {s : Service} (h : s.Keyed) (cluster server : String) :
    ((s.agentsOf cluster server).map Agent.taskArn).Nodup := by
  rw [← ownedAgents_withDefinition]
  exact nodup_taskArn_ownedAgents
    (pairwise_withDefinition (h.tasks.nodup_names _)) _ _

namespace Roster

/-- A pass answers with the number of the agents that it finds.  The new roster
has as many entries as they have names, and of the agents of one name the last
one is on it.  So the answer is the size of the roster exactly if no two agents
have one name, and exactly then they are all on it. -/
theorem reconcile_counts_agents
    {site : Site} (hdirect : site.IsDirect) (hpossible : site.service.Possible)
    (now : UInt64) (server : String) (s : Settings) (r : Roster) :
    ∃ agents next,
      agents = site.service.agentsOf s.clusterName server ∧
      ((reconcile server s r).run.run now site).1 = .ok (agents.length, next) ∧
      next.size = (agents.map Agent.name).dedup.length ∧
      (∀ t ∈ agents,
          (∃ a ∈ next.agents, a.taskArn = t.taskArn) ↔ IsLast agents t.name t) ∧
      (next.size = agents.length ↔ (agents.map Agent.name).Nodup) ∧
      ((∀ t ∈ agents, ∃ a ∈ next.agents, a.taskArn = t.taskArn) ↔
          (agents.map Agent.name).Nodup) := by
  have hkeyed := hpossible.keyed
  have hnodup := hkeyed.nodup_taskArn_agentsOf s.clusterName server
  have hpresent : ∀ t ∈ site.service.agentsOf s.clusterName server,
      (∃ a ∈ (r.renew (site.service.agentsOf s.clusterName server)).agents,
        a.taskArn = t.taskArn) ↔ IsLast _ t.name t :=
    fun _ ht => exists_taskArn_iff hnodup ht
  refine ⟨_, _, rfl, reconcile_run_of_keyed hdirect hkeyed now server s r,
    size_renew r _, hpresent, size_renew_eq_iff, ?_⟩
  rw [← forall_isLast_iff hnodup.of_map]
  exact forall₂_congr hpresent

/-- A cluster in which an agent was created and one more task was run from its
definition. -/
def crowdedSite : Site :=
  let site :=
    ((createAgent ⟨"a", "b"⟩ "ci" smallSettings smallRequest).run.run 0 {}).2
  site.withService (site.service.serve 1 (.runTask
    { cluster := "agents"
      definition := Service.definitionArn "GoCDa" 1
      launchType := some .fargate
      network := none
      startedBy := none })).2

theorem crowdedSite_isDirect : crowdedSite.IsDirect := by
  have hdirect : Site.IsDirect {} := rfl
  exact (hdirect.run 0 _).withService _

theorem crowdedSite_possible : crowdedSite.service.Possible := by
  have hdirect : Site.IsDirect {} := rfl
  have hcreated :=
    hdirect.run_keeps 0 (P := Service.Possible) (fun _ c hs => hs.call 0 c)
      (fun _ i _ hs => hs.enlist i) .empty
      (createAgent ⟨"a", "b"⟩ "ci" smallSettings smallRequest).run
  exact .call hcreated 1 _

/-- The two agents of `crowdedSite` have one name, and the second one counts. -/
theorem crowdedSite_agents :
    ∃ first second,
      crowdedSite.service.agentsOf "agents" "ci" = [first, second] ∧
      first.name = second.name ∧
      ¬IsLast [first, second] first.name first := by
  have hlabels : (crowdedSite.service.withDefinition
      (crowdedSite.service.running "agents")).map (fun p => p.2.agentLabels?) =
        (List.replicate 2 (Specification.ownership smallRequest "ci")).map
          fun o => some (o.toLabels smallSettings.pluginId) := by
    rfl
  have hnames : (crowdedSite.service.agentsOf "agents" "ci").map Agent.name =
      ["GoCDa", "GoCDa"] := by
    rw [← Service.ownedAgents_withDefinition, ownedAgents_of_labels hlabels]
    rfl
  have hnodup := crowdedSite_possible.keyed.nodup_taskArn_agentsOf "agents" "ci"
  obtain ⟨first, rest, hagents, hfirst, hrest⟩ := List.map_eq_cons_iff.mp hnames
  obtain ⟨second, none, rfl, hsecond, hnone⟩ := List.map_eq_cons_iff.mp hrest
  obtain rfl := List.map_eq_nil_iff.mp hnone
  have hname : first.name = second.name := hfirst.trans hsecond.symm
  refine ⟨first, second, hagents, hname, ?_⟩
  intro hfirstLast
  have hlast : IsLast [first, second] first.name second :=
    ⟨[first], [], rfl, hname.symm, by simp⟩
  rw [hagents, hfirstLast.unique hlast] at hnodup
  simp at hnodup

/-- At `crowdedSite` two agents are found, and the roster has one entry. -/
theorem reconcile_counts_agents_crowdedSite :
    ∃ (agents : List Agent) (next : Roster),
      ((reconcile "ci" smallSettings ∅).run.run 2 crowdedSite).1 =
        .ok (agents.length, next) ∧
      agents.length = 2 ∧
      next.size = 1 ∧
      ¬∀ t ∈ agents, ∃ a ∈ next.agents, a.taskArn = t.taskArn := by
  obtain ⟨first, second, hpair, hname, -⟩ := crowdedSite_agents
  obtain ⟨agents, next, hagents, hrun, hsize, -, -, hall⟩ :=
    reconcile_counts_agents crowdedSite_isDirect crowdedSite_possible 2 "ci"
      smallSettings ∅
  obtain rfl := hagents.trans hpair
  have hnames :
      [first, second].map Agent.name = [second.name, second.name] := by
    rw [List.map_cons, hname, List.map_singleton]
  rw [hnames] at hsize hall
  refine ⟨_, next, hrun, rfl, ?_, ?_⟩
  · rw [hsize]
    simp
  · rw [hall]
    simp

/-- A pass may answer with more agents than the roster has, and then one that it
has found is not on the roster. -/
theorem reconcile_overcounts :
    crowdedSite.IsDirect ∧
    crowdedSite.service.Possible ∧
    ∃ next,
      ((reconcile "ci" smallSettings ∅).run.run 2 crowdedSite).1 =
        .ok (2, next) ∧
      next.size = 1 ∧
      ∃ t ∈ crowdedSite.service.agentsOf "agents" "ci",
        ¬∃ a ∈ next.agents, a.taskArn = t.taskArn := by
  obtain ⟨first, second, hpair, hname, hfirst⟩ := crowdedSite_agents
  have hkeyed := crowdedSite_possible.keyed
  have hnodup := hkeyed.nodup_taskArn_agentsOf "agents" "ci"
  have hrun :=
    reconcile_run_of_keyed crowdedSite_isDirect hkeyed 2 "ci" smallSettings ∅
  have hcluster : smallSettings.clusterName = "agents" := rfl
  rw [hcluster, hpair] at hrun
  rw [hpair] at hnodup ⊢
  refine ⟨crowdedSite_isDirect, crowdedSite_possible, renew ∅ [first, second],
    hrun, ?_, first, List.mem_cons_self, ?_⟩
  · rw [size_renew, List.map_cons, hname]
    simp
  · rwa [exists_taskArn_iff hnodup List.mem_cons_self]

end Roster
end AgentFleet
