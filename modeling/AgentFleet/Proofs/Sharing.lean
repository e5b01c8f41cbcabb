import Mathlib.Data.List.Basic
import AgentFleet.Proofs.ReadBack
import AgentFleet.Proofs.Rosters

/-!
# Servers that share a cluster

What a reconciliation pass of a server finds depends on the tasks of that server
alone.  The pass goes through the tasks of the cluster one by one, and each of
them either is an agent of the server, whatever the others are, or leaves no
trace.  So two servers whose names differ never find the same task, provided
that every definition says whose it is, and tasks of another server, tasks
without a container and tasks whose labels cannot be read may come and go
unseen.
-/

namespace AgentFleet

/-! ## Records that leave no trace -/

namespace Table

open Std

variable {α β : Type} {m m' : ExtTreeMap String β}

/-- The entries of a table are those of a larger one that the table has names
for, in the same order. -/
theorem toList_eq_filter
    (hsub : ∀ (k : String) (v : β), m[k]? = some v → m'[k]? = some v) :
    m.toList = m'.toList.filter fun e => m.contains e.1 := by
  have hperm : m.toList.Perm (m'.toList.filter fun e => m.contains e.1) := by
    rw [List.perm_ext_iff_of_nodup (toList_nodup m)
        ((toList_nodup m').filter _)]
    rintro ⟨k, v⟩
    rw [List.mem_filter, ExtTreeMap.mem_toList_iff_getElem?_eq_some,
      ExtTreeMap.mem_toList_iff_getElem?_eq_some, ExtTreeMap.contains_iff_mem,
      ExtTreeMap.mem_iff_isSome_getElem?]
    constructor
    · intro hk
      exact ⟨hsub k v hk, by rw [hk, Option.isSome_some]⟩
    · rintro ⟨hk, hold⟩
      obtain ⟨w, hw⟩ := Option.isSome_iff_exists.mp hold
      rw [hw, Option.some.inj ((hsub k w hw).symm.trans hk)]
  have hordered := m'.ordered_keys_toList.filter fun e => m.contains e.1
  refine hperm.eq_of_pairwise ?_ m.ordered_keys_toList hordered
  intro a b _ _ hab hba
  exact absurd hba (Std.OrientedCmp.not_lt_of_lt hab)

/-- What is gathered from a table does not change when records are added of
which nothing is gathered. -/
theorem filterMap_values_of_extends
    (hsub : ∀ (k : String) (v : β), m[k]? = some v → m'[k]? = some v)
    {f g : β → Option α}
    (hold : ∀ (k : String) (v : β), m[k]? = some v → f v = g v)
    (hnew : ∀ (k : String) (v : β),
        m'[k]? = some v → m[k]? = none → g v = none) :
    m.values.filterMap f = m'.values.filterMap g := by
  rw [values_eq_map_snd, values_eq_map_snd, List.filterMap_map,
    List.filterMap_map, toList_eq_filter hsub, List.filterMap_filter]
  apply List.filterMap_congr
  rintro ⟨k, v⟩ hkv
  have hv' := ExtTreeMap.mem_toList_iff_getElem?_eq_some.mp hkv
  cases hv : m[k]? with
  | none =>
    have hnot : m.contains k = false := by
      rw [ExtTreeMap.contains_eq_isSome_getElem?, hv, Option.isSome_none]
    simp [hnot, hnew k v hv' hv]
  | some w =>
    obtain rfl : w = v := Option.some.inj ((hsub k w hv).symm.trans hv')
    have hcontains : m.contains k = true := by
      rw [ExtTreeMap.contains_eq_isSome_getElem?, hv, Option.isSome_some]
    simp [hcontains, hold k w hv]

end Table

/-! ## What a server finds -/

namespace Service

variable {s s' : Service} {cluster server : String}

/-- The agent of a server that a task of a cluster is, if it is one. -/
def agentOf?
    (s : Service) (cluster server : String) (t : Task) : Option Agent :=
  if t.cluster = cluster ∧ t.desiredStatus = .running then
    (s.definitions[t.definitionArn]?).bind fun d =>
      (Agent.ofListed? t d s.machines server).toOption.join
  else none

/-- The agents of a server in a cluster. -/
def agentsOf (s : Service) (cluster server : String) : List Agent :=
  s.tasks.values.filterMap (s.agentOf? cluster server)

theorem ownedAgents_withDefinition
    (s : Service) (cluster server : String) :
    ownedAgents (s.withDefinition (s.running cluster)) s.machines server =
      s.agentsOf cluster server := by
  rw [ownedAgents_eq, withDefinition, running, List.filterMap_filterMap,
    List.filterMap_filter, agentsOf]
  congr 1
  funext t
  rw [agentOf?]
  by_cases ht : t.cluster = cluster ∧ t.desiredStatus = .running
  · rw [if_pos ht, if_pos (decide_eq_true ht), Option.bind_map]
    rfl
  · rw [if_neg ht, if_neg fun h => ht (of_decide_eq_true h)]

/-- An agent that a server finds is a task whose labels say that it belongs to
the server. -/
theorem Keyed.exists_of_mem_agentsOf
    (h : s.Keyed) {a : Agent} (ha : a ∈ s.agentsOf cluster server) :
    ∃ t d labels,
      s.tasks[a.taskArn]? = some t ∧
      s.definitions[t.definitionArn]? = some d ∧
      d.agentLabels? = some labels ∧
      Labels.belongTo labels server = true := by
  obtain ⟨t, ht, ha⟩ := List.mem_filterMap.mp ha
  rw [agentOf?] at ha
  by_cases hruns : t.cluster = cluster ∧ t.desiredStatus = .running
  · rw [if_pos hruns, Option.bind_eq_some_iff] at ha
    obtain ⟨d, hd, ha⟩ := ha
    have hlisted := join_toOption_eq_some_iff.mp ha
    obtain ⟨labels, o, hlabels, hbelong, -, rfl⟩ :=
      Agent.exists_of_ofListed? hlisted
    exact ⟨t, d, labels, h.tasks.getElem?_of_mem ht, hd, hlabels, hbelong⟩
  · rw [if_neg hruns] at ha
    cases ha

end Service

/-- A pass finds the agents of the server, and changes nothing but the journal.
-/
theorem Roster.reconcile_run_of_keyed
    {site : Site} (h : site.IsDirect) (hkeyed : site.service.Keyed)
    (now : UInt64) (server : String) (settings : Settings) (r : Roster) :
    ((reconcile server settings r).run.run now site).1 =
      .ok ((site.service.agentsOf settings.clusterName server).length,
        r.renew (site.service.agentsOf settings.clusterName server)) := by
  obtain ⟨site', hread, -⟩ := readAgents_run h hkeyed now server settings
  rw [Service.ownedAgents_withDefinition] at hread
  rw [reconcile, Script.run_bind_of_ok hread]
  rfl

/-! ## Names of servers -/

/-- The roster of a pass that finds one agent has the name of the agent. -/
theorem Roster.keys_of_reconcile
    {site : Site} (h : site.IsDirect) (hkeyed : site.service.Keyed)
    {now : UInt64} {server name : String} {settings : Settings}
    {r next : Roster} {n : Nat}
    (hrun : ((reconcile server settings r).run.run now site).1 = .ok (n, next))
    (hname : (site.service.agentsOf settings.clusterName server).map
          Agent.name =
        [name]) :
    next.keys = [name] := by
  rw [reconcile_run_of_keyed h hkeyed] at hrun
  obtain ⟨-, rfl⟩ := Prod.mk.inj (Except.ok.inj hrun)
  have hnodup : ((site.service.agentsOf settings.clusterName server).map
      Agent.name).Nodup := by
    rw [hname]
    exact List.nodup_cons.mpr ⟨List.not_mem_nil, List.nodup_nil⟩
  exact List.perm_singleton.mp (hname ▸ keys_renew_perm hnodup)

theorem Text.sameCaseless_congr
    {a b : String} (h : sameCaseless a b = true) (c : String) :
    sameCaseless c a = sameCaseless c b := by
  rw [sameCaseless, sameCaseless, sameCaseless_iff.mp h]

theorem Labels.serverOr_of_getElem?
    {labels : Labels} {id : String} (hid : labels[serverKey]? = some id)
    (absent : String) :
    serverOr labels absent = id := by
  rw [serverOr, Std.ExtTreeMap.getD_eq_getD_getElem?, hid, Option.getD_some]

/-- Names of one server are alike to labels, except to labels that name no
server. -/
theorem Labels.belongTo_congr
    {a b : String} (h : Text.sameCaseless a b = true) (labels : Labels) :
    belongTo labels a = belongTo labels b := by
  rw [belongTo, belongTo, serverOr, serverOr,
    Std.ExtTreeMap.getD_eq_getD_getElem?, Std.ExtTreeMap.getD_eq_getD_getElem?]
  cases labels[serverKey]? with
  | none =>
    rw [Option.getD_none, Option.getD_none, Text.sameCaseless_iff.mpr rfl,
      Text.sameCaseless_iff.mpr rfl]
  | some id => exact Text.sameCaseless_congr h id

theorem Ownership.ofLabels_server
    (labels : Labels) (a b : String) :
    ofLabels labels b =
      (ofLabels labels a).map fun o =>
        { o with serverId := labels.serverOr b } := by
  simp only [ofLabels]
  cases labels[Labels.profileKey]? with
  | none => rfl
  | some profileText =>
    cases labels[Labels.jobKey]? with
    | none => rfl
    | some jobText =>
      dsimp only
      cases Profile.parse? profileText with
      | none => rfl
      | some profile =>
        cases Job.parse? jobText with
        | none => rfl
        | some job => rfl

/-- Names of one server read the same agents: what an agent shows does not
include the name. -/
theorem Agent.ofListed?_congr
    {a b : String} (h : Text.sameCaseless a b = true) (t : Task)
    (d : TaskDefinition) (machines : Std.ExtTreeMap String String) :
    Agent.ofListed? t d machines a = Agent.ofListed? t d machines b := by
  rw [Agent.ofListed?, Agent.ofListed?]
  cases d.agentLabels? with
  | none => rfl
  | some labels =>
    dsimp only
    rw [Labels.belongTo_congr h, Ownership.ofLabels_server labels a b]
    cases Ownership.ofLabels labels a <;> rfl

namespace Service

variable {s s' : Service} {cluster server : String}

theorem agentsOf_congr
    {a b : String} (h : Text.sameCaseless a b = true) (s : Service)
    (cluster : String) :
    s.agentsOf cluster a = s.agentsOf cluster b := by
  have hagent : s.agentOf? cluster a = s.agentOf? cluster b := by
    funext t
    simp only [agentOf?, Agent.ofListed?_congr h]
  rw [agentsOf, agentsOf, hagent]

/-- Every definition with a container says which server it belongs to. -/
def NamesServers (s : Service) : Prop :=
  ∀ (arn : String) (d : TaskDefinition),
    s.definitions[arn]? = some d →
    ∀ labels,
      d.agentLabels? = some labels → ∃ id, labels[Labels.serverKey]? = some id

/-- If every definition says whose it is, no task is found by two servers. -/
theorem Keyed.taskArn_ne
    (h : s.Keyed) (hnames : s.NamesServers) {cluster' server' : String}
    (hservers : Text.sameCaseless server server' = false) {a a' : Agent}
    (ha : a ∈ s.agentsOf cluster server)
    (ha' : a' ∈ s.agentsOf cluster' server') :
    a.taskArn ≠ a'.taskArn := by
  intro harn
  obtain ⟨t, d, labels, ht, hd, hlabels, hbelong⟩ := h.exists_of_mem_agentsOf ha
  obtain ⟨t', d', labels', ht', hd', hlabels', hbelong'⟩ :=
    h.exists_of_mem_agentsOf ha'
  rw [← harn] at ht'
  obtain rfl : t = t' := Option.some.inj (ht.symm.trans ht')
  obtain rfl : d = d' := Option.some.inj (hd.symm.trans hd')
  obtain rfl : labels = labels' := Option.some.inj (hlabels.symm.trans hlabels')
  obtain ⟨id, hid⟩ := hnames _ d hd labels hlabels
  rw [Labels.belongTo, Labels.serverOr_of_getElem? hid, Text.sameCaseless_iff]
    at hbelong hbelong'
  have hsame : Text.sameCaseless server server' = true :=
    Text.sameCaseless_iff.mpr (hbelong.symm.trans hbelong')
  rw [hsame] at hservers
  cases hservers

end Service

/-! ## Definitions that a server does not see -/

/-- Why a definition does not make an agent of a server. -/
inductive TaskDefinition.UnseenBy
    (server : String) (d : TaskDefinition) : Prop where
  | bare (h : d.containers = [])
  | foreign {labels : Labels} {id : String} (h : d.agentLabels? = some labels)
      (hid : labels[Labels.serverKey]? = some id)
      (hother : Text.sameCaseless id server = false)
  | unreadable {labels : Labels} {e : Labels.Error}
      (h : d.agentLabels? = some labels)
      (howned : Labels.belongTo labels server = true)
      (he : Ownership.ofLabels labels server = .error e)

theorem TaskDefinition.UnseenBy.ofListed?
    {server : String} {d : TaskDefinition} (h : d.UnseenBy server) (t : Task)
    (machines : Std.ExtTreeMap String String) :
    (Agent.ofListed? t d machines server).toOption.join = none := by
  rw [Agent.ofListed?]
  cases h with
  | bare h =>
    rw [agentLabels?, h]
    rfl
  | @foreign labels id h hid hother =>
    have hbelong : Labels.belongTo labels server = false := by
      rw [Labels.belongTo, Labels.serverOr_of_getElem? hid, hother]
    rw [h]
    simp only [hbelong]
    rfl
  | unreadable h howned he =>
    rw [h]
    simp only [howned, he]
    rfl

namespace Service

/-- The second service has more definitions, none of which the server sees, and
more tasks of these definitions. -/
structure AddsUnseen (server : String) (s s' : Service) : Prop where
  definitions :
    ∀ (arn : String) (d : TaskDefinition),
      s.definitions[arn]? = some d → s'.definitions[arn]? = some d
  tasks :
    ∀ (arn : String) (t : Task),
      s.tasks[arn]? = some t → s'.tasks[arn]? = some t
  instances : s'.instances = s.instances
  newDefinitions :
    ∀ (arn : String) (d : TaskDefinition),
      s'.definitions[arn]? = some d →
      s.definitions[arn]? = none →
      d.UnseenBy server
  newTasks :
    ∀ (arn : String) (t : Task),
      s'.tasks[arn]? = some t →
      s.tasks[arn]? = none →
      s.definitions[t.definitionArn]? = none

variable {s s' : Service} {server : String}

/-- A task is an agent of the server if it was one before, even if it was there
before its definition. -/
theorem AddsUnseen.agentOf?_eq
    (h : s.AddsUnseen server s') (cluster : String) (t : Task) :
    s.agentOf? cluster server t = s'.agentOf? cluster server t := by
  have hmachines : s'.machines = s.machines := by
    rw [machines, machines, h.instances]
  rw [agentOf?, agentOf?, hmachines]
  congr 1
  cases hd : s.definitions[t.definitionArn]? with
  | some d => rw [h.definitions _ d hd]
  | none =>
    cases hd' : s'.definitions[t.definitionArn]? with
    | none => rfl
    | some d => exact ((h.newDefinitions _ d hd' hd).ofListed? t _).symm

theorem AddsUnseen.agentsOf_eq
    (h : s.AddsUnseen server s') (cluster : String) :
    s.agentsOf cluster server = s'.agentsOf cluster server := by
  refine Table.filterMap_values_of_extends h.tasks ?_ ?_
  · intro arn t _
    exact h.agentOf?_eq cluster t
  · intro arn t ht hnew
    rw [← h.agentOf?_eq cluster t, agentOf?, h.newTasks arn t ht hnew,
      Option.bind_none, ite_self]

/-- Planting a task of a new definition that the server does not see. -/
theorem addsUnseen_plantTask
    {t : Task} {d : TaskDefinition} (ht : s.tasks[t.arn]? = none)
    (hd : s.definitions[d.arn]? = none) (hdefinition : t.definitionArn = d.arn)
    (hunseen : d.UnseenBy server) :
    s.AddsUnseen server (s.plantTask t d) where
  definitions := by
    intro arn d' hd'
    refine Table.getElem?_insert_eq_some_iff.mpr (Or.inr ⟨?_, hd'⟩)
    rintro rfl
    exact Option.some_ne_none d' (hd'.symm.trans hd)
  tasks := by
    intro arn t' ht'
    refine Table.getElem?_insert_eq_some_iff.mpr (Or.inr ⟨?_, ht'⟩)
    rintro rfl
    exact Option.some_ne_none t' (ht'.symm.trans ht)
  instances := rfl
  newDefinitions := by
    intro arn d' hd' hnew
    rcases Table.getElem?_insert_eq_some_iff.mp hd' with ⟨-, rfl⟩ | ⟨-, hold⟩
    · exact hunseen
    · exact absurd (hold.symm.trans hnew) (Option.some_ne_none d')
  newTasks := by
    intro arn t' ht' hnew
    rcases Table.getElem?_insert_eq_some_iff.mp ht' with ⟨-, rfl⟩ | ⟨-, hold⟩
    · rwa [hdefinition]
    · exact absurd (hold.symm.trans hnew) (Option.some_ne_none t')

theorem NamesServers.of_values
    (h : ∀ d ∈ s.definitions.values,
        d.agentLabels?.all (·.contains Labels.serverKey) = true) :
    s.NamesServers := by
  intro arn d hd labels hlabels
  have hall := h d (Table.mem_values_iff.mpr ⟨arn, hd⟩)
  rw [hlabels, Option.all_some, Std.ExtTreeMap.contains_eq_isSome_getElem?]
    at hall
  exact Option.isSome_iff_exists.mp hall

end Service

/-! ## Passes of several servers -/

namespace Roster

/-- Passes over one cluster.  If every definition says which server it belongs
to, servers with different names never have a task in common; by two spellings
of a name that differ in case only the same is found; and a pass comes to the
same whether or not there are further definitions that the server does not see,
with further tasks of theirs. -/
theorem reconcile_separates_servers
    {site : Site} (hdirect : site.IsDirect) (hkeyed : site.service.Keyed)
    (now now' : UInt64) :
    (site.service.NamesServers →
      ∀ server server',
        Text.sameCaseless server server' = false →
        ∀ (settings settings' : Settings) (r r' : Roster),
          ∃ n next n' next',
            ((reconcile server settings r).run.run now site).1 = .ok (n, next) ∧
            ((reconcile server' settings' r').run.run now' site).1 =
              .ok (n', next') ∧
            ∀ a ∈ next.agents, ∀ a' ∈ next'.agents, a.taskArn ≠ a'.taskArn) ∧
    (∀ server server',
        Text.sameCaseless server server' = true →
        ∀ settings settings' : Settings,
          settings.clusterName = settings'.clusterName →
          ∀ r : Roster,
            ∃ n next,
              ((reconcile server settings r).run.run now site).1 =
                .ok (n, next) ∧
              ((reconcile server' settings' r).run.run now' site).1 =
                .ok (n, next)) ∧
    ∀ (server : String) (s' : Service),
      s'.Keyed →
      site.service.AddsUnseen server s' →
      ∀ (settings : Settings) (r : Roster),
        ∃ n next,
          ((reconcile server settings r).run.run now site).1 = .ok (n, next) ∧
          ((reconcile server settings r).run.run now' (site.withService s')).1 =
            .ok (n, next) := by
  refine ⟨?_, ?_, ?_⟩
  · intro hnames server server' hservers settings settings' r r'
    refine ⟨_, _, _, _,
      reconcile_run_of_keyed hdirect hkeyed now server settings r,
      reconcile_run_of_keyed hdirect hkeyed now' server' settings' r', ?_⟩
    intro a ha a' ha'
    obtain ⟨name, ha⟩ := Table.mem_values_iff.mp ha
    obtain ⟨name', ha'⟩ := Table.mem_values_iff.mp ha'
    obtain ⟨t, ht, -, rfl⟩ := exists_of_getElem?_renew ha
    obtain ⟨t', ht', -, rfl⟩ := exists_of_getElem?_renew ha'
    rw [keepPlaceholder_taskArn, keepPlaceholder_taskArn]
    exact hkeyed.taskArn_ne hnames hservers ht ht'
  · intro server server' hservers settings settings' hcluster r
    refine ⟨_, _, reconcile_run_of_keyed hdirect hkeyed now server settings r,
      ?_⟩
    rw [reconcile_run_of_keyed hdirect hkeyed now' server' settings' r,
      hcluster, Service.agentsOf_congr hservers]
  · intro server s' hkeyed' hadds settings r
    refine ⟨_, _, reconcile_run_of_keyed hdirect hkeyed now server settings r,
      ?_⟩
    rw [reconcile_run_of_keyed (hdirect.withService s') hkeyed' now' server
        settings r, Site.service_withService,
      hadds.agentsOf_eq settings.clusterName]

/-- A cluster with one agent of each of two servers. -/
def sharedSite : Site :=
  let first :=
    ((createAgent ⟨"a", "a"⟩ "ci" smallSettings smallRequest).run.run 0 {}).2
  ((createAgent ⟨"b", "b"⟩ "qa" smallSettings smallRequest).run.run 0 first).2

/-- A definition that names no server and none of the rest either. -/
def strayDefinition : TaskDefinition where
  arn := "stray"
  family := "stray"
  revision := 1
  status := .active
  containers := [{ name := "stray", image := "alpine" }]
  networkMode := .default
  compatibilities := []
  cpu := none
  memory := none

/-- A task of that definition. -/
def strayTask : Task where
  arn := "stray-task"
  definitionArn := "stray"
  cluster := "agents"
  instanceArn := none
  lastStatus := "RUNNING"
  desiredStatus := .running
  launchType := none
  capacityProvider := none
  createdAt := none

theorem sharedSite_isDirect : sharedSite.IsDirect := by
  have hdirect : Site.IsDirect {} := rfl
  exact (hdirect.run 0 _).run 0 _

theorem sharedSite_keyed : sharedSite.service.Keyed := by
  have hdirect : Site.IsDirect {} := rfl
  exact ((hdirect.run 0 _).run_sound (hdirect.run_sound .empty 0 _) 0 _).keyed

/-- The tasks of `sharedSite` belong to one server each. -/
theorem sharedSite_labels :
    (sharedSite.service.withDefinition
        (sharedSite.service.running "agents")).map
        (fun p => p.2.agentLabels?) =
      [Specification.ownership smallRequest "ci",
          Specification.ownership smallRequest "qa"].map fun o =>
        some (o.toLabels smallSettings.pluginId) := by
  rfl

/-- Two servers of `sharedSite` find one agent each, either finds its own under
another spelling of its name too, and the stray task changes nothing. -/
theorem reconcile_separates_servers_sharedSite :
    (sharedSite.service.NamesServers ∧
      ∃ n next n' next',
        ((reconcile "ci" smallSettings ∅).run.run 1 sharedSite).1 =
          .ok (n, next) ∧
        ((reconcile "qa" smallSettings ∅).run.run 2 sharedSite).1 =
          .ok (n', next') ∧
        next.keys = ["GoCDa"] ∧
        next'.keys = ["GoCDb"] ∧
        ∀ a ∈ next.agents, ∀ a' ∈ next'.agents, a.taskArn ≠ a'.taskArn) ∧
    (∃ n next,
        ((reconcile "ci" smallSettings ∅).run.run 1 sharedSite).1 =
          .ok (n, next) ∧
        ((reconcile "CI" smallSettings ∅).run.run 2 sharedSite).1 =
          .ok (n, next) ∧
        next.keys = ["GoCDa"]) ∧
    sharedSite.service.AddsUnseen "ci"
      (sharedSite.service.plantTask strayTask strayDefinition) ∧
    ∃ n next,
      ((reconcile "ci" smallSettings ∅).run.run 1 sharedSite).1 =
        .ok (n, next) ∧
      ((reconcile "ci" smallSettings ∅).run.run 2
            (sharedSite.withService
                (sharedSite.service.plantTask strayTask strayDefinition))).1 =
        .ok (n, next) ∧
      next.keys = ["GoCDa"] := by
  have hnames : sharedSite.service.NamesServers :=
    .of_values (by decide +kernel)
  have hunseen : strayDefinition.UnseenBy "ci" := by
    have hlabels : strayDefinition.agentLabels? = some ∅ := rfl
    have hunreadable :
        Ownership.ofLabels ∅ "ci" = .error (.missing Labels.profileKey) := rfl
    exact .unreadable hlabels (by decide) hunreadable
  have hadds :
      sharedSite.service.AddsUnseen "ci"
        (sharedSite.service.plantTask strayTask strayDefinition) :=
    Service.addsUnseen_plantTask (by decide +kernel) (by decide +kernel) rfl
      hunseen
  have hkeyed' := sharedSite_keyed.plantTask strayTask strayDefinition
  obtain ⟨hapart, halike, hstray⟩ :=
    reconcile_separates_servers sharedSite_isDirect sharedSite_keyed 1 2
  have hci :
      (sharedSite.service.agentsOf "agents" "ci").map Agent.name =
        ["GoCDa"] := by
    rw [← Service.ownedAgents_withDefinition,
      ownedAgents_of_labels sharedSite_labels]
    rfl
  have hqa :
      (sharedSite.service.agentsOf "agents" "qa").map Agent.name =
        ["GoCDb"] := by
    rw [← Service.ownedAgents_withDefinition,
      ownedAgents_of_labels sharedSite_labels]
    rfl
  have hkeys :
      ∀ {server name : String} {now : UInt64} {n : Nat} {next : Roster},
        ((reconcile server smallSettings ∅).run.run now sharedSite).1 =
          .ok (n, next) →
        (sharedSite.service.agentsOf "agents" server).map Agent.name = [name] →
        next.keys = [name] :=
    fun hrun => keys_of_reconcile sharedSite_isDirect sharedSite_keyed hrun
  refine ⟨⟨hnames, ?_⟩, ?_, hadds, ?_⟩
  · obtain ⟨n, next, n', next', hrun, hrun', hne⟩ :=
      hapart hnames "ci" "qa" (by decide) smallSettings smallSettings ∅ ∅
    exact ⟨n, next, n', next', hrun, hrun',
      hkeys hrun hci,
      hkeys hrun' hqa, hne⟩
  · obtain ⟨n, next, hrun, hrun'⟩ :=
      halike "ci" "CI" (by decide) smallSettings smallSettings rfl ∅
    exact ⟨n, next, hrun, hrun', hkeys hrun hci⟩
  · obtain ⟨n, next, hrun, hrun'⟩ := hstray "ci" _ hkeyed' hadds smallSettings ∅
    exact ⟨n, next, hrun, hrun', hkeys hrun hci⟩

end Roster
end AgentFleet
