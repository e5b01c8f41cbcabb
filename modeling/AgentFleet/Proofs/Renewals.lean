import AgentFleet.Proofs.Creating
import AgentFleet.Proofs.Rosters

/-!
# Renewals of a roster

A roster changes when the server adds or removes an agent and when a pass renews
it.  A renewal takes nothing over from the roster before it but the placeholders
of serverless agents.  So it can be said name by name what stands on the new
roster, a second renewal by the same agents changes nothing, and a placeholder
stays for as long as each renewal finds the agent on serverless capacity.
-/

namespace AgentFleet
namespace Roster

/-- What may be done to a roster. -/
inductive Change where
  | add (t : Agent)
  | remove (name : String)
  | renew (ts : List Agent)

/-- The roster once something has been done to it. -/
def change (r : Roster) : Change → Roster
  | .add t => r.add t
  | .remove name => (r.remove name).2
  | .renew ts => r.renew ts

/-- The roster once some things have been done to it, one after the other. -/
def after (r : Roster) (cs : List Change) : Roster :=
  cs.foldl change r

/-- The roster that comes of an empty one. -/
def made (cs : List Change) : Roster :=
  after ∅ cs

/-- The agent is the last one of its name in a list. -/
def IsLast (ts : List Agent) (name : String) (t : Agent) : Prop :=
  ∃ front back,
    ts = front ++ t :: back ∧ t.name = name ∧ ∀ u ∈ back, u.name ≠ name

/-- Where the agent of a name runs, if that is serverless capacity. -/
def serverlessAt? (r : Roster) (name : String) : Option Target :=
  (r[name]?.map Agent.target).filter Target.isServerless

/-- The agent as it is shown at a place, if it is on serverless capacity itself.
-/
def shownAt (t : Agent) (place : Option Target) : Agent :=
  if t.target.isServerless then { t with target := place.getD t.target } else t

variable {r r' : Roster} {ts : List Agent} {name : String} {t : Agent}

/-! ## The last agent of a name -/

theorem find?_reverse_eq_some_iff :
    (ts.reverse.find? fun u => u.name = name) = some t ↔ IsLast ts name t := by
  rw [List.find?_eq_some_iff_append, decide_eq_true_iff]
  constructor
  · rintro ⟨hname, back, front, hts, hback⟩
    refine ⟨front.reverse, back.reverse, ?_, hname, ?_⟩
    · rw [← List.reverse_reverse ts, hts]
      simp
    · intro u hu
      simpa using hback u (List.mem_reverse.mp hu)
  · rintro ⟨front, back, rfl, hname, hback⟩
    refine ⟨hname, back.reverse, front.reverse, by simp, ?_⟩
    intro u hu
    simpa using hback u (List.mem_reverse.mp hu)

theorem IsLast.name_eq (h : IsLast ts name t) : t.name = name := by
  obtain ⟨-, -, -, hname, -⟩ := h
  exact hname

theorem IsLast.mem (h : IsLast ts name t) : t ∈ ts := by
  obtain ⟨front, back, rfl, -, -⟩ := h
  exact List.mem_append_right front List.mem_cons_self

theorem IsLast.unique
    {t' : Agent} (h : IsLast ts name t) (h' : IsLast ts name t') :
    t = t' := by
  rw [← find?_reverse_eq_some_iff] at h h'
  exact Option.some.inj (h.symm.trans h')

theorem exists_isLast_iff :
    (∃ t, IsLast ts name t) ↔ name ∈ ts.map Agent.name := by
  simp only [← find?_reverse_eq_some_iff, ← Option.isSome_iff_exists,
    List.find?_isSome, List.mem_reverse, decide_eq_true_iff, List.mem_map]

/-! ## What a renewal makes of an agent -/

theorem keepPlaceholder_eq
    (r : Roster) (t : Agent) :
    r.keepPlaceholder t = shownAt t (r.serverlessAt? t.name) := by
  rw [keepPlaceholder, shownAt, serverlessAt?]
  by_cases hserverless : t.target.isServerless = true
  · rw [if_pos hserverless]
    cases r[t.name]? with
    | none => rfl
    | some previous =>
      by_cases hprevious : previous.target.isServerless = true
      · simp [hserverless, hprevious, Option.filter]
      · simp [hprevious, Option.filter]
  · rw [if_neg hserverless]
    cases r[t.name]? with
    | none => rfl
    | some previous => simp [hserverless]

theorem getElem?_renew_of_isLast
    (h : IsLast ts name t) :
    (r.renew ts)[name]? = some (shownAt t (r.serverlessAt? name)) := by
  rw [getElem?_renew, find?_reverse_eq_some_iff.mpr h, Option.map_some,
    keepPlaceholder_eq, h.name_eq]

theorem serverlessAt?_renew_of_isLast
    (h : IsLast ts name t) :
    (r.renew ts).serverlessAt? name =
      if t.target.isServerless then some ((r.serverlessAt? name).getD t.target)
      else none := by
  rw [serverlessAt?, getElem?_renew_of_isLast h, Option.map_some, shownAt]
  by_cases hserverless : t.target.isServerless = true
  · have hplace :
        ((r.serverlessAt? name).getD t.target).isServerless = true := by
      cases hplace : r.serverlessAt? name with
      | none => exact hserverless
      | some place => exact (Option.filter_eq_some_iff.mp hplace).2
    rw [if_pos hserverless, if_pos hserverless, Option.filter_eq_some_iff]
    exact ⟨rfl, hplace⟩
  · rw [if_neg hserverless, if_neg hserverless, Option.filter_eq_none_iff]
    intro place hplace
    rw [← Option.some.inj hplace]
    exact hserverless

/-- A renewal depends on the roster before it by the placeholders alone. -/
theorem renew_congr
    (h : ∀ name, r.serverlessAt? name = r'.serverlessAt? name)
    (ts : List Agent) :
    r.renew ts = r'.renew ts := by
  have hkeep : r.keepPlaceholder = r'.keepPlaceholder := by
    funext t
    rw [keepPlaceholder_eq, keepPlaceholder_eq, h]
  rw [renew, renew, hkeep]

/-- A renewal takes the place over that it has given itself. -/
theorem shownAt_serverlessAt?_renew
    (h : IsLast ts name t) :
    shownAt t ((r.renew ts).serverlessAt? name) =
      shownAt t (r.serverlessAt? name) := by
  rw [serverlessAt?_renew_of_isLast h, shownAt, shownAt]
  by_cases hserverless : t.target.isServerless = true
  · rw [if_pos hserverless, if_pos hserverless, if_pos hserverless,
      Option.getD_some]
  · rw [if_neg hserverless, if_neg hserverless]

theorem renew_renew
    (r : Roster) (ts : List Agent) :
    (r.renew ts).renew ts = r.renew ts := by
  apply Std.ExtTreeMap.ext_getElem?
  intro name
  by_cases hname : name ∈ ts.map Agent.name
  · obtain ⟨t, hlast⟩ := exists_isLast_iff.mpr hname
    rw [getElem?_renew_of_isLast hlast, getElem?_renew_of_isLast hlast,
      shownAt_serverlessAt?_renew hlast]
  · rw [getElem?_renew_of_notMem hname, getElem?_renew_of_notMem hname]

/-! ## Agents in the order of their names -/

theorem keyedBy_change
    (h : Table.KeyedBy Agent.name r) (c : Change) :
    Table.KeyedBy Agent.name (r.change c) := by
  cases c with
  | add t => exact h.insert rfl
  | remove name =>
    intro k t ht
    exact h k t (Table.getElem?_erase_eq_some_iff.mp ht).2
  | renew ts =>
    intro k t ht
    obtain ⟨u, -, hname, rfl⟩ := exists_of_getElem?_renew ht
    rw [keepPlaceholder_name, hname]

theorem keyedBy_after
    (h : Table.KeyedBy Agent.name r) (cs : List Change) :
    Table.KeyedBy Agent.name (r.after cs) := by
  induction cs generalizing r with
  | nil => exact h
  | cons c cs ih => exact ih (keyedBy_change h c)

theorem length_agents (r : Roster) : r.agents.length = r.size := by
  rw [agents, Table.values_eq_map_snd, List.length_map,
    Std.ExtTreeMap.length_toList]

theorem pairwise_agents
    (h : Table.KeyedBy Agent.name r) :
    r.agents.Pairwise fun a b => a.name < b.name :=
  List.pairwise_map.mp h.pairwise_names

/-! ## Placeholders that stay -/

/-- The change leaves an agent on serverless capacity: it is not added or
removed, and a renewal finds it there. -/
def Change.Keeps (name : String) : Change → Prop
  | .add t => t.name ≠ name
  | .remove other => other ≠ name
  | .renew ts => ∃ t, IsLast ts name t ∧ t.target.isServerless = true

theorem serverlessAt?_change
    {place : Target} (hplace : r.serverlessAt? name = some place) {c : Change}
    (hc : c.Keeps name) :
    (r.change c).serverlessAt? name = some place := by
  cases c with
  | add t =>
    have hother : (r.add t)[name]? = r[name]? := by
      rw [add, Std.ExtTreeMap.getElem?_insert]
      exact if_neg (by simpa [Change.Keeps] using hc)
    rwa [change, serverlessAt?, hother]
  | remove other =>
    have hother : (r.erase other)[name]? = r[name]? := by
      rw [Std.ExtTreeMap.getElem?_erase]
      exact if_neg (by simpa [Change.Keeps] using hc)
    rwa [change, serverlessAt?, remove, hother]
  | renew ts =>
    obtain ⟨t, hlast, hserverless⟩ := hc
    rw [change, serverlessAt?_renew_of_isLast hlast, if_pos hserverless, hplace,
      Option.getD_some]

theorem serverlessAt?_after
    {place : Target} (hplace : r.serverlessAt? name = some place)
    {cs : List Change} (hcs : ∀ c ∈ cs, c.Keeps name) :
    (r.after cs).serverlessAt? name = some place := by
  induction cs generalizing r with
  | nil => exact hplace
  | cons c cs ih =>
    obtain ⟨hc, hcs⟩ := List.forall_mem_cons.mp hcs
    exact ih (serverlessAt?_change hplace hc) hcs

theorem exists_placeholder_of_serverlessAt?
    {place : Target} (hplace : r.serverlessAt? name = some place) :
    r[name]?.map Agent.target = some place ∧
    ∃ placeholder spot, place = .serverless placeholder spot := by
  obtain ⟨hentry, hserverless⟩ := Option.filter_eq_some_iff.mp hplace
  refine ⟨hentry, ?_⟩
  cases place with
  | serverless placeholder spot => exact ⟨placeholder, spot, rfl⟩
  | machine id => cases hserverless
  | unknown => cases hserverless

/-- A renewal of a roster, whatever has been done to the roster before, has the
names of the agents that it is given.  Under each name stands the last agent of
it, at the place shown before if both are on serverless capacity.  Nothing else
of the old roster matters, renewing again changes nothing, and as long as
renewals find an agent on serverless capacity it shows the placeholder it has
shown first.  The agents of a roster come in the strict order of their names. -/
theorem renewal_keeps_placeholders
    (cs : List Change) (ts : List Agent) :
    (∀ name, name ∈ (made cs).renew ts ↔ name ∈ ts.map Agent.name) ∧
    (∀ name t,
        IsLast ts name t →
        ((made cs).renew ts)[name]? =
          some (shownAt t ((made cs).serverlessAt? name))) ∧
    ((made cs).renew ts).renew ts = (made cs).renew ts ∧
    (∀ r : Roster,
        (∀ name, r.serverlessAt? name = (made cs).serverlessAt? name) →
        r.renew ts = (made cs).renew ts) ∧
    ((made cs).agents.Pairwise (fun a b => a.name < b.name) ∧
      (made cs).agents.length = (made cs).size) ∧
    ∀ name t,
      IsLast ts name t →
      t.target.isServerless = true →
      ∃ placeholder spot,
        ∀ cs',
          (∀ c ∈ cs', c.Keeps name) →
          (((made cs).renew ts).after cs')[name]?.map Agent.target =
            some (.serverless placeholder spot) := by
  have hkeyed : Table.KeyedBy Agent.name (made cs) := keyedBy_after .empty cs
  refine ⟨fun _ => mem_renew_iff,
    fun _ _ hlast => getElem?_renew_of_isLast hlast, renew_renew _ ts,
    fun r hplaces => renew_congr hplaces ts,
    ⟨pairwise_agents hkeyed, length_agents _⟩, ?_⟩
  intro name t hlast hserverless
  have hfirst := serverlessAt?_renew_of_isLast (r := made cs) hlast
  rw [if_pos hserverless] at hfirst
  obtain ⟨-, placeholder, spot, hplace⟩ :=
    exists_placeholder_of_serverlessAt? hfirst
  refine ⟨placeholder, spot, ?_⟩
  intro cs' hcs'
  have hlater := serverlessAt?_after hfirst hcs'
  rw [← hplace]
  exact (exists_placeholder_of_serverlessAt? hlater).1

/-- An agent that is shown at a placeholder. -/
def placedAgent (taskArn placeholder : String) : Agent where
  name := "GoCDa"
  taskArn := taskArn
  definitionArn := "d"
  profile := smallRequest.profile
  job := smallRequest.job
  environment := "prod"
  target := .serverless placeholder false
  createdAt := none
  lastStatus := "RUNNING"

/-- Of two agents of one name the second one is kept, at the placeholder that
was shown first. -/
theorem renewal_keeps_placeholders_placedAgent :
    ((made [.add (placedAgent "t1" "Fargate1")]).renew
        [placedAgent "t1" "Fargate2", placedAgent "t2" "Fargate3"])["GoCDa"]? =
      some (placedAgent "t2" "Fargate1") ∧
    ∃ placeholder spot,
      (((made [.add (placedAgent "t1" "Fargate1")]).renew
          [placedAgent "t1" "Fargate2", placedAgent "t2" "Fargate3"]).after
          [.remove "GoCDb",
            .renew [placedAgent "t2" "Fargate4"]])["GoCDa"]?.map
          Agent.target =
        some (.serverless placeholder spot) := by
  obtain ⟨-, hentry, -, -, -, hstays⟩ :=
    renewal_keeps_placeholders [.add (placedAgent "t1" "Fargate1")]
      [placedAgent "t1" "Fargate2", placedAgent "t2" "Fargate3"]
  have hlast :
      IsLast [placedAgent "t1" "Fargate2", placedAgent "t2" "Fargate3"] "GoCDa"
        (placedAgent "t2" "Fargate3") := ⟨[_], [], rfl, rfl, by simp⟩
  have hkeeps :
      ∀ c ∈ [Change.remove "GoCDb", .renew [placedAgent "t2" "Fargate4"]],
        c.Keeps "GoCDa" := by
    intro c hc
    simp only [List.mem_cons, List.not_mem_nil, or_false] at hc
    rcases hc with rfl | rfl
    · exact (by decide : "GoCDb" ≠ "GoCDa")
    · exact ⟨placedAgent "t2" "Fargate4", ⟨[], [], rfl, rfl, by simp⟩, rfl⟩
  obtain ⟨placeholder, spot, hplace⟩ := hstays _ _ hlast rfl
  refine ⟨(hentry _ _ hlast).trans ?_, placeholder, spot, hplace _ hkeeps⟩
  decide +kernel

end Roster
end AgentFleet
