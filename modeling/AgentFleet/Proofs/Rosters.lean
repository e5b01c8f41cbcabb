import AgentFleet.Roster
import AgentFleet.Proofs.Table

/-!
# Rosters

The roster of some agents has one entry for each of their names, and among
agents of one name the last one counts.
-/

namespace AgentFleet

/-- The agent without the place where it runs. -/
def Agent.unplaced (t : Agent) : Agent :=
  { t with target := .unknown }

theorem Agent.name_of_unplaced
    {t t' : Agent} (h : t.unplaced = t'.unplaced) :
    t.name = t'.name := by
  have hname := congrArg Agent.name h
  exact hname

namespace Roster

/-- A placeholder that is kept is all that a roster changes about an agent. -/
@[simp]
theorem keepPlaceholder_unplaced
    (r : Roster) (t : Agent) :
    (r.keepPlaceholder t).unplaced = t.unplaced := by
  rw [keepPlaceholder]
  cases r[t.name]? with
  | none => rfl
  | some previous => dsimp only; split <;> rfl

@[simp]
theorem keepPlaceholder_name
    (r : Roster) (t : Agent) :
    (r.keepPlaceholder t).name = t.name :=
  Agent.name_of_unplaced (r.keepPlaceholder_unplaced t)

theorem keepPlaceholder_taskArn
    (r : Roster) (t : Agent) :
    (r.keepPlaceholder t).taskArn = t.taskArn := by
  have harn := congrArg Agent.taskArn (r.keepPlaceholder_unplaced t)
  exact harn

/-- A roster is filled from the last agent back: an agent at the front is
overruled by those behind it. -/
theorem getElem?_foldl_add
    (r next : Roster) (ts : List Agent) (name : String) :
    (ts.foldl (fun next t => add next (r.keepPlaceholder t)) next)[name]? =
      ((ts.reverse.find? fun t => t.name = name).map r.keepPlaceholder).or
        next[name]? := by
  induction ts generalizing next with
  | nil => rfl
  | cons t ts ih =>
    rw [List.foldl_cons, ih, List.reverse_cons, List.find?_append, add,
      keepPlaceholder_name, Std.ExtTreeMap.getElem?_insert]
    cases hlast : ts.reverse.find? fun t => t.name = name with
    | some last => rfl
    | none =>
      by_cases hname : t.name = name
      · simp [hname]
      · simp [hname]

theorem getElem?_renew
    (r : Roster) (ts : List Agent) (name : String) :
    (r.renew ts)[name]? =
      (ts.reverse.find? fun t => t.name = name).map r.keepPlaceholder := by
  rw [renew, getElem?_foldl_add]
  simp

/-- An entry of a new roster is one of the agents. -/
theorem exists_of_getElem?_renew
    {r : Roster} {ts : List Agent} {name : String} {a : Agent}
    (h : (r.renew ts)[name]? = some a) :
    ∃ t ∈ ts, t.name = name ∧ a = r.keepPlaceholder t := by
  rw [getElem?_renew, Option.map_eq_some_iff] at h
  obtain ⟨t, ht, rfl⟩ := h
  have hname : t.name = name := by simpa using List.find?_some ht
  exact ⟨t, List.mem_reverse.mp (List.mem_of_find?_eq_some ht), hname, rfl⟩

theorem mem_renew_iff
    {r : Roster} {ts : List Agent} {name : String} :
    name ∈ r.renew ts ↔ name ∈ ts.map Agent.name := by
  rw [Std.ExtTreeMap.mem_iff_isSome_getElem?, getElem?_renew, Option.isSome_map,
    List.find?_isSome]
  simp only [List.mem_reverse, decide_eq_true_iff, List.mem_map]

/-- The new roster has no entry under a name that none of the agents has. -/
theorem getElem?_renew_of_notMem
    {r : Roster} {ts : List Agent} {name : String}
    (h : name ∉ ts.map Agent.name) :
    (r.renew ts)[name]? = none :=
  Std.ExtTreeMap.getElem?_eq_none (mt mem_renew_iff.mp h)

/-- If no two agents have one name, every agent is in the roster. -/
theorem getElem?_renew_of_mem
    {r : Roster} {ts : List Agent} (hnodup : (ts.map Agent.name).Nodup)
    {t : Agent} (ht : t ∈ ts) :
    (r.renew ts)[t.name]? = some (r.keepPlaceholder t) := by
  have hreversed : (ts.reverse.map Agent.name).Nodup :=
    ((List.reverse_perm ts).map Agent.name).nodup_iff.mpr hnodup
  have hfilter := Table.filter_name_eq hreversed (List.mem_reverse.mpr ht)
  rw [getElem?_renew, ← List.head?_filter, hfilter]
  rfl

/-- The new roster has the names of the agents. -/
theorem keys_renew_perm
    {r : Roster} {ts : List Agent} (hnodup : (ts.map Agent.name).Nodup) :
    (r.renew ts).keys.Perm (ts.map Agent.name) := by
  rw [List.perm_ext_iff_of_nodup (r.renew ts).nodup_keys hnodup]
  intro name
  rw [Std.ExtTreeMap.mem_keys, mem_renew_iff]

end Roster
end AgentFleet
