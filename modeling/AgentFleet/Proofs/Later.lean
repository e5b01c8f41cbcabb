import AgentFleet.Proofs.Machines

/-!
# Services later on

What the steps of a service only ever increase: its counters of names, the names
that stand for machines, and the absence of arrangements against the removal of
definitions.
-/

namespace AgentFleet
namespace Service

/-- The second service is the first one at a later time. -/
structure Later (s s' : Service) : Prop where
  revisions : ∀ family, s.revisions.getD family 0 ≤ s'.revisions.getD family 0
  machines : ∀ arn, s.machineAt arn ≠ none → s'.machineAt arn ≠ none
  deregister : s.mishaps.deregister = none → s'.mishaps.deregister = none
  delete : s.mishaps.delete = none → s'.mishaps.delete = none

variable {s s' s'' : Service}

namespace Later

theorem of_eq
    (hrevisions : s'.revisions = s.revisions)
    (hmachines : s'.machineAt = s.machineAt)
    (hderegister : s'.mishaps.deregister = s.mishaps.deregister)
    (hdelete : s'.mishaps.delete = s.mishaps.delete) :
    s.Later s' :=
  ⟨fun _ => Nat.le_of_eq (by rw [hrevisions]), fun _ h => hmachines ▸ h,
    fun h => hderegister.trans h, fun h => hdelete.trans h⟩

theorem refl (s : Service) : s.Later s :=
  of_eq rfl rfl rfl rfl

theorem trans (h : s.Later s') (h' : s'.Later s'') : s.Later s'' :=
  ⟨fun family => Nat.le_trans (h.revisions family) (h'.revisions family),
    fun arn hknown => h'.machines arn (h.machines arn hknown),
    fun hnone => h'.deregister (h.deregister hnone),
    fun hnone => h'.delete (h.delete hnone)⟩

/-- Every change takes a service to a later time. -/
theorem changes {now : UInt64} (hchange : Changes now s s') : s.Later s' := by
  have hmachines := machineAt_of_changes hchange
  cases hchange with
  | mishap m hderegister hdelete =>
    refine ⟨fun _ => Nat.le_refl _, fun _ => id, ?_, ?_⟩
    · intro hnone
      rcases hderegister with hspent | hsame
      · exact hspent
      · exact hsame.trans hnone
    · intro hnone
      rcases hdelete with hspent | hsame
      · exact hspent
      · exact hsame.trans hnone
  | register r =>
    refine ⟨?_, fun _ => id, id, id⟩
    intro family
    rw [register_eq, Std.ExtTreeMap.getD_insert]
    by_cases hfamily : r.family = family
    · subst hfamily
      simp
    · simp [hfamily]
  | @stop arn t ht hactive =>
    rcases handBack_cases arn t
      { s with tasks := s.tasks.insert arn (stopped t) } with
      ⟨-, heq⟩ | ⟨a, i, -, -, heq⟩
    · rw [heq] at hmachines ⊢
      exact of_eq rfl hmachines rfl rfl
    · rw [heq] at hmachines ⊢
      exact of_eq rfl hmachines rfl rfl
  | _ => exact of_eq rfl hmachines rfl rfl

/-- Serving a call takes a service to a later time. -/
theorem serve
    (now : UInt64) (c : Call) (s : Service) :
    s.Later (s.serve now c).2 :=
  serve_keeps (P := s.Later) (fun _ _ hchange hs => hs.trans (changes hchange))
    c (of_eq rfl rfl rfl rfl)

theorem enlist
    (s : Service) (i : ContainerInstance) :
    s.Later (s.enlist i) := by
  refine ⟨fun _ => Nat.le_refl _, ?_, id, id⟩
  intro arn hknown
  rw [machineAt_enlist]
  by_cases harn : i.arn = arn
  · simp [harn]
  · rwa [if_neg harn]

/-- Every script takes a service to a later time. -/
theorem run
    {site : Site} (h : site.IsDirect) (now : UInt64) {α : Type} (x : Script α) :
    site.service.Later (x.run now site).2.service :=
  h.run_keeps now (P := site.service.Later)
    (fun s c hs => hs.trans (serve now c s))
    (fun s i _ hs => hs.trans (enlist s i)) (refl _) x

end Later

/-- A name that will not be made up will not be made up later on. -/
theorem SparesDefinition.later
    {arn : String} (h : s.SparesDefinition arn) (hlater : s.Later s') :
    s'.SparesDefinition arn :=
  fun family n hn =>
    h family n (Nat.lt_of_le_of_lt (hlater.revisions family) hn)

end Service
end AgentFleet
