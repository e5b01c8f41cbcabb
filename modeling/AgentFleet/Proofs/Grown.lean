import AgentFleet.Proofs.Later

/-!
# Grown services

A service into which nothing was planted from outside has made all of its
definitions and tasks itself.  Whatever is reserved in it is reserved for a task
of it, and once a definition has gone no other one takes its name.
-/

namespace AgentFleet
namespace Service

/-- The services that come about without anything being planted. -/
inductive Grown : Service → Prop where
  | empty : Grown {}
  | call {s : Service} (h : Grown s) (now : UInt64) (c : Call) :
      Grown (s.serve now c).2
  | enlist {s : Service} (h : Grown s) (i : ContainerInstance) :
      Grown (s.enlist i)
  | arrange {s : Service} (h : Grown s) (a : Arrangement) : Grown (s.arrange a)

variable {s s' : Service}

theorem Grown.reachable (h : s.Grown) : s.Reachable := by
  induction h with
  | empty => exact .empty
  | call _ now c ih => exact ih.call now c
  | enlist _ i ih => exact ih.enlist i
  | arrange _ a ih => exact ih.arrange a

theorem Grown.sound (h : s.Grown) : s.Sound :=
  h.reachable.sound

/-! ## Reservations -/

/-- Everything reserved is reserved for a task on an instance. -/
def ReservesForTasks (s : Service) : Prop :=
  ∀ (arn : String) (d : Demand), s.reservations[arn]? = some d →
    ∃ t : Task, s.tasks[arn]? = some t ∧ t.instanceArn.isSome

namespace ReservesForTasks

theorem insertStopped
    (h : s.ReservesForTasks) {arn : String} {t : Task}
    (ht : s.tasks[arn]? = some t) :
    ReservesForTasks { s with tasks := s.tasks.insert arn (stopped t) } := by
  intro k d hd
  obtain ⟨t', ht', hon⟩ := h k d hd
  by_cases hk : arn = k
  · subst hk
    obtain rfl : t = t' := Option.some.inj (ht.symm.trans ht')
    exact ⟨_, Table.getElem?_insert_eq_some_iff.mpr (Or.inl ⟨rfl, rfl⟩), hon⟩
  · exact ⟨t', Table.getElem?_insert_eq_some_iff.mpr (Or.inr ⟨hk, ht'⟩), hon⟩

theorem handBack
    (h : s.ReservesForTasks) (arn : String) (t : Task) :
    (s.handBack arn t).ReservesForTasks := by
  have hfewer :
      ∀ (k : String) (d : Demand),
        (s.reservations.erase arn)[k]? = some d →
        ∃ t' : Task, s.tasks[k]? = some t' ∧ t'.instanceArn.isSome :=
    fun k d hd => h k d (Table.getElem?_erase_eq_some_iff.mp hd).2
  rcases handBack_cases arn t s with ⟨-, heq⟩ | ⟨a, i, -, -, heq⟩
  · rw [heq]
    exact hfewer
  · rw [heq]
    exact hfewer

theorem changes
    (h : s.ReservesForTasks) (hsound : s.Sound) {now : UInt64}
    (hchange : Changes now s s') :
    s'.ReservesForTasks := by
  cases hchange with
  | @start cluster _ arn d i hd hi hmemory hcpu =>
    intro k d' hd'
    rcases Table.getElem?_insert_eq_some_iff.mp hd' with ⟨rfl, -⟩ | ⟨-, hold⟩
    · exact ⟨_, Table.getElem?_insert_eq_some_iff.mpr (Or.inl ⟨rfl, rfl⟩), rfl⟩
    · obtain ⟨t, ht, hon⟩ := h k d' hold
      exact ⟨t, hsound.getElem?_insert_task ht cluster _, hon⟩
  | run cluster launchType provider hd =>
    intro k d' hd'
    obtain ⟨t, ht, hon⟩ := h k d' hd'
    exact ⟨t, hsound.getElem?_insert_task ht cluster _, hon⟩
  | stopAgain ht hstopped => exact h.insertStopped ht
  | stop ht hactive => exact (h.insertStopped ht).handBack _ _
  | _ => exact h

theorem serve
    (h : s.ReservesForTasks) (hsound : s.Sound) (now : UInt64) (c : Call) :
    (s.serve now c).2.ReservesForTasks := by
  refine (serve_keeps (P := fun s' => s'.Sound ∧ s'.ReservesForTasks) ?_ c
    ⟨hsound.noted [c], h⟩).2
  rintro s₁ s₂ hchange ⟨hsound₁, h₁⟩
  exact ⟨hsound₁.changes hchange, h₁.changes hsound₁ hchange⟩

/-- Nothing is reserved for what is not on an instance. -/
theorem reservations_eq_none
    (h : s.ReservesForTasks) {arn : String}
    (hnone : ∀ t : Task, s.tasks[arn]? = some t → t.instanceArn = none) :
    s.reservations[arn]? = none := by
  rw [Option.eq_none_iff_forall_ne_some]
  intro d hd
  obtain ⟨t, ht, hon⟩ := h arn d hd
  rw [hnone t ht] at hon
  cases hon

end ReservesForTasks

theorem Grown.reservesForTasks (h : s.Grown) : s.ReservesForTasks := by
  induction h with
  | empty => simp [ReservesForTasks]
  | call h now c ih => exact ih.serve h.sound now c
  | enlist _ i ih => exact ih
  | arrange _ a ih => cases a <;> exact ih

/-! ## Definitions that are gone -/

/-- A definition of the name is gone for good. -/
structure Forgets (s : Service) (arn : String) : Prop where
  gone : s.definitions[arn]? = none
  spares : s.SparesDefinition arn

namespace Forgets

variable {arn : String}

theorem changes
    (h : s.Forgets arn) {now : UInt64} (hchange : Changes now s s') :
    s'.Forgets arn := by
  have hspares : s'.SparesDefinition arn := h.spares.later (.changes hchange)
  refine ⟨?_, hspares⟩
  cases hchange with
  | register r =>
    have hne : (s.nextDefinition r).arn ≠ arn := by
      intro heq
      exact h.spares r.family _ (Nat.lt_succ_self _) heq.symm
    exact (Std.ExtTreeMap.getElem?_insert).trans
      ((if_neg (by simpa using hne)).trans h.gone)
  | @retire k d hd =>
    have hne : k ≠ arn := by
      rintro rfl
      exact absurd (h.gone.symm.trans hd) (Option.some_ne_none d).symm
    exact (Std.ExtTreeMap.getElem?_insert).trans
      ((if_neg (by simpa using hne)).trans h.gone)
  | forget ds hds =>
    rw [Option.eq_none_iff_forall_ne_some]
    intro d hd
    exact absurd (h.gone.symm.trans (hds arn d hd)) (Option.some_ne_none d).symm
  | @stop k t ht hactive =>
    rcases handBack_cases k t { s with tasks := s.tasks.insert k (stopped t) }
      with
      ⟨-, heq⟩ | ⟨a, i, -, -, heq⟩
    · rw [heq]
      exact h.gone
    · rw [heq]
      exact h.gone
  | _ => exact h.gone

theorem serve
    (h : s.Forgets arn) (now : UInt64) (c : Call) :
    (s.serve now c).2.Forgets arn :=
  serve_keeps (P := fun s' => s'.Forgets arn)
    (fun _ _ hchange hs => hs.changes hchange) c ⟨h.gone, h.spares⟩

theorem enlist
    (h : s.Forgets arn) (i : ContainerInstance) :
    (s.enlist i).Forgets arn :=
  ⟨h.gone, h.spares⟩

end Forgets

end Service
end AgentFleet
