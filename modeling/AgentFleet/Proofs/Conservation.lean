import AgentFleet.Proofs.Balance

/-!
# Conservation of capacity

Balanced services neither lose capacity nor make it up: no bound of a release
ever bites, and what a task took is handed back once.
-/

namespace AgentFleet
namespace Service

variable {l : Ledger} {s : Service}

/-- What conservation of capacity comes to in a state of a run. -/
structure Conserved (l : Ledger) (s : Service) : Prop where
  /-- An instance has what it came with less what the tasks on it take. -/
  accounts :
    ∀ (arn : String) (i : ContainerInstance),
      s.instances[arn]? = some i →
      ∃ added : ContainerInstance,
        l.added[arn]? = some added ∧
        Account added i ((s.tasksOn arn).map l.demandOf)
  /-- An instance never has more left than it has altogether. -/
  bounded :
    ∀ (arn : String) (i : ContainerInstance),
      s.instances[arn]? = some i →
      i.remainingMemory.toNat ≤ i.registeredMemory.toNat ∧
      i.remainingCpu.toNat ≤ i.registeredCpu.toNat
  /-- What is reserved is what the tasks on instances take that have not been
  stopped. -/
  reserved :
    ∀ (arn : String) (d : Demand),
      s.reservations[arn]? = some d ↔
        ∃ t : Task,
          s.tasks[arn]? = some t ∧
          t.instanceArn.isSome ∧
          t.desiredStatus ≠ .stopped ∧
          l.demandOf t = d
  /-- Whatever a task has reserved fits back into its instance, which counts the
  task. -/
  room :
    ∀ (arn a : String) (t : Task),
      s.tasks[arn]? = some t →
      t.instanceArn = some a →
      t.desiredStatus ≠ .stopped →
      ∃ i : ContainerInstance,
        s.instances[a]? = some i ∧
        0 < i.pendingTasks.toNat ∧
        i.remainingMemory.toNat + (l.demandOf t).memory ≤
          i.registeredMemory.toNat ∧
        i.remainingCpu.toNat + (l.demandOf t).cpu ≤ i.registeredCpu.toNat
  /-- The first stop of a task hands back what the task took, to its instance
  alone. -/
  firstStop :
    ∀ (cluster arn a : String) (t : Task),
      s.tasks[arn]? = some t →
      t.cluster = cluster →
      t.instanceArn = some a →
      t.desiredStatus ≠ .stopped →
      ∃ i i' : ContainerInstance,
        s.instances[a]? = some i ∧
        Regains i i' (l.demandOf t) ∧
        (s.stopTask cluster arn).2.instances = s.instances.insert a i' ∧
        (s.stopTask cluster arn).2.reservations = s.reservations.erase arn
  /-- Any other stop hands back nothing. -/
  otherStop : ∀ cluster arn : String, (∀ t : Task, s.tasks[arn]? = some t →
    t.cluster = cluster → t.instanceArn.isSome → t.desiredStatus = .stopped) →
    (s.stopTask cluster arn).2.instances = s.instances ∧
      (s.stopTask cluster arn).2.reservations = s.reservations
  /-- A task that has been stopped stays stopped. -/
  lasting :
    ∀ (now : UInt64) (c : Call) (arn : String) (t : Task),
      s.tasks[arn]? = some t →
      t.desiredStatus = .stopped →
      ∃ t' : Task,
        (s.serve now c).2.tasks[arn]? = some t' ∧ t'.desiredStatus = .stopped

namespace Balanced

theorem reservations_iff
    (h : Balanced l s) {arn : String} {d : Demand} :
    s.reservations[arn]? = some d ↔
      ∃ t : Task,
        s.tasks[arn]? = some t ∧
        t.instanceArn.isSome ∧
        t.desiredStatus ≠ .stopped ∧
        l.demandOf t = d := by
  rw [h.reservations, Option.bind_eq_some_iff]
  simp only [Ledger.reservedFor, Option.ite_none_right_eq_some,
    Option.some.injEq, and_assoc]

theorem firstStop
    (h : Balanced l s) {cluster arn a : String} {t : Task}
    (ht : s.tasks[arn]? = some t) (hcluster : t.cluster = cluster)
    (ha : t.instanceArn = some a) (hactive : t.desiredStatus ≠ .stopped) :
    ∃ i i' : ContainerInstance,
      s.instances[a]? = some i ∧
      Regains i i' (l.demandOf t) ∧
      (s.stopTask cluster arn).2.instances = s.instances.insert a i' ∧
      (s.stopTask cluster arn).2.reservations = s.reservations.erase arn := by
  obtain ⟨i, hi⟩ := h.placed arn a t ht ha
  obtain ⟨hreserved, added, -, haccount⟩ := h.account_of_placed ht ha hactive hi
    { s with tasks := s.tasks.insert arn (stopped t) } rfl
  refine ⟨i, i.release (some (l.demandOf t)), hi, haccount.regains, ?_⟩
  rcases stopTask_cases cluster arn s with
    ⟨e, -, hnone⟩ | ⟨t', ht', -, hstopped, -⟩ | ⟨t', ht', -, -, heq⟩
  · exact absurd hcluster (hnone t ht)
  · obtain rfl : t = t' := Option.some.inj (ht.symm.trans ht')
    exact absurd hstopped hactive
  · obtain rfl : t = t' := Option.some.inj (ht.symm.trans ht')
    rw [heq]
    rcases handBack_cases arn t
      { s with tasks := s.tasks.insert arn (stopped t) } with
      ⟨hnone, -⟩ | ⟨b, j, hb, hj, heq'⟩
    · exact absurd ((hnone a ha).symm.trans hi) (Option.some_ne_none i).symm
    · obtain rfl : a = b := Option.some.inj (ha.symm.trans hb)
      obtain rfl : i = j := Option.some.inj (hi.symm.trans hj)
      rw [heq', ← hreserved]
      exact ⟨rfl, rfl⟩

theorem otherStop
    (h : Balanced l s) {cluster arn : String}
    (hother : ∀ t : Task,
        s.tasks[arn]? = some t →
        t.cluster = cluster →
        t.instanceArn.isSome →
        t.desiredStatus = .stopped) :
    (s.stopTask cluster arn).2.instances = s.instances ∧
    (s.stopTask cluster arn).2.reservations = s.reservations := by
  rcases stopTask_cases cluster arn s with
    ⟨e, heq, -⟩ | ⟨t, -, -, -, heq⟩ | ⟨t, ht, hcluster, hactive, heq⟩
  · rw [heq]
    exact ⟨rfl, rfl⟩
  · rw [heq]
    exact ⟨rfl, rfl⟩
  · have hoff : t.instanceArn.isSome = false := by
      rw [← Bool.not_eq_true]
      intro hon
      exact hactive (hother t ht hcluster hon)
    have hnone : s.reservations[arn]? = none := by
      rw [h.reservations, ht]
      simp [Ledger.reservedFor, hoff]
    rw [heq]
    rcases handBack_cases arn t
      { s with tasks := s.tasks.insert arn (stopped t) } with
      ⟨-, heq'⟩ | ⟨a, i, ha, -, -⟩
    · rw [heq']
      exact ⟨rfl, Table.erase_of_getElem?_eq_none hnone⟩
    · rw [ha] at hoff
      exact absurd hoff Bool.noConfusion

end Balanced

/-- Over every run, capacity is neither lost nor made up. -/
theorem capacity_conserved (h : Run l s) : Conserved l s where
  accounts := h.balanced.accounts
  bounded := by
    intro arn i hi
    obtain ⟨added, -, haccount⟩ := h.balanced.accounts arn i hi
    exact ⟨haccount.remainingMemory_le, haccount.remainingCpu_le⟩
  reserved := fun _ _ => h.balanced.reservations_iff
  room := by
    intro arn a t ht ha hactive
    obtain ⟨i, hi⟩ := h.balanced.placed arn a t ht ha
    obtain ⟨-, added, -, haccount⟩ :=
      h.balanced.account_of_placed ht ha hactive hi
        { s with tasks := s.tasks.insert arn (stopped t) } rfl
    exact ⟨i, hi, haccount.room⟩
  firstStop := fun _ _ _ _ ht hcluster ha hactive =>
    h.balanced.firstStop ht hcluster ha hactive
  otherStop := fun _ _ hother => h.balanced.otherStop hother
  lasting := by
    intro now c arn t ht hstopped
    rcases h.balanced.sound.getElem?_tasks_serve ht now c with hsame | hagain
    · exact ⟨t, hsame, hstopped⟩
    · exact ⟨stopped t, hagain, rfl⟩

theorem CountsFit.of_values
    (h : ∀ added ∈ l.added.values,
        added.pendingTasks.toNat + s.tasks.values.length < 2 ^ 32) :
    CountsFit l s := by
  intro arn added hadded
  have hbound := h added (Table.mem_values_iff.mpr ⟨arn, hadded⟩)
  have hsome : (s.tasksOn arn).length ≤ s.tasks.values.length :=
    List.length_filter_le _ _
  omega

/-- An instance with room for one task of `smallRegistration`. -/
def smallInstance : ContainerInstance where
  arn := "ci-1"
  machineId := "i-1"
  status := "ACTIVE"
  runningTasks := 0
  pendingTasks := 0
  registeredCpu := 1024
  registeredMemory := 768
  remainingCpu := 1024
  remainingMemory := 768

/-- A definition with one container. -/
def smallRegistration : Registration where
  family := "a"
  containers :=
    [{ name := "a", image := "alpine", memory := some 512, cpu := 256 }]
  networkMode := .bridge
  compatibilities := [.ec2]
  cpu := none
  memory := none
  taskRole := none
  executionRole := none

/-- Of two starts on one instance the second finds no room left. -/
theorem capacity_conserved_of_repeated_instance :
    ∃ (l : Ledger) (s : Service),
      Run l s ∧ (s.tasksOn "ci-1").length = 1 ∧ Conserved l s := by
  have hadded :=
    Run.start.enlist smallInstance (by decide +kernel) (by decide) (by decide)
  have hregistered := hadded.call 0 (.register smallRegistration)
    (CountsFit.of_values (by decide +kernel))
  have hstarted := hregistered.call 0
    (.startTask ⟨"c", definitionArn "a" 1, ["ci-1", "ci-2", "ci-1"], none⟩)
    (CountsFit.of_values (by decide +kernel))
  exact ⟨_, _, hstarted, by decide +kernel, capacity_conserved hstarted⟩

end Service
end AgentFleet
