import Mathlib.Algebra.BigOperators.Group.List.Basic
import Mathlib.Algebra.GroupWithZero.Nat
import AgentFleet.Service.State

/-!
# Accounts of instances

The account of an instance says what it came with, what it has left and which
demands make up the difference.  It is kept when a demand is reserved, and when
a demand of the account is released.
-/

namespace AgentFleet

theorem toNat_ofNat_of_le
    {n : Nat} {u : UInt32} (h : n ≤ u.toNat) :
    (UInt32.ofNat n).toNat = n :=
  UInt32.toNat_ofNat_of_lt' (Nat.lt_of_le_of_lt h u.toNat_lt)

/-- An instance that came as `added` now carries tasks with the demands `ds`. -/
structure Account (added i : ContainerInstance) (ds : List Demand) : Prop where
  memory :
    i.remainingMemory.toNat + (ds.map Demand.memory).sum =
      added.remainingMemory.toNat
  cpu :
    i.remainingCpu.toNat + (ds.map Demand.cpu).sum = added.remainingCpu.toNat
  pending : i.pendingTasks.toNat = added.pendingTasks.toNat + ds.length
  registeredMemory : i.registeredMemory = added.registeredMemory
  registeredCpu : i.registeredCpu = added.registeredCpu
  memoryRoom : added.remainingMemory.toNat ≤ added.registeredMemory.toNat
  cpuRoom : added.remainingCpu.toNat ≤ added.registeredCpu.toNat

/-- An instance has got back all that a task took, and counts one task less. -/
structure Regains (i i' : ContainerInstance) (d : Demand) : Prop where
  memory : i'.remainingMemory.toNat = i.remainingMemory.toNat + d.memory
  cpu : i'.remainingCpu.toNat = i.remainingCpu.toNat + d.cpu
  pending : i'.pendingTasks.toNat + 1 = i.pendingTasks.toNat

namespace Account

variable {added i : ContainerInstance} {d : Demand} {ds : List Demand}

theorem perm
    (h : Account added i ds) {ds' : List Demand} (hperm : ds'.Perm ds) :
    Account added i ds' where
  memory := by
    rw [(hperm.map Demand.memory).sum_eq]
    exact h.memory
  cpu := by
    rw [(hperm.map Demand.cpu).sum_eq]
    exact h.cpu
  pending := by
    rw [hperm.length_eq]
    exact h.pending
  registeredMemory := h.registeredMemory
  registeredCpu := h.registeredCpu
  memoryRoom := h.memoryRoom
  cpuRoom := h.cpuRoom

theorem reserve
    (h : Account added i ds) (hmemory : d.memory ≤ i.remainingMemory.toNat)
    (hcpu : d.cpu ≤ i.remainingCpu.toNat)
    (hfits : added.pendingTasks.toNat + (ds.length + 1) < 2 ^ 32) :
    Account added (i.reserve d) (d :: ds) where
  memory := by
    have hbefore := h.memory
    rw [ContainerInstance.reserve, toNat_ofNat_of_le (Nat.sub_le _ _),
      List.map_cons, List.sum_cons]
    omega
  cpu := by
    have hbefore := h.cpu
    rw [ContainerInstance.reserve, toNat_ofNat_of_le (Nat.sub_le _ _),
      List.map_cons, List.sum_cons]
    omega
  pending := by
    have hpending := h.pending
    rw [ContainerInstance.reserve, UInt32.toNat_add, List.length_cons,
      UInt32.toNat_one]
    omega
  registeredMemory := h.registeredMemory
  registeredCpu := h.registeredCpu
  memoryRoom := h.memoryRoom
  cpuRoom := h.cpuRoom

theorem remainingMemory_le
    (h : Account added i ds) :
    i.remainingMemory.toNat ≤ i.registeredMemory.toNat := by
  have hmemory := h.memory
  rw [h.registeredMemory]
  exact Nat.le_trans (by omega) h.memoryRoom

theorem remainingCpu_le
    (h : Account added i ds) :
    i.remainingCpu.toNat ≤ i.registeredCpu.toNat := by
  have hcpu := h.cpu
  rw [h.registeredCpu]
  exact Nat.le_trans (by omega) h.cpuRoom

/-- What a task on the instance takes fits back into the instance. -/
theorem room
    (h : Account added i (d :: ds)) :
    0 < i.pendingTasks.toNat ∧
    i.remainingMemory.toNat + d.memory ≤ i.registeredMemory.toNat ∧
    i.remainingCpu.toNat + d.cpu ≤ i.registeredCpu.toNat := by
  have hmemory := h.memory
  have hcpu := h.cpu
  have hpending := h.pending
  rw [List.map_cons, List.sum_cons] at hmemory hcpu
  rw [List.length_cons] at hpending
  rw [h.registeredMemory, h.registeredCpu]
  refine ⟨by omega, ?_, ?_⟩
  · exact Nat.le_trans (by omega) h.memoryRoom
  · exact Nat.le_trans (by omega) h.cpuRoom

/-- Neither bound of a release bites, so all that a task took comes back. -/
theorem regains
    (h : Account added i (d :: ds)) :
    Regains i (i.release (some d)) d := by
  obtain ⟨hpending, hmemory, hcpu⟩ := h.room
  refine ⟨?_, ?_, ?_⟩
  · rw [ContainerInstance.release, Nat.min_eq_left hmemory,
      toNat_ofNat_of_le hmemory]
  · rw [ContainerInstance.release, Nat.min_eq_left hcpu, toNat_ofNat_of_le hcpu]
  · rw [ContainerInstance.release, toNat_ofNat_of_le (Nat.sub_le _ _)]
    exact Nat.sub_add_cancel hpending

theorem release
    (h : Account added i (d :: ds)) :
    Account added (i.release (some d)) ds := by
  obtain ⟨hmemory, hcpu, hpending⟩ := h.regains
  have hmemory' := h.memory
  have hcpu' := h.cpu
  have hpending' := h.pending
  rw [List.map_cons, List.sum_cons] at hmemory' hcpu'
  rw [List.length_cons] at hpending'
  exact ⟨by omega, by omega, by omega, h.registeredMemory, h.registeredCpu,
    h.memoryRoom, h.cpuRoom⟩

end Account

end AgentFleet
