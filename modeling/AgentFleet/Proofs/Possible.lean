import AgentFleet.Proofs.Reachable

/-!
# Possible services

Tasks and definitions may be planted under any names, also under names that the
service has given or will give to records of its own.  What is left of soundness
in all services that come about so is that each record stands under its own
name.
-/

namespace AgentFleet
namespace Service

/-- Each record stands under its own name. -/
structure Keyed (s : Service) : Prop where
  tasks : Table.KeyedBy Task.arn s.tasks
  definitions : Table.KeyedBy TaskDefinition.arn s.definitions
  instances : Table.KeyedBy ContainerInstance.arn s.instances

/-- All services that can come about, whatever is planted from outside. -/
inductive Possible : Service → Prop where
  | empty : Possible {}
  | call {s : Service} (h : Possible s) (now : UInt64) (c : Call) :
      Possible (s.serve now c).2
  | enlist {s : Service} (h : Possible s) (i : ContainerInstance) :
      Possible (s.enlist i)
  | plant {s : Service} (h : Possible s) (t : Task) (d : TaskDefinition) :
      Possible (s.plantTask t d)
  | arrange {s : Service} (h : Possible s) (a : Arrangement) :
      Possible (s.arrange a)

variable {s s' : Service}

theorem Sound.keyed (h : s.Sound) : s.Keyed :=
  ⟨h.tasks, h.definitions, h.instances⟩

namespace Keyed

theorem noted (h : s.Keyed) (cs : List Call) : (s.noted cs).Keyed :=
  ⟨h.tasks, h.definitions, h.instances⟩

theorem handBack
    (h : s.Keyed) (arn : String) (t : Task) :
    (s.handBack arn t).Keyed := by
  rcases handBack_cases arn t s with ⟨-, heq⟩ | ⟨a, i, -, hi, heq⟩
  · rw [heq]
    exact ⟨h.tasks, h.definitions, h.instances⟩
  · rw [heq]
    refine ⟨h.tasks, h.definitions, ?_⟩
    apply h.instances.insert
    rw [ContainerInstance.release_arn, h.instances a i hi]

theorem insertStopped
    (h : s.Keyed) {arn : String} {t : Task} (ht : s.tasks[arn]? = some t) :
    Keyed { s with tasks := s.tasks.insert arn (stopped t) } :=
  ⟨h.tasks.insert (h.tasks arn t ht), h.definitions, h.instances⟩

/-- Whatever a call changes about a record, it does not put it under another
name. -/
theorem changes
    (h : s.Keyed) {now : UInt64} (hchange : Changes now s s') :
    s'.Keyed := by
  cases hchange with
  | mishap m hderegister hdelete => exact ⟨h.tasks, h.definitions, h.instances⟩
  | register r => exact ⟨h.tasks, h.definitions.insert rfl, h.instances⟩
  | @retire arn d hd =>
    have harn : (retired d).arn = arn :=
      (retired_arn d).trans (h.definitions arn d hd)
    exact ⟨h.tasks, h.definitions.insert harn, h.instances⟩
  | forget ds hds =>
    exact ⟨h.tasks, fun arn d hd => h.definitions arn d (hds arn d hd),
      h.instances⟩
  | @start cluster _ arn d i hd hi hmemory hcpu =>
    have harn : (i.reserve d.demand).arn = arn := h.instances arn i hi
    exact ⟨h.tasks.insert
        (nextTask_arn now cluster d (some arn) (some .ec2) none s),
      h.definitions, h.instances.insert harn⟩
  | run cluster launchType provider hd =>
    exact ⟨h.tasks.insert
        (nextTask_arn now cluster _ none launchType provider s), h.definitions,
      h.instances⟩
  | stopAgain ht hstopped => exact h.insertStopped ht
  | stop ht hactive => exact (h.insertStopped ht).handBack _ _

theorem serve
    (h : s.Keyed) (now : UInt64) (c : Call) :
    (s.serve now c).2.Keyed :=
  serve_keeps (P := Keyed) (fun _ _ hchange hs => hs.changes hchange) c
    (h.noted [c])

theorem plantTask
    (h : s.Keyed) (t : Task) (d : TaskDefinition) :
    (s.plantTask t d).Keyed :=
  ⟨h.tasks.insert rfl, h.definitions.insert rfl, h.instances⟩

theorem arrange (h : s.Keyed) (a : Arrangement) : (s.arrange a).Keyed := by
  cases a <;> exact ⟨h.tasks, h.definitions, h.instances⟩

end Keyed

theorem Possible.keyed (h : s.Possible) : s.Keyed := by
  induction h with
  | empty => exact Sound.empty.keyed
  | call _ now c ih => exact ih.serve now c
  | enlist _ i ih => exact ⟨ih.tasks, ih.definitions, ih.instances.insert rfl⟩
  | plant _ t d ih => exact ih.plantTask t d
  | arrange _ a ih => exact ih.arrange a

end Service
end AgentFleet
