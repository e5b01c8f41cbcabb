import AgentFleet.Proofs.Events

/-!
# Life cycles

A history is what events make of an empty service, together with what
registrations and launches have answered with.  No name is ever given twice, not
even once the definition it was given to has gone.  A definition is active, then
inactive and then gone, and the rest of it never changes.  A task is running and
then stopped, and never goes.

The counters behind the names are natural numbers, so none of this is for a
limited number of registrations or launches only.
-/

namespace AgentFleet

/-- A service and what it has answered so far. -/
structure History where
  service : Service := {}
  /-- The definitions that registrations answered with, in order. -/
  registered : List TaskDefinition := []
  /-- The tasks that launches answered with, in order. -/
  launched : List Task := []

namespace History

/-- The history after one more event. -/
def after (h : History) (e : Event) : History where
  service := e.apply h.service
  registered := h.registered ++ e.registered h.service
  launched := h.launched ++ e.launched h.service

/-- The history after more events. -/
def run (h : History) (es : List Event) : History :=
  es.foldl after h

/-! ## Every history -/

open Service Event

/-- What holds of every history. -/
structure Coherent (h : History) : Prop where
  sound : h.service.Sound
  definitionNames : (h.registered.map TaskDefinition.arn).Nodup
  spares : ∀ d ∈ h.registered, h.service.SparesDefinition d.arn
  active : ∀ d ∈ h.registered, d.status = .active
  definitions :
    ∀ d ∈ h.registered, DefinitionStage d h.service.definitions[d.arn]?
  knownDefinitions : ∀ (arn : String) (d : TaskDefinition),
    h.service.definitions[arn]? = some d → ∃ d' ∈ h.registered, d'.arn = arn
  taskNames : (h.launched.map Task.arn).Nodup
  running : ∀ t ∈ h.launched, t.desiredStatus = .running
  tasks : ∀ t ∈ h.launched, TaskStage t h.service.tasks[t.arn]?
  knownTasks : ∀ (arn : String) (t : Task),
    h.service.tasks[arn]? = some t → ∃ t' ∈ h.launched, t'.arn = arn

variable {h : History}

theorem Coherent.empty : Coherent {} where
  sound := .empty
  definitionNames := List.nodup_nil
  spares := by simp
  active := by simp
  definitions := by simp
  knownDefinitions := by simp
  taskNames := List.nodup_nil
  running := by simp
  tasks := by simp
  knownTasks := by simp

namespace Coherent

theorem agesDefinition
    (hc : h.Coherent) (e : Event) {d : TaskDefinition} (hd : d ∈ h.registered) :
    e.AgesDefinition d h.service.definitions[d.arn]?
      (h.after e).service.definitions[d.arn]? :=
  (e.defines h.service).ages (hc.active d hd) (hc.spares d hd)
    (hc.definitions d hd)

theorem agesTask
    (hc : h.Coherent) (e : Event) {t : Task} (ht : t ∈ h.launched) :
    e.AgesTask t h.service.tasks[t.arn]? (h.after e).service.tasks[t.arn]? :=
  (e.tasks hc.sound).ages (hc.tasks t ht)

/-- No definition registered so far has the name of one that is registered next.
-/
theorem registered_ne
    (hc : h.Coherent) {e : Event} {d d' : TaskDefinition}
    (hd : d ∈ h.registered) (hd' : d' ∈ e.registered h.service) :
    d.arn ≠ d'.arn := by
  obtain ⟨now, r, -, -, rfl, -⟩ := (e.defines h.service).of_mem hd'
  exact hc.spares d hd r.family _ (Nat.lt_succ_self _)

theorem launched_ne
    (hc : h.Coherent) {e : Event} {t t' : Task} (ht : t ∈ h.launched)
    (ht' : t' ∈ e.launched h.service) :
    t.arn ≠ t'.arn := by
  intro harn
  obtain ⟨hnew, -⟩ := (e.tasks hc.sound).of_mem ht'
  obtain ⟨t₀, ht₀⟩ := (hc.tasks t ht).exists
  rw [harn, hnew] at ht₀
  cases ht₀

theorem after (hc : h.Coherent) (e : Event) : (h.after e).Coherent where
  sound := e.sound hc.sound
  definitionNames := by
    rw [History.after, List.map_append, List.nodup_append]
    refine ⟨hc.definitionNames, (e.defines h.service).nodup, ?_⟩
    intro j hj k hk
    obtain ⟨d, hd, rfl⟩ := List.mem_map.mp hj
    obtain ⟨d', hd', rfl⟩ := List.mem_map.mp hk
    exact hc.registered_ne hd hd'
  spares := by
    intro d hd
    rcases List.mem_append.mp hd with hold | hnew
    · exact Event.sparesDefinition (hc.spares d hold) e
    · obtain ⟨now, r, rfl, -, rfl, -⟩ := (e.defines h.service).of_mem hnew
      exact sparesDefinition_nextDefinition r (h.service.noted [.register r])
  active := by
    intro d hd
    rcases List.mem_append.mp hd with hold | hnew
    · exact hc.active d hold
    · obtain ⟨now, r, -, -, rfl, -⟩ := (e.defines h.service).of_mem hnew
      rfl
  definitions := by
    intro d hd
    rcases List.mem_append.mp hd with hold | hnew
    · exact (hc.agesDefinition e hold).stage (hc.definitions d hold)
    · obtain ⟨now, r, -, -, -, hstored⟩ := (e.defines h.service).of_mem hnew
      exact Or.inl hstored
  knownDefinitions := by
    intro arn d hd
    rcases (e.defines h.service).known hd with ⟨d', hold⟩ | ⟨d', hnew, harn⟩
    · obtain ⟨d₀, hmem, harn⟩ := hc.knownDefinitions arn d' hold
      exact ⟨d₀, List.mem_append_left _ hmem, harn⟩
    · exact ⟨d', List.mem_append_right _ hnew, harn⟩
  taskNames := by
    rw [History.after, List.map_append, List.nodup_append]
    refine ⟨hc.taskNames, (e.tasks hc.sound).nodup, ?_⟩
    intro j hj k hk
    obtain ⟨t, ht, rfl⟩ := List.mem_map.mp hj
    obtain ⟨t', ht', rfl⟩ := List.mem_map.mp hk
    exact hc.launched_ne ht ht'
  running := by
    intro t ht
    rcases List.mem_append.mp ht with hold | hnew
    · exact hc.running t hold
    · exact (startsFromActive hc.sound hnew).1
  tasks := by
    intro t ht
    rcases List.mem_append.mp ht with hold | hnew
    · exact (hc.agesTask e hold).stage (hc.tasks t hold)
    · exact Or.inl ((e.tasks hc.sound).of_mem hnew).2
  knownTasks := by
    intro arn t ht
    rcases (e.tasks hc.sound).known ht with ⟨t', hold⟩ | ⟨t', hnew, harn⟩
    · obtain ⟨t₀, hmem, harn⟩ := hc.knownTasks arn t' hold
      exact ⟨t₀, List.mem_append_left _ hmem, harn⟩
    · exact ⟨t', List.mem_append_right _ hnew, harn⟩

theorem run (hc : h.Coherent) (es : List Event) : (h.run es).Coherent := by
  induction es generalizing h with
  | nil => exact hc
  | cons e es ih => exact ih (hc.after e)

end Coherent

/-! ## Later on -/

theorem mem_registered_run
    {d : TaskDefinition} (hd : d ∈ h.registered) (es : List Event) :
    d ∈ (h.run es).registered := by
  induction es generalizing h with
  | nil => exact hd
  | cons e es ih => exact ih (List.mem_append_left _ hd)

theorem mem_launched_run
    {t : Task} (ht : t ∈ h.launched) (es : List Event) :
    t ∈ (h.run es).launched := by
  induction es generalizing h with
  | nil => exact ht
  | cons e es ih => exact ih (List.mem_append_left _ ht)

namespace Coherent

theorem definition_run
    (hc : h.Coherent) {d : TaskDefinition} (hd : d ∈ h.registered)
    (es : List Event) :
    (h.run es).service.definitions[d.arn]? = h.service.definitions[d.arn]? ∨
    h.service.definitions[d.arn]? = some d ∨
    (h.run es).service.definitions[d.arn]? = none := by
  induction es generalizing h with
  | nil => exact Or.inl rfl
  | cons e es ih =>
    have hlater := ih (hc.after e) (List.mem_append_left _ hd)
    rcases (hc.agesDefinition e hd).later with hsame | hregistered | hgone
    · rwa [hsame] at hlater
    · exact Or.inr (Or.inl hregistered)
    · refine Or.inr (Or.inr ?_)
      rcases hlater with hsame | hregistered | hgone'
      · exact hsame.trans hgone
      · exact absurd (hgone.symm.trans hregistered) (Option.some_ne_none d).symm
      · exact hgone'

theorem task_run
    (hc : h.Coherent) {t : Task} (ht : t ∈ h.launched) (es : List Event) :
    (h.run es).service.tasks[t.arn]? = h.service.tasks[t.arn]? ∨
    h.service.tasks[t.arn]? = some t := by
  induction es generalizing h with
  | nil => exact Or.inl rfl
  | cons e es ih =>
    rcases (hc.agesTask e ht).later with hsame | hlaunched
    · have hlater := ih (hc.after e) (List.mem_append_left _ ht)
      rwa [hsame] at hlater
    · exact Or.inr hlaunched

/-- What is there was registered, and has at most become inactive since. -/
theorem registered_of_getElem?
    (hc : h.Coherent) {arn : String} {d : TaskDefinition}
    (hd : h.service.definitions[arn]? = some d) :
    ∃ d₀ ∈ h.registered,
      d₀.arn = arn ∧ (d = d₀ ∨ d = { d₀ with status := .inactive }) := by
  obtain ⟨d₀, hmem, rfl⟩ := hc.knownDefinitions arn d hd
  refine ⟨d₀, hmem, rfl, ?_⟩
  rcases hc.definitions d₀ hmem with hsame | hinactive | hgone
  · exact Or.inl (Option.some.inj (hd.symm.trans hsame))
  · exact Or.inr (Option.some.inj (hd.symm.trans hinactive))
  · exact absurd (hd.symm.trans hgone) (Option.some_ne_none d)

theorem launched_of_getElem?
    (hc : h.Coherent) {arn : String} {t : Task}
    (ht : h.service.tasks[arn]? = some t) :
    ∃ t₀ ∈ h.launched, t₀.arn = arn ∧ (t = t₀ ∨ t = stopped t₀) := by
  obtain ⟨t₀, hmem, rfl⟩ := hc.knownTasks arn t ht
  refine ⟨t₀, hmem, rfl, ?_⟩
  rcases hc.tasks t₀ hmem with hsame | hstopped
  · exact Or.inl (Option.some.inj (ht.symm.trans hsame))
  · exact Or.inr (Option.some.inj (ht.symm.trans hstopped))

/-- Later on a definition is the same, or has become inactive, or is gone. -/
theorem definition_later
    (hc : h.Coherent) (es : List Event) {arn : String} {d : TaskDefinition}
    (hd : h.service.definitions[arn]? = some d) :
    (h.run es).service.definitions[arn]? = some d ∨
    (d.status = .active ∧
      (h.run es).service.definitions[arn]? =
        some { d with status := .inactive }) ∨
    (h.run es).service.definitions[arn]? = none := by
  obtain ⟨d₀, hmem, rfl, hcontent⟩ := hc.registered_of_getElem? hd
  rcases hcontent with rfl | rfl
  · rcases (hc.run es).definitions d (mem_registered_run hmem es) with
      hsame | hinactive | hgone
    · exact Or.inl hsame
    · exact Or.inr (Or.inl ⟨hc.active d hmem, hinactive⟩)
    · exact Or.inr (Or.inr hgone)
  · rcases hc.definition_run hmem es with hsame | hregistered | hgone
    · exact Or.inl (hsame.trans hd)
    · have hactive := hc.active d₀ hmem
      rw [← Option.some.inj (hd.symm.trans hregistered)] at hactive
      cases hactive
    · exact Or.inr (Or.inr hgone)

/-- Later on a task is still there, and if it has been stopped it is the same.
-/
theorem task_later
    (hc : h.Coherent) (es : List Event) {arn : String} {t : Task}
    (ht : h.service.tasks[arn]? = some t) :
    ∃ t',
      (h.run es).service.tasks[arn]? = some t' ∧
      (t.desiredStatus = .stopped → t' = t) := by
  obtain ⟨t₀, hmem, rfl, hstate⟩ := hc.launched_of_getElem? ht
  rcases hc.task_run hmem es with hsame | hlaunched
  · exact ⟨t, hsame.trans ht, fun _ => rfl⟩
  · obtain rfl : t = t₀ := Option.some.inj (ht.symm.trans hlaunched)
    obtain ⟨t', ht'⟩ := ((hc.run es).tasks t (mem_launched_run hmem es)).exists
    refine ⟨t', ht', fun hstopped => ?_⟩
    rw [hc.running t hmem] at hstopped
    cases hstopped

end Coherent

/-- Definitions and tasks have names of their own and go through their lives in
order. -/
structure LifeCycles (h : History) : Prop where
  /-- No two registrations have answered with one name. -/
  definitionNames : (h.registered.map TaskDefinition.arn).Nodup
  /-- A registration is always answered, with an active definition that is put
  where none is. -/
  registers :
    ∀ (now : UInt64) (r : Registration),
      ∃ d,
        Event.registered h.service (.call now (.register r)) = [d] ∧
        d.status = .active ∧
        h.service.definitions[d.arn]? = none ∧
        (h.after (.call now (.register r))).service.definitions[d.arn]? = some d
  /-- What is there is what was registered, except perhaps for the status. -/
  definitions :
    ∀ (arn : String) (d : TaskDefinition),
      h.service.definitions[arn]? = some d →
      ∃ d₀ ∈ h.registered,
        d₀.arn = arn ∧ (d = d₀ ∨ d = { d₀ with status := .inactive })
  /-- One event leaves a definition as it is, or makes it inactive, or removes
  it once it is inactive. -/
  definitionStep :
    ∀ (e : Event),
      ∀ d ∈ h.registered,
        e.AgesDefinition d h.service.definitions[d.arn]?
          (h.after e).service.definitions[d.arn]?
  /-- Later on a definition is the same, or has become inactive, or is gone. -/
  definitionLater :
    ∀ (es : List Event) (arn : String) (d : TaskDefinition),
      h.service.definitions[arn]? = some d →
      (h.run es).service.definitions[arn]? = some d ∨
      (d.status = .active ∧
        (h.run es).service.definitions[arn]? =
          some { d with status := .inactive }) ∨
      (h.run es).service.definitions[arn]? = none
  /-- What has gone does not come back. -/
  definitionGone :
    ∀ (es : List Event),
      ∀ d ∈ h.registered,
        h.service.definitions[d.arn]? = none →
        (h.run es).service.definitions[d.arn]? = none
  /-- No two launches have answered with one name. -/
  taskNames : (h.launched.map Task.arn).Nodup
  /-- A task is launched from a definition that is active, and is put where none
  is. -/
  launches :
    ∀ (e : Event),
      ∀ t ∈ e.launched h.service,
        h.service.StartsFromActive t ∧
        h.service.tasks[t.arn]? = none ∧
        (h.after e).service.tasks[t.arn]? = some t
  /-- What is there was launched, and has perhaps been stopped. -/
  tasks : ∀ (arn : String) (t : Task), h.service.tasks[arn]? = some t →
    ∃ t₀ ∈ h.launched, t₀.arn = arn ∧ (t = t₀ ∨ t = stopped t₀)
  /-- One event leaves a task as it is or stops it. -/
  taskStep : ∀ (e : Event), ∀ t ∈ h.launched,
    e.AgesTask t h.service.tasks[t.arn]? (h.after e).service.tasks[t.arn]?
  /-- Later on a task is still there, and if it has been stopped it is the same.
  -/
  taskLater :
    ∀ (es : List Event) (arn : String) (t : Task),
      h.service.tasks[arn]? = some t →
      ∃ t',
        (h.run es).service.tasks[arn]? = some t' ∧
        (t.desiredStatus = .stopped → t' = t)

/-- Every history from an empty service is one of orderly lives. -/
theorem lifeCycles (es : List Event) : (run {} es).LifeCycles := by
  have hc := Coherent.empty.run es
  generalize run {} es = h at hc
  refine ⟨hc.definitionNames, ?_, fun arn d => hc.registered_of_getElem?,
    fun e d => hc.agesDefinition e, fun es arn d => hc.definition_later es, ?_,
    hc.taskNames, ?_, fun arn t => hc.launched_of_getElem?,
    fun e t => hc.agesTask e, fun es arn t => hc.task_later es⟩
  · intro now r
    refine ⟨h.service.nextDefinition r, rfl, rfl,
      hc.sound.getElem?_definitionArn r.family, ?_⟩
    exact Table.getElem?_insert_eq_some_iff.mpr (Or.inl ⟨rfl, rfl⟩)
  · intro es d hd hnone
    rcases hc.definition_run hd es with hsame | hregistered | hgone
    · exact hsame.trans hnone
    · exact absurd (hnone.symm.trans hregistered) (Option.some_ne_none d).symm
    · exact hgone
  · intro e t ht
    exact ⟨startsFromActive hc.sound ht, (e.tasks hc.sound).of_mem ht⟩

end History
end AgentFleet
