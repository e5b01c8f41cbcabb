import AgentFleet.Proofs.Holdings

/-!
# Courses of calls

What a call may do next depends on what it has been given so far: it registers a
definition while it has nothing, launches the definition or takes it back, and
ends with an agent or with nothing.  A creation keeps to this course whatever it
is answered on the way, and so does the removal of an agent that it answered
with.
-/

namespace AgentFleet

namespace Holding

/-- The holding once a launch has been answered. -/
def afterLaunch (h : Holding) : Except Refusal LaunchOutcome → Holding
  | .ok ⟨t :: _, []⟩ => h.launch t
  | _ => h

/-- The holding once a stop has been answered. -/
def afterStop (h : Holding) : Except Refusal Task → Holding
  | .ok _ => h.halt
  | .error _ => h

/-- The holding once a step has been answered. -/
def after (h : Holding) : (a : Act) → a.Answer → Holding
  | .call (.register _), .ok d => { h with definition := some d }
  | .call (.startTask _), answer => h.afterLaunch answer
  | .call (.runTask _), answer => h.afterLaunch answer
  | .call (.stopTask _ _ _), answer => h.afterStop answer
  | .call (.deregister _), _ => h.retire
  | .call (.delete _), _ => h.forget
  | _, _ => h

/-- The steps that a creation may take. -/
inductive Allows (cluster : String) : Holding → Act → Prop where
  | search {h : Holding} {a : Act} (ha : a.Searches) : Allows cluster h a
  | register (r : Registration) : Allows cluster {} (.call (.register r))
  | start {d : TaskDefinition} {r : StartTask} {arn : String}
      (hcluster : r.cluster = cluster) (hdefinition : r.definition = d.arn)
      (hinstances : r.instances = [arn]) :
      Allows cluster { definition := some d } (.call (.startTask r))
  | run {d : TaskDefinition} {r : RunTask} (hcluster : r.cluster = cluster)
      (hdefinition : r.definition = d.arn) :
      Allows cluster { definition := some d } (.call (.runTask r))
  | deregister (d : TaskDefinition) :
      Allows cluster { definition := some d } (.call (.deregister d.arn))
  | delete {d : TaskDefinition} (hinactive : d.status ≠ .active) :
      Allows cluster { definition := some d } (.call (.delete [d.arn]))

theorem after_of_searches
    {h : Holding} {a : Act} (ha : a.Searches) (answer : a.Answer) :
    h.after a answer = h := by
  cases a with
  | call c =>
    cases c with
    | listInstances cluster => rfl
    | describeInstances cluster arns => rfl
    | _ => exact ha.elim
  | bringUp s profile => rfl
  | say line => rfl

end Holding

/-! ## Scripts that keep to a course -/

namespace Script

variable {α β ε : Type} {cluster : String}

/-- Whatever it is answered, the script takes only steps that its holding
allows, and it ends with a result and a holding that go together. -/
def Leads
    (cluster : String) (Q : α → Holding → Prop) : Script α → Holding → Prop
  | .done result, h => Q result h
  | .act a next, h =>
    h.Allows cluster a ∧
    ∀ answer, (next answer).Leads cluster Q (h.after a answer)

namespace Leads

variable {R : α → Holding → Prop} {Q : β → Holding → Prop} {h : Holding}

theorem bind
    {x : Script α} {f : α → Script β} (hx : x.Leads cluster R h)
    (hf : ∀ a h', R a h' → (f a).Leads cluster Q h') :
    (x >>= f).Leads cluster Q h := by
  induction x generalizing h with
  | done a => exact hf a h hx
  | act a next ih => exact ⟨hx.1, fun answer => ih answer (hx.2 answer)⟩

theorem of_searches
    {x : Script α} (hx : x.Only Act.Searches) (hR : ∀ a, R a h) :
    x.Leads cluster R h := by
  induction x with
  | done a => exact hR a
  | act a next ih =>
    refine ⟨.search hx.1, ?_⟩
    intro answer
    rw [Holding.after_of_searches hx.1]
    exact ih answer (hx.2 answer)

theorem perform
    {a : Act} (ha : h.Allows cluster a) :
    (Script.perform a).Leads cluster (fun answer h' => h' = h.after a answer)
      h :=
  ⟨ha, fun _ => rfl⟩

/-- What goes on after a result goes on with what is held by then, and an error
is the end. -/
theorem bindExcept
    {R : Except ε α → Holding → Prop} {Q : Except ε β → Holding → Prop}
    {x : ExceptT ε Script α} {f : α → ExceptT ε Script β}
    (hx : x.run.Leads cluster R h)
    (hok : ∀ a h', R (.ok a) h' → (f a).run.Leads cluster Q h')
    (herror : ∀ e h', R (.error e) h' → Q (.error e) h') :
    (x >>= f).run.Leads cluster Q h := by
  refine bind hx ?_
  intro result h' hresult
  cases result with
  | ok a => exact hok a h' hresult
  | error e => exact herror e h' hresult

/-- Telling the console comes before the rest. -/
theorem afterSay
    {Q : Except ε β → Holding → Prop} {line : String}
    {f : Unit → ExceptT ε Script β} (hf : (f ()).run.Leads cluster Q h) :
    (liftM (say line) >>= f : ExceptT ε Script β).run.Leads cluster Q h :=
  ⟨.search trivial, fun _ => hf⟩

end Leads
end Script

/-! ## Creations -/

/-- A creation has ended with an agent, whose definition and task it holds, or
with nothing. -/
def Settled : Except Agent.Error (Option Agent) → Holding → Prop
  | .ok (some a), h =>
    ∃ d t o target,
      h = ({ definition := some d } : Holding).launch t ∧
      a = Agent.ofTask t d o target
  | _, h => h = {}

open Script

theorem removeDefinition_leads
    (cluster : String) (d : TaskDefinition) :
    (removeDefinition d.arn).Leads cluster (fun _ h => h = {})
      { definition := some d } := by
  refine ⟨.deregister d, ?_⟩
  intro answer
  have hinactive : (Service.retired d).status ≠ .active :=
    Service.retired_status_ne d
  have hdelete := @Holding.Allows.delete cluster _ hinactive
  rw [Service.retired_arn] at hdelete
  exact ⟨hdelete, fun _ => rfl⟩

/-- A launch that is tried again starts out as the first one did, with what is
held unchanged. -/
theorem launchAt_leads
    (s : Settings) (d : TaskDefinition) (placement : Placement) :
    (launchAt s d.arn placement).run.Leads s.clusterName
      (fun answer h =>
          h = ({ definition := some d } : Holding).afterLaunch answer)
      { definition := some d } := by
  cases placement with
  | onHost host =>
    apply Leads.afterSay
    exact Leads.perform (.start rfl rfl rfl)
  | serverless network share =>
    apply Leads.afterSay
    refine Leads.bind (Leads.perform (.run rfl rfl)) ?_
    rintro answer h rfl
    cases answer with
    | ok o => exact rfl
    | error e =>
      by_cases hinvalid : e.isInvalidParameter = true
      · simp only [if_pos hinvalid]
        exact Leads.perform (.run rfl rfl)
      · simp only [if_neg hinvalid]
        exact rfl

/-- A definition is removed before an attempt ends in an error. -/
theorem removeDefinition_settles
    (cluster : String) (d : TaskDefinition) (e : Agent.Error) :
    (liftM (removeDefinition d.arn) >>=
          fun _ => throw e : Attempt Agent).run.Leads cluster
      (fun result h => Settled (result.map some) h)
      { definition := some d } := by
  have hremove :
      (liftM (removeDefinition d.arn) : Attempt Unit).run.Leads cluster
        (fun _ h => h = {}) { definition := some d } := by
    refine Leads.bind (removeDefinition_leads cluster d) ?_
    rintro _ h rfl
    exact rfl
  apply Leads.bindExcept hremove
  · rintro _ h rfl
    exact rfl
  · rintro _ h rfl
    exact rfl

/-- Only an answer with a task and without failures is a start; all others are
undone. -/
theorem launch_leads
    (fresh : Identity) (server : String) (s : Settings) (r : AgentRequest)
    (spec : Specification) (placement : Placement) :
    (launch fresh server s r spec placement).run.Leads s.clusterName
      (fun result h => Settled (result.map some) h) {} := by
  have hregister : (registerSpecification spec).run.Leads s.clusterName
      (fun result h => h = { definition := result.toOption }) {} := by
    refine Leads.bind (Leads.perform (.register spec.registration)) ?_
    rintro answer h rfl
    cases answer with
    | ok d => exact rfl
    | error e => exact rfl
  apply Leads.afterSay
  apply Leads.bindExcept hregister
  · rintro d h rfl
    apply Leads.afterSay
    have hlaunch :
        (liftM (launchAt s d.arn placement).run : Attempt _).run.Leads
          s.clusterName
          (fun result h =>
              ∃ answer,
                result = .ok answer ∧
                h = ({ definition := some d } : Holding).afterLaunch answer)
        { definition := some d } := by
      refine Leads.bind (launchAt_leads s d placement) ?_
      intro answer h hh
      exact ⟨answer, rfl, hh⟩
    apply Leads.bindExcept hlaunch
    · rintro answer h ⟨answer', hanswer, rfl⟩
      obtain rfl : answer = answer' := Except.ok.inj hanswer
      rcases answer with e | ⟨_ | ⟨t, rest⟩, _ | ⟨f, fs⟩⟩
      · exact removeDefinition_settles s.clusterName d _
      · exact removeDefinition_settles s.clusterName d _
      · exact removeDefinition_settles s.clusterName d _
      · apply Leads.afterSay
        exact ⟨d, t, _, _, rfl, rfl⟩
      · exact removeDefinition_settles s.clusterName d _
    · rintro e h ⟨answer, herror, -⟩
      cases herror
  · rintro e h rfl
    exact rfl

/-- A creation keeps to its course. -/
theorem createAgent_leads
    (fresh : Identity) (server : String) (s : Settings) (r : AgentRequest) :
    (createAgent fresh server s r).run.Leads s.clusterName Settled {} := by
  rw [createAgent_eq]
  have hchoose : (choosePlacement fresh server s r).run.Leads s.clusterName
      (fun _ h => h = {}) {} :=
    Leads.of_searches (choosePlacement_only fresh server s r) fun _ => rfl
  apply Leads.bindExcept hchoose
  · rintro choice h rfl
    rcases choice with _ | ⟨spec, placement⟩
    · exact rfl
    · apply Leads.bindExcept (launch_leads fresh server s r spec placement)
      · intro a h ha
        exact ha
      · intro e h he
        exact he
  · rintro e h rfl
    exact rfl

/-! ## Removals of agents -/

namespace Holding

/-- The task has been stopped, if it is in the cluster. -/
def IsHaltedIn (cluster : String) (h : Holding) : Prop :=
  ∀ t : Task, h.task = some t → t.cluster = cluster → t.desiredStatus = .stopped

/-- The definition has been deregistered, if it is still there. -/
def IsRetired (h : Holding) : Prop :=
  ∀ d : TaskDefinition, h.definition = some d → d.status ≠ .active

/-- How far the removal of an agent that is asked to stop in a cluster has come,
by what is left of its script. -/
inductive Follows
    (cluster : String) (a : Agent) (h : Holding) : Script Unit → Prop where
  | begun (s : Settings) (hcluster : s.clusterName = cluster) :
      Follows cluster a h (stopAgent s a)
  | halted (hhalted : h.IsHaltedIn cluster) :
      Follows cluster a h (removeDefinition a.definitionArn)
  | retired (hhalted : h.IsHaltedIn cluster) (hretired : h.IsRetired) :
      Follows cluster a h
        (discard (Script.call (.delete [a.definitionArn])).run)
  | removed (hhalted : h.IsHaltedIn cluster) (hnone : h.definition = none) :
      Follows cluster a h (.done ())

theorem isHaltedIn_halt
    (cluster : String) (h : Holding) :
    h.halt.IsHaltedIn cluster := by
  intro t ht _
  obtain ⟨t', -, rfl⟩ := Option.map_eq_some_iff.mp ht
  rfl

theorem IsHaltedIn.afterStop
    {cluster : String} {h : Holding} (hhalted : h.IsHaltedIn cluster)
    (answer : Except Refusal Task) :
    (h.afterStop answer).IsHaltedIn cluster := by
  cases answer with
  | ok t => exact isHaltedIn_halt cluster h
  | error e => exact hhalted

theorem afterStop_definition
    (h : Holding) (answer : Except Refusal Task) :
    (h.afterStop answer).definition = h.definition := by
  cases answer <;> rfl

theorem isRetired_retire (h : Holding) : h.retire.IsRetired := by
  intro d hd
  obtain ⟨d', -, rfl⟩ := Option.map_eq_some_iff.mp hd
  exact Service.retired_status_ne d'

variable {cluster : String} {a : Agent} {h h' : Holding} {script : Script Unit}

/-- What is done for another removal of the agent takes nothing back. -/
theorem Follows.mono
    (hfollows : h.Follows cluster a script)
    (hhalted : h.IsHaltedIn cluster → h'.IsHaltedIn cluster)
    (hretired : h.IsRetired → h'.IsRetired)
    (hnone : h.definition = none → h'.definition = none) :
    h'.Follows cluster a script := by
  cases hfollows with
  | begun s hcluster => exact .begun s hcluster
  | halted hh => exact .halted (hhalted hh)
  | retired hh hr => exact .retired (hhalted hh) (hretired hr)
  | removed hh hn => exact .removed (hhalted hh) (hnone hn)

end Holding

end AgentFleet
