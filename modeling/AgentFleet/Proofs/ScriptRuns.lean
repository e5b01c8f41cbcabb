import AgentFleet.Agent.Basic
import AgentFleet.Proofs.Reachable

/-!
# Runs of scripts

What a run preserves is read off the steps of its script: if every step keeps an
invariant, so does the run, and if every step commutes with a change of the
site, so does the run.  At a site whose gateway has no prepared answer every
call reaches the service.
-/

namespace AgentFleet

variable {α β ε ε' : Type}

/-! ## Steps of scripts -/

namespace Script

/-- Every step of the script is of a kind, whatever is answered. -/
def Only (p : Act → Prop) : Script α → Prop
  | .done _ => True
  | .act a next => p a ∧ ∀ answer, (next answer).Only p

variable {p : Act → Prop}

namespace Only

theorem pure (a : α) : Only p (Pure.pure a : Script α) :=
  trivial

theorem perform {a : Act} (ha : p a) : Only p (Script.perform a) :=
  ⟨ha, fun _ => trivial⟩

theorem bind
    {x : Script α} {f : α → Script β} (hx : x.Only p) (hf : ∀ a, (f a).Only p) :
    (x >>= f).Only p := by
  induction x with
  | done a => exact hf a
  | act a next ih => exact ⟨hx.1, fun answer => ih answer (hx.2 answer)⟩

theorem map {x : Script α} (f : α → β) (hx : x.Only p) : (f <$> x).Only p :=
  bind hx fun a => pure (f a)

theorem bindExcept
    {x : ExceptT ε Script α} {f : α → ExceptT ε Script β} (hx : x.run.Only p)
    (hf : ∀ a, (f a).run.Only p) :
    (x >>= f).run.Only p := by
  refine bind hx ?_
  intro result
  cases result with
  | ok a => exact hf a
  | error e => exact pure _

theorem adapt
    {x : ExceptT ε Script α} (f : ε → ε') (hx : x.run.Only p) :
    (x.adapt f).run.Only p :=
  map _ hx

theorem tryCatch
    {x : ExceptT ε Script α} {f : ε → ExceptT ε Script α} (hx : x.run.Only p)
    (hf : ∀ e, (f e).run.Only p) :
    (MonadExcept.tryCatch x f).run.Only p := by
  refine bind hx ?_
  intro result
  cases result with
  | ok a => exact pure _
  | error e => exact hf e

theorem mono
    {q : Act → Prop} (hpq : ∀ a, p a → q a) {x : Script α} (hx : x.Only p) :
    x.Only q := by
  induction x with
  | done a => trivial
  | act a next ih => exact ⟨hpq a hx.1, fun answer => ih answer (hx.2 answer)⟩

end Only

/-! ## What runs keep -/

/-- A run keeps what all of its steps keep. -/
theorem Only.run_keeps
    {x : Script α} (hx : x.Only p) (now : UInt64) {I : Site → Prop}
    (hstep : ∀ a site, p a → I site → I (site.perform now a).2) {site : Site}
    (hsite : I site) :
    I (x.run now site).2 := by
  induction x generalizing site with
  | done a => exact hsite
  | act a next ih => exact ih _ (hx.2 _) (hstep a site hx.1 hsite)

/-- A run commutes with what all of its steps commute with. -/
theorem Only.run_commutes
    {x : Script α} (hx : x.Only p) (now : UInt64) {g : Site → Site}
    (hstep : ∀ a site,
        p a →
        (g site).perform now a =
          ((site.perform now a).1, g (site.perform now a).2)) (site : Site) :
    x.run now (g site) = ((x.run now site).1, g (x.run now site).2) := by
  induction x generalizing site with
  | done a => rfl
  | act a next ih =>
    rw [run, hstep a site hx.1]
    exact ih _ (hx.2 _) _

/-! ## Runs of attempts -/

@[simp]
theorem run_discard
    (now : UInt64) (x : Script α) (site : Site) :
    (discard x).run now site = ((), (x.run now site).2) :=
  run_bind now x (fun _ => pure ()) site

@[simp]
theorem run_map
    (now : UInt64) (f : α → β) (x : Script α) (site : Site) :
    (f <$> x).run now site = (f (x.run now site).1, (x.run now site).2) :=
  run_bind now x _ site

end Script

/-- The instance is one that a pool may bring up. -/
def ContainerInstance.OfPool (i : ContainerInstance) : Prop :=
  ∃ (p : Pool) (s : Settings) (profile : Profile) (n : Nat),
    i = p.nth s profile n

namespace Site

/-! ## Direct sites -/

/-- The service behind the gateway. -/
def service (site : Site) : Service :=
  site.gateway.service

/-- Every call reaches the service. -/
def IsDirect (site : Site) : Prop :=
  site.gateway.prepared = []

/-- The site with another service behind its gateway. -/
def withService (site : Site) (s : Service) : Site :=
  { site with gateway.service := s }

/-- The site with one more line on its console. -/
def told (site : Site) (line : String) : Site :=
  { site with console := site.console ++ [line] }

@[simp]
theorem service_withService
    (site : Site) (s : Service) :
    (site.withService s).service = s :=
  rfl

@[simp]
theorem withService_withService
    (site : Site) (s s' : Service) :
    (site.withService s).withService s' = site.withService s' :=
  rfl

theorem IsDirect.withService
    {site : Site} (h : site.IsDirect) (s : Service) :
    (site.withService s).IsDirect :=
  h

theorem IsDirect.told
    {site : Site} (h : site.IsDirect) (line : String) :
    (site.told line).IsDirect :=
  h

/-- All that has changed at a site is that calls have been written into the
journal. -/
def OnlyNoted (site site' : Site) : Prop :=
  ∃ cs, site' = site.withService (site.service.noted cs)

theorem OnlyNoted.refl (site : Site) : site.OnlyNoted site := by
  refine ⟨[], ?_⟩
  rw [Service.noted, List.append_nil]
  rfl

theorem OnlyNoted.trans
    {site site' site'' : Site} (h : site.OnlyNoted site')
    (h' : site'.OnlyNoted site'') :
    site.OnlyNoted site'' := by
  obtain ⟨cs, rfl⟩ := h
  obtain ⟨cs', rfl⟩ := h'
  refine ⟨cs ++ cs', ?_⟩
  rw [service_withService, Service.noted_noted, withService_withService]

theorem OnlyNoted.isDirect
    {site site' : Site} (h : site.OnlyNoted site') (hdirect : site.IsDirect) :
    site'.IsDirect := by
  obtain ⟨cs, rfl⟩ := h
  exact hdirect.withService _

theorem OnlyNoted.sound
    {site site' : Site} (h : site.OnlyNoted site')
    (hsound : site.service.Sound) :
    site'.service.Sound := by
  obtain ⟨cs, rfl⟩ := h
  exact hsound.noted cs

theorem IsDirect.perform_call
    {site : Site} (h : site.IsDirect) (now : UInt64) (c : Call) :
    site.perform now (.call c) =
      ((site.service.serve now c).1,
        site.withService (site.service.serve now c).2) := by
  have hnone : PreparedAnswer.take c.method site.gateway.prepared = none := by
    rw [h]
    rfl
  rw [perform, Gateway.serve, hnone]
  rfl

/-- No step prepares an answer. -/
theorem IsDirect.perform
    {site : Site} (h : site.IsDirect) (now : UInt64) (a : Act) :
    (site.perform now a).2.IsDirect := by
  cases a with
  | call c =>
    rw [h.perform_call now c]
    exact h.withService _
  | bringUp s profile => exact h
  | say line => exact h.told line

/-- All that bringing up an instance may do to a service is to add one of a
pool. -/
theorem bringUp_keeps
    {P : Service → Prop}
    (henlist : ∀ s i, ContainerInstance.OfPool i → P s → P (s.enlist i))
    {service : Service} (hservice : P service) (s : Settings)
    (profile : Profile) (supply : Supply) :
    P (supply.bringUp s profile service).2.2 := by
  cases supply with
  | promise i => exact hservice
  | outage e => exact hservice
  | pool pool =>
    rw [Supply.bringUp]
    split
    · exact hservice
    · exact henlist _ _ ⟨pool, s, profile, pool.made + 1, rfl⟩ hservice

/-- A step either calls the service, or may add an instance, or leaves the
service alone. -/
theorem IsDirect.perform_keeps
    {site : Site} (h : site.IsDirect) (now : UInt64) {P : Service → Prop}
    (hcall : ∀ s c, P s → P (s.serve now c).2)
    (henlist : ∀ s i, ContainerInstance.OfPool i → P s → P (s.enlist i))
    (a : Act) (hsite : P site.service) :
    P (site.perform now a).2.service := by
  cases a with
  | call c =>
    rw [h.perform_call now c]
    exact hcall _ c hsite
  | say line => exact hsite
  | bringUp s profile => exact bringUp_keeps henlist hsite s profile site.supply

theorem IsDirect.run
    {site : Site} (h : site.IsDirect) (now : UInt64) (x : Script α) :
    (x.run now site).2.IsDirect := by
  induction x generalizing site with
  | done a => exact h
  | act a next ih => exact ih _ (h.perform now a)

/-- What calls keep and new instances of a pool keep, scripts keep. -/
theorem IsDirect.run_keeps
    {site : Site} (h : site.IsDirect) (now : UInt64) {P : Service → Prop}
    (hcall : ∀ s c, P s → P (s.serve now c).2)
    (henlist : ∀ s i, ContainerInstance.OfPool i → P s → P (s.enlist i))
    (hsite : P site.service) (x : Script α) :
    P (x.run now site).2.service := by
  induction x generalizing site with
  | done a => exact hsite
  | act a next ih =>
    exact ih _ (h.perform now a) (h.perform_keeps now hcall henlist a hsite)

theorem IsDirect.run_sound
    {site : Site} (h : site.IsDirect) (hsound : site.service.Sound)
    (now : UInt64) (x : Script α) :
    (x.run now site).2.service.Sound :=
  h.run_keeps now (P := Service.Sound) (fun _ c hs => hs.serve now c)
    (fun _ i _ hs => hs.enlist i) hsound x

end Site

namespace Script

variable {site : Site}

theorem run_lift
    {now : UInt64} {x : Script α} {a : α} {site site' : Site}
    (hx : x.run now site = (a, site')) :
    (liftM x : ExceptT ε Script α).run.run now site = (.ok a, site') := by
  refine (run_map now Except.ok x site).trans ?_
  rw [hx]

@[simp]
theorem run_lift_say
    (now : UInt64) (line : String) (site : Site) :
    (liftM (say line) : ExceptT ε Script Unit).run.run now site =
      (.ok (), site.told line) :=
  rfl

@[simp]
theorem run_pureExcept
    (now : UInt64) (a : α) (site : Site) :
    (pure a : ExceptT ε Script α).run.run now site = (.ok a, site) :=
  rfl

@[simp]
theorem run_throw
    (now : UInt64) (e : ε) (site : Site) :
    (throw e : ExceptT ε Script α).run.run now site = (.error e, site) :=
  rfl

@[simp]
theorem run_adapt
    (now : UInt64) (f : ε → ε') (x : ExceptT ε Script α) (site : Site) :
    (x.adapt f).run.run now site =
      ((x.run.run now site).1.mapError f, (x.run.run now site).2) :=
  run_map now (Except.mapError f) x.run site

theorem run_adapt_eq_ok_iff
    {now : UInt64} {x : ExceptT ε Script α} {f : ε → ε'} {site site' : Site}
    {a : α} :
    (x.adapt f).run.run now site = (.ok a, site') ↔
      x.run.run now site = (.ok a, site') := by
  rw [run_adapt]
  rcases x.run.run now site with ⟨result, site''⟩
  cases result with
  | ok a' =>
    change (Except.ok a', site'') = (Except.ok a, site') ↔ _
    simp
  | error e =>
    change (Except.error (f e), site'') = (Except.ok a, site') ↔ _
    simp

/-- What goes on after a result goes on from where the result was reached. -/
theorem run_bind_of_ok
    {now : UInt64} {x : ExceptT ε Script α} {site site' : Site} {a : α}
    (hx : x.run.run now site = (.ok a, site')) (f : α → ExceptT ε Script β) :
    (x >>= f).run.run now site = (f a).run.run now site' := by
  refine (run_bind now x.run _ site).trans ?_
  rw [hx]
  rfl

/-- An error is the end of an attempt. -/
theorem run_bind_of_error
    {now : UInt64} {x : ExceptT ε Script α} {site site' : Site} {e : ε}
    (hx : x.run.run now site = (.error e, site')) (f : α → ExceptT ε Script β) :
    (x >>= f).run.run now site = (.error e, site') := by
  refine (run_bind now x.run _ site).trans ?_
  rw [hx]
  rfl

theorem run_tryCatch_of_ok
    {now : UInt64} {x : ExceptT ε Script α} {site site' : Site} {a : α}
    (hx : x.run.run now site = (.ok a, site')) (f : ε → ExceptT ε Script α) :
    (tryCatch x f).run.run now site = (.ok a, site') := by
  refine (run_bind now x.run _ site).trans ?_
  rw [hx]
  rfl

theorem run_tryCatch_of_error
    {now : UInt64} {x : ExceptT ε Script α} {site site' : Site} {e : ε}
    (hx : x.run.run now site = (.error e, site')) (f : ε → ExceptT ε Script α) :
    (tryCatch x f).run.run now site = (f e).run.run now site' := by
  refine (run_bind now x.run _ site).trans ?_
  rw [hx]
  rfl

/-- A result of two attempts in a row is a result of the second one after a
result of the first. -/
theorem exists_of_run_bind
    {now : UInt64} {x : ExceptT ε Script α} {f : α → ExceptT ε Script β}
    {site site'' : Site} {b : β}
    (h : (x >>= f).run.run now site = (.ok b, site'')) :
    ∃ a site',
      x.run.run now site = (.ok a, site') ∧
      (f a).run.run now site' = (.ok b, site'') := by
  rcases hx : x.run.run now site with ⟨result, site'⟩
  cases result with
  | ok a =>
    rw [run_bind_of_ok hx] at h
    exact ⟨a, site', rfl, h⟩
  | error e =>
    rw [run_bind_of_error hx] at h
    cases h

theorem run_pure_eq_ok_iff
    {now : UInt64} {a b : α} {site site' : Site} :
    (pure a : ExceptT ε Script α).run.run now site = (.ok b, site') ↔
      a = b ∧ site = site' := by
  simp

theorem run_call
    (h : site.IsDirect) (now : UInt64) (c : Call) :
    (call c).run.run now site =
      ((site.service.serve now c).1,
        site.withService (site.service.serve now c).2) :=
  h.perform_call now c

/-! ## Reading calls -/

theorem run_listInstances
    (h : site.IsDirect) (now : UInt64) (cluster : String) :
    ∃ site',
      (call (.listInstances cluster)).run.run now site =
        (.ok site.service.instances.keys, site') ∧
      site.OnlyNoted site' :=
  ⟨_, run_call h now _, _, rfl⟩

theorem run_describeInstances
    (h : site.IsDirect) (now : UInt64) (cluster : String) (arns : List String) :
    ∃ site',
      (call (.describeInstances cluster arns)).run.run now site =
        (.ok (arns.filterMap (site.service.instances[·]?)), site') ∧
      site.OnlyNoted site' :=
  ⟨_, run_call h now _, _, rfl⟩

theorem run_listTasks
    (h : site.IsDirect) (now : UInt64) (q : TaskQuery) :
    ∃ site',
      (call (.listTasks q)).run.run now site =
        (.ok (site.service.listTasks q), site') ∧
      site.OnlyNoted site' :=
  ⟨_, run_call h now _, _, rfl⟩

theorem run_describeTasks
    (h : site.IsDirect) (now : UInt64) (cluster : String) (arns : List String) :
    ∃ site',
      (call (.describeTasks cluster arns)).run.run now site =
        (.ok (site.service.describeTasks cluster arns), site') ∧
      site.OnlyNoted site' :=
  ⟨_, run_call h now _, _, rfl⟩

theorem run_describeDefinition
    (h : site.IsDirect) (now : UInt64) (arn : String) :
    ∃ site',
      (call (.describeDefinition arn)).run.run now site =
        (site.service.describeDefinition arn, site') ∧
      site.OnlyNoted site' :=
  ⟨_, run_call h now _, _, rfl⟩

end Script
end AgentFleet
