import AgentFleet.Instance.Supply
import AgentFleet.Service.State

/-!
# Scripts

What the library does for a server is written as a script: a tree with one node
for each thing that another party can see or answer.  Between two nodes nothing
happens, so the scripts of several requests may be interleaved at their nodes,
and a script by itself is run by answering one node after the other.
-/

namespace AgentFleet

/-- A step of a script. -/
inductive Act where
  /-- Call the service. -/
  | call (c : Call)
  /-- Bring up an instance. -/
  | bringUp (s : Settings) (profile : Profile)
  /-- Tell the console of the job. -/
  | say (line : String)

/-- The answer to a step. -/
abbrev Act.Answer : Act → Type
  | .call c => c.Answer
  | .bringUp _ _ => Except Host.Error ContainerInstance
  | .say _ => Unit

/-- A script with a result. -/
inductive Script (α : Type) where
  | done (result : α)
  | act (a : Act) (next : a.Answer → Script α)

namespace Script

/-- Go on with the result of a script. -/
def bind : Script α → (α → Script β) → Script β
  | .done a, f => f a
  | .act a next, f => .act a fun answer => (next answer).bind f

instance : Monad Script where
  pure := .done
  bind := bind

theorem bind_done (x : Script α) : x.bind .done = x := by
  induction x with
  | done a => rfl
  | act a next ih => simp only [bind, ih]

theorem bind_assoc
    (x : Script α) (f : α → Script β) (g : β → Script γ) :
    (x.bind f).bind g = x.bind fun a => (f a).bind g := by
  induction x with
  | done a => rfl
  | act a next ih => simp only [bind, ih]

instance : LawfulMonad Script :=
  LawfulMonad.mk' Script (fun x => bind_done x) (fun _ _ => rfl) fun x f g =>
    bind_assoc x f g

/-- A single step. -/
def perform (a : Act) : Script a.Answer :=
  .act a .done

/-- Tell the console. -/
def say (line : String) : Script Unit :=
  perform (.say line)

/-- Bring up an instance. -/
def bringUp
    (s : Settings) (profile : Profile) :
    ExceptT Host.Error Script ContainerInstance :=
  perform (.bringUp s profile)

/-- Call the service. -/
def call (c : Call) : ExceptT Refusal Script c.method.Value :=
  perform (.call c)

end Script

/-- Everything a script acts on. -/
structure Site where
  gateway : Gateway := {}
  supply : Supply := .pool {}
  /-- The lines told to the console, in order. -/
  console : List String := []

namespace Site

/-- Carry out a step at a given time. -/
def perform (now : UInt64) : (a : Act) → Site → a.Answer × Site
  | .call c, site =>
    let (answer, gateway) := site.gateway.serve now c
    (answer, { site with gateway })
  | .bringUp s profile, site =>
    let (answer, supply, service) :=
      site.supply.bringUp s profile site.gateway.service
    (answer, { site with
      supply
      gateway.service := service
      console := site.console ++ site.supply.announcements s profile })
  | .say line, site => ((), { site with console := site.console ++ [line] })

end Site

namespace Script

/-- Run a script by itself at a given time. -/
def run (now : UInt64) : Script α → Site → α × Site
  | .done a, site => (a, site)
  | .act a next, site =>
    let (answer, site) := site.perform now a
    (next answer).run now site

@[simp]
theorem run_pure
    (now : UInt64) (a : α) (site : Site) :
    (pure a : Script α).run now site = (a, site) :=
  rfl

@[simp]
theorem run_bind
    (now : UInt64) (x : Script α) (f : α → Script β) (site : Site) :
    (x >>= f).run now site =
      (f (x.run now site).1).run now (x.run now site).2 := by
  induction x generalizing site with
  | done a => rfl
  | act a next ih => exact ih _ _

end Script
end AgentFleet
