import AgentFleet.Proofs.Conservation

/-!
# Refused calls

This module says what a refused call leaves of a service.  A refusal that was
arranged is used up, and apart from that a refused call changes nothing but the
journal, unless it was to delete definitions.  These go one by one, in the order
in which they are named, and an active definition ends the call when the ones
before it have already gone.
-/

namespace AgentFleet

/-! ## Arranged refusals -/

namespace Mishaps

/-- The refusal that has been arranged for the next call of a kind. -/
def refusal? (m : Mishaps) : Method → Option Refusal
  | .startTask => m.startTask
  | .runTask => m.runTask
  | .deregister => m.deregister
  | .delete => m.delete
  | _ => none

/-- What remains arranged once the refusal for a kind of call is used up. -/
def spend (m : Mishaps) : Method → Mishaps
  | .startTask => { m with startTask := none }
  | .runTask => { m with runTask := none }
  | .deregister => { m with deregister := none }
  | .delete => { m with delete := none }
  | _ => m

end Mishaps

namespace Table

variable {β : Type}

/-- The table without the records of the given names. -/
def eraseEach
    (ks : List String) (m : Std.ExtTreeMap String β) :
    Std.ExtTreeMap String β :=
  ks.foldl (fun m k => m.erase k) m

theorem eraseEach_cons_of_none
    {m : Std.ExtTreeMap String β} {k : String} (h : m[k]? = none)
    (ks : List String) :
    eraseEach (k :: ks) m = eraseEach ks m := by
  rw [eraseEach, List.foldl_cons, erase_of_getElem?_eq_none h, eraseEach]

end Table

namespace Service

/-! ## Deleting definitions -/

/-- An active definition stands under the name. -/
def ActiveAt
    (ds : Std.ExtTreeMap String TaskDefinition) (arn : String) : Prop :=
  ∃ d, ds[arn]? = some d ∧ d.status = .active

/-- The refusal to delete an active definition. -/
def stillActive (arn : String) : Refusal :=
  .invalidParameter
    ("task definition " ++ arn ++ " must be deregistered before deletion")

variable {ds : Std.ExtTreeMap String TaskDefinition} {a arn : String}
  {s : Service} {now : UInt64} {c : Call} {e : Refusal}

theorem activeAt_erase_iff :
    ActiveAt (ds.erase a) arn ↔ a ≠ arn ∧ ActiveAt ds arn := by
  simp only [ActiveAt, Table.getElem?_erase_eq_some_iff, and_assoc,
    exists_and_left]

theorem not_activeAt_of_status
    {d : TaskDefinition} (hd : ds[a]? = some d) (hstatus : d.status ≠ .active) :
    ¬ActiveAt ds a := by
  rintro ⟨d', hd', hactive⟩
  obtain rfl : d = d' := Option.some.inj (hd.symm.trans hd')
  exact hstatus hactive

theorem not_activeAt_of_none (hnone : ds[a]? = none) : ¬ActiveAt ds a := by
  rintro ⟨d, hd, -⟩
  exact absurd (hnone.symm.trans hd) (Option.some_ne_none d).symm

/-- Either no name is that of an active definition, and all of them are removed,
or those before the first such name are. -/
theorem removeDefinitions_cases
    (arns : List String) (ds : Std.ExtTreeMap String TaskDefinition) :
    ((∀ a ∈ arns, ¬ActiveAt ds a) ∧
      removeDefinitions arns ds = (.ok (), Table.eraseEach arns ds)) ∨
    (∃ before arn rest,
        arns = before ++ arn :: rest ∧
        (∀ a ∈ before, ¬ActiveAt ds a) ∧
        ActiveAt ds arn ∧
        removeDefinitions arns ds =
          (.error (stillActive arn), Table.eraseEach before ds)) := by
  fun_induction removeDefinitions arns ds with
  | case1 ds => exact Or.inl ⟨by simp, rfl⟩
  | case2 a rest ds hnone ih =>
    have ha := not_activeAt_of_none hnone
    rcases ih with ⟨hrest, heq⟩ | ⟨before, arn, back, rfl, hbefore, harn, heq⟩
    · refine Or.inl ⟨List.forall_mem_cons.mpr ⟨ha, hrest⟩, ?_⟩
      rw [heq, Table.eraseEach_cons_of_none hnone]
    · refine Or.inr
        ⟨a :: before, arn, back, rfl, List.forall_mem_cons.mpr ⟨ha, hbefore⟩,
          harn, ?_⟩
      rw [heq, Table.eraseEach_cons_of_none hnone]
  | case3 a rest ds d hsome hactive =>
    exact Or.inr ⟨[], a, rest, rfl, by simp, ⟨d, hsome, hactive⟩, rfl⟩
  | case4 a rest ds d hsome hinactive ih =>
    have ha := not_activeAt_of_status hsome hinactive
    have hback : ∀ b, ¬ActiveAt (ds.erase a) b → ¬ActiveAt ds b := by
      intro b hb hactive
      refine hb (activeAt_erase_iff.mpr ⟨?_, hactive⟩)
      rintro rfl
      exact ha hactive
    rcases ih with ⟨hrest, heq⟩ | ⟨before, arn, back, rfl, hbefore, harn, heq⟩
    · exact Or.inl
        ⟨List.forall_mem_cons.mpr ⟨ha, fun b hb => hback b (hrest b hb)⟩, heq⟩
    · exact Or.inr ⟨a :: before, arn, back, rfl,
        List.forall_mem_cons.mpr ⟨ha, fun b hb => hback b (hbefore b hb)⟩,
        (activeAt_erase_iff.mp harn).2, heq⟩

/-! ## Refused calls -/

/-- What a refused call leaves of a service. -/
inductive LeftBy (s : Service) : Call → Refusal → Service → Prop where
  /-- The refusal was arranged, and is used up. -/
  | arranged (c : Call) {e : Refusal}
      (he : s.mishaps.refusal? c.method = some e) :
      LeftBy s c e { s.noted [c] with mishaps := s.mishaps.spend c.method }
  /-- Nothing has changed but the journal. -/
  | untouched {c : Call} (e : Refusal)
      (hfree : s.mishaps.refusal? c.method = none)
      (hkind : c.method ≠ .delete) : LeftBy s c e (s.noted [c])
  /-- The definitions named before the first active one are gone. -/
  | cutShort {before : List String} {arn : String} (rest : List String)
      (hfree : s.mishaps.delete = none)
      (hbefore : ∀ a ∈ before, ¬ActiveAt s.definitions a)
      (harn : ActiveAt s.definitions arn) :
      LeftBy s (.delete (before ++ arn :: rest)) (stillActive arn)
        { s.noted [.delete (before ++ arn :: rest)] with
          definitions := Table.eraseEach before s.definitions }

/-- A refusal that was arranged is handed out, and then it is used up. -/
theorem serve_of_refusal?
    (he : s.mishaps.refusal? c.method = some e) :
    s.serve now c =
      (.error e, { s.noted [c] with mishaps := s.mishaps.spend c.method }) := by
  cases c with
  | deregister arn =>
    have he' : (s.noted [.deregister arn]).mishaps.deregister = some e := he
    change (s.noted [.deregister arn]).deregister arn = _
    rw [deregister, he']
    rfl
  | delete arns =>
    have he' : (s.noted [.delete arns]).mishaps.delete = some e := he
    change (s.noted [.delete arns]).delete arns = _
    rw [delete, he']
    rfl
  | startTask r =>
    have he' : (s.noted [.startTask r]).mishaps.startTask = some e := he
    change (s.noted [.startTask r]).startTask now r = _
    rw [startTask, he']
    rfl
  | runTask r =>
    have he' : (s.noted [.runTask r]).mishaps.runTask = some e := he
    change (s.noted [.runTask r]).runTask now r = _
    rw [runTask, he']
    rfl
  | _ => cases he

/-- A deletion that is refused although no refusal was arranged has met an
active definition. -/
theorem leftBy_delete
    {arns : List String} (hfree : s.mishaps.delete = none)
    (h : (s.serve now (.delete arns)).1 = .error e) :
    LeftBy s (.delete arns) e (s.serve now (.delete arns)).2 := by
  change ((s.noted [.delete arns]).delete arns).1 = _ at h
  change LeftBy s _ e ((s.noted [.delete arns]).delete arns).2
  rcases delete_cases arns (s.noted [.delete arns]) with ⟨e', he', -⟩ | ⟨-, heq⟩
  · exact absurd (hfree.symm.trans he') (Option.some_ne_none e').symm
  · have hsame : (s.noted [.delete arns]).definitions = s.definitions := rfl
    rw [heq, hsame] at h ⊢
    rcases removeDefinitions_cases arns s.definitions with
      ⟨-, hremoved⟩ | ⟨before, arn, rest, rfl, hbefore, harn, hremoved⟩
    · rw [hremoved] at h
      cases h
    · rw [hremoved] at h ⊢
      obtain rfl : stillActive arn = e := Except.error.inj h
      exact .cutShort rest hfree hbefore harn

/-- A call of another kind that is refused although no refusal was arranged
changes nothing. -/
theorem serve_of_free
    (hfree : s.mishaps.refusal? c.method = none) (hkind : c.method ≠ .delete)
    (h : (s.serve now c).1 = .error e) :
    (s.serve now c).2 = s.noted [c] := by
  cases c with
  | deregister arn =>
    change ((s.noted [.deregister arn]).deregister arn).1 = _ at h
    change ((s.noted [.deregister arn]).deregister arn).2 = _
    rcases deregister_cases arn (s.noted [.deregister arn]) with
      ⟨e', he', -⟩ | ⟨-, -, heq⟩ | ⟨d, -, -, heq⟩
    · exact absurd (hfree.symm.trans he') (Option.some_ne_none e').symm
    · rw [heq]
    · rw [heq] at h
      cases h
  | delete arns => exact absurd rfl hkind
  | startTask r =>
    change ((s.noted [.startTask r]).startTask now r).1 = _ at h
    change ((s.noted [.startTask r]).startTask now r).2 = _
    rcases startTask_cases now r (s.noted [.startTask r]) with
      ⟨e', he', -⟩ | ⟨e', -, heq⟩ | ⟨fs, heq⟩ | ⟨d, -, heq⟩
    · exact absurd (hfree.symm.trans he') (Option.some_ne_none e').symm
    · rw [heq]
    · rw [heq]
    · rw [heq] at h
      cases h
  | runTask r =>
    change ((s.noted [.runTask r]).runTask now r).1 = _ at h
    change ((s.noted [.runTask r]).runTask now r).2 = _
    rcases runTask_cases now r (s.noted [.runTask r]) with
      ⟨e', he', -⟩ | ⟨-, -, -, heq⟩ | ⟨e', -, heq⟩ | ⟨fs, heq⟩ |
        ⟨d, launchType, provider, -, heq⟩
    · exact absurd (hfree.symm.trans he') (Option.some_ne_none e').symm
    · rw [heq]
    · rw [heq]
    · rw [heq]
    · rw [heq] at h
      cases h
  | stopTask cluster arn reason =>
    change ((s.noted [.stopTask cluster arn reason]).stopTask cluster arn).1 =
      _ at h
    change ((s.noted [.stopTask cluster arn reason]).stopTask cluster arn).2 = _
    rcases stopTask_cases cluster arn (s.noted [.stopTask cluster arn reason])
      with
      ⟨e', heq, -⟩ | ⟨t, -, -, -, heq⟩ | ⟨t, -, -, -, heq⟩
    · rw [heq]
    · rw [heq] at h
      cases h
    · rw [heq] at h
      cases h
  | describeDefinition arn => rfl
  | _ => cases h

/-- A refused call uses up the refusal that was arranged for it.  Apart from
that it changes nothing but the journal, unless it was to delete definitions and
met an active one, when those named before that one are gone. -/
theorem refusal_leaves
    (h : (s.serve now c).1 = .error e) :
    LeftBy s c e (s.serve now c).2 := by
  cases hrefusal : s.mishaps.refusal? c.method with
  | some e' =>
    rw [serve_of_refusal? hrefusal] at h ⊢
    obtain rfl : e' = e := Except.error.inj h
    exact .arranged c hrefusal
  | none =>
    by_cases hkind : c.method = .delete
    · cases c with
      | delete arns => exact leftBy_delete hrefusal h
      | _ => cases hkind
    · rw [serve_of_free hrefusal hkind h]
      exact .untouched e hrefusal hkind

/-- A service with an inactive definition of family `a` and an active one of
family `b`. -/
def halfRetired : Service :=
  let s := (serve 0 (.register smallRegistration) {}).2
  let s := (s.serve 0 (.register { smallRegistration with family := "b" })).2
  (s.serve 0 (.deregister (definitionArn "a" 1))).2

/-- A deletion that names the inactive definition twice, a definition that is
not there, and in between the active one. -/
def mixedDeletion : Call :=
  .delete
    [definitionArn "a" 1, definitionArn "c" 1, definitionArn "b" 1,
      definitionArn "a" 1]

theorem halfRetired_reachable : halfRetired.Reachable :=
  .call (.call (.call .empty 0 _) 0 _) 0 _

theorem refusal_leaves_halfRetired :
    (halfRetired.serve 0 mixedDeletion).1 =
      .error (stillActive (definitionArn "b" 1)) ∧
    LeftBy halfRetired mixedDeletion (stillActive (definitionArn "b" 1))
      (halfRetired.serve 0 mixedDeletion).2 := by
  have hrefused : (halfRetired.serve 0 mixedDeletion).1 =
      .error (stillActive (definitionArn "b" 1)) := by
    rfl
  exact ⟨hrefused, refusal_leaves hrefused⟩

/-- A deletion that is refused may have deleted a definition. -/
theorem refused_deletion_forgets :
    halfRetired.Reachable ∧
    (halfRetired.serve 0 mixedDeletion).1 =
      .error (stillActive (definitionArn "b" 1)) ∧
    (∃ d, halfRetired.definitions[definitionArn "a" 1]? = some d) ∧
    (halfRetired.serve 0 mixedDeletion).2.definitions[definitionArn "a" 1]? =
      none := by
  refine ⟨halfRetired_reachable, rfl, ?_, ?_⟩
  · rw [← Option.isSome_iff_exists]
    decide +kernel
  · decide +kernel

end Service
end AgentFleet
