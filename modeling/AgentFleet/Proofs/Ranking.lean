import AgentFleet.Proofs.Admission
import AgentFleet.Proofs.FloatOrder

/-!
# Ranking and picking instances

Scores are numbers, so instances are ranked by a total order that equally full
instances share a place in.  Sorting by it is stable, and then the best instance
that will do is the first of the fullest ones in the order in which the
instances were listed, whether every eligible instance will do or only an idle
one.
-/

namespace AgentFleet

/-! ## Eligible instances -/

/-- The instance is active, runs the platform and has enough left. -/
structure Requirements.Eligible
    (r : Requirements) (i : ContainerInstance) : Prop where
  active : Text.sameCaseless i.status "ACTIVE" = true
  system : Text.sameCaseless (i.osType?.getD "linux") r.platform.name = true
  memory : r.memory ≤ i.remainingMemory
  cpu : r.cpu ≤ i.remainingCpu

/-- An instance that will do is eligible, and idle if only an idle one will do.
-/
structure Choice.Suits
    (c : Choice) (r : Requirements) (i : ContainerInstance) : Prop where
  eligible : r.Eligible i
  idle : c = .idleOnly → i.runningTasks = 0 ∧ i.pendingTasks = 0

/-- The instance is the first of the best ones that will do in a list. -/
def Choice.IsFirstBest
    (c : Choice) (r : Requirements) (is : List ContainerInstance)
    (i : ContainerInstance) : Prop :=
  ∃ front back, is = front ++ i :: back ∧ c.Suits r i ∧
    (∀ j ∈ front, c.Suits r j → r.score j < r.score i) ∧
    ∀ j ∈ back, c.Suits r j → r.score j ≤ r.score i

/-- The second list is the first one with ineligible instances put in anywhere.
-/
inductive Requirements.Pads (r : Requirements) :
    List ContainerInstance → List ContainerInstance → Prop where
  | nil : r.Pads [] []
  | keep (i : ContainerInstance) {is is' : List ContainerInstance}
      (h : r.Pads is is') : r.Pads (i :: is) (i :: is')
  | insert {i : ContainerInstance} (hi : ¬r.Eligible i)
      {is is' : List ContainerInstance} (h : r.Pads is is') :
      r.Pads is (i :: is')

namespace Requirements

variable {r : Requirements} {i j : ContainerInstance}
  {is is' : List ContainerInstance}

theorem isMetBy_iff_eligible : r.isMetBy i = true ↔ r.Eligible i := by
  simp only [isMetBy, matchesPlatform, ContainerInstance.isActive,
    Bool.and_eq_true, decide_eq_true_iff, and_assoc]
  constructor
  · rintro ⟨hactive, hsystem, hmemory, hcpu⟩
    exact ⟨hactive, hsystem, hmemory, hcpu⟩
  · intro h
    exact ⟨h.active, h.system, h.memory, h.cpu⟩

instance
    (r : Requirements) (i : ContainerInstance) : Decidable (r.Eligible i) :=
  decidable_of_iff _ isMetBy_iff_eligible

theorem decide_eligible : (fun i => decide (r.Eligible i)) = r.isMetBy := by
  funext i
  rw [Bool.eq_iff_iff, decide_eq_true_iff, isMetBy_iff_eligible]

theorem Pads.filter_eq
    (h : r.Pads is is') :
    is'.filter r.isMetBy = is.filter r.isMetBy := by
  induction h with
  | nil => rfl
  | keep i h ih => rw [List.filter_cons, List.filter_cons, ih]
  | insert hi h ih =>
    rw [List.filter_cons_of_neg (mt isMetBy_iff_eligible.mp hi), ih]

/-! ## Scores -/

/-- A score is a number: the division is made only if there is something to
divide by, and if its result were not a number, it would not be less than one.
-/
theorem isNaN_score : (r.score i).isNaN = false := by
  rw [score]
  split_ifs with hnone
  · rfl
  dsimp only
  refine isNaN_mul ?_ rfl
  split_ifs with hless
  · exact isNaN_of_lt hless
  · rfl

/-- Where the score of an instance stands among the numbers. -/
def level (r : Requirements) (i : ContainerInstance) : ℤ ×ₗ ℤ ×ₗ ℤ :=
  floatPlace (r.score i)

theorem score_lt_iff : r.score i < r.score j ↔ r.level i < r.level j :=
  float_lt_iff isNaN_score isNaN_score

theorem score_le_iff : r.score i ≤ r.score j ↔ r.level i ≤ r.level j :=
  float_le_iff isNaN_score isNaN_score

theorem score_beq_iff :
    (r.score i == r.score j) = true ↔ r.level i = r.level j :=
  float_beq_iff isNaN_score isNaN_score

theorem prefers_iff : r.prefers i j = true ↔ r.level j ≤ r.level i := by
  rw [prefers, Bool.not_eq_true', decide_eq_false_iff_not, score_lt_iff, not_lt]

theorem prefers_trans
    (i j k : ContainerInstance) (hij : r.prefers i j = true)
    (hjk : r.prefers j k = true) :
    r.prefers i k = true :=
  prefers_iff.mpr ((prefers_iff.mp hjk).trans (prefers_iff.mp hij))

theorem prefers_total
    (i j : ContainerInstance) :
    (r.prefers i j || r.prefers j i) = true := by
  rw [Bool.or_eq_true, prefers_iff, prefers_iff]
  exact le_total _ _

/-! ## Ranking -/

/-- In a stable sort, elements that may come in either order stay in the order
they were in. -/
theorem filter_mergeSort_of_tied
    {α : Type} {le : α → α → Bool}
    (htrans : ∀ a b c, le a b = true → le b c = true → le a c = true)
    (htotal : ∀ a b, (le a b || le b a) = true) {p : α → Bool}
    (htied : ∀ a b, p a = true → p b = true → le a b = true) (l : List α) :
    (l.mergeSort le).filter p = l.filter p := by
  have hpairwise : (l.filter p).Pairwise fun a b => le a b = true := by
    rw [List.pairwise_iff_forall_sublist]
    intro a b hsublist
    have hmem : ∀ c ∈ [a, b], p c = true := fun c hc =>
      (List.mem_filter.mp (hsublist.subset hc)).2
    exact htied a b (hmem a (by simp)) (hmem b (by simp))
  have hsublist : (l.filter p).Sublist ((l.mergeSort le).filter p) := by
    have hsorted :=
      List.sublist_mergeSort htrans htotal hpairwise List.filter_sublist
    have hfiltered := hsorted.filter p
    rwa [List.filter_filter, funext fun a => Bool.and_self (p a)] at hfiltered
  have hperm : ((l.mergeSort le).filter p).Perm (l.filter p) :=
    (List.mergeSort_perm l le).filter p
  exact (hsublist.eq_of_length hperm.length_eq.symm).symm

theorem rank_perm : (r.rank is).Perm (is.filter r.isMetBy) :=
  List.mergeSort_perm _ _

theorem mem_rank : i ∈ r.rank is ↔ i ∈ is ∧ r.Eligible i := by
  rw [Choice.mem_rank_iff, isMetBy_iff_eligible]

/-- Instances with one score are ranked in the order in which they were listed.
-/
theorem filter_rank
    {p : ContainerInstance → Bool}
    (hscore : ∀ i j, p i = true → p j = true → r.level i = r.level j) :
    (r.rank is).filter p = is.filter fun i => p i && r.isMetBy i := by
  rw [rank, filter_mergeSort_of_tied prefers_trans prefers_total,
    List.filter_filter]
  intro i j hi hj
  exact prefers_iff.mpr (hscore i j hi hj).ge

theorem rank_pairwise :
    (r.rank is).Pairwise fun i j => r.score j ≤ r.score i := by
  have hsorted : (r.rank is).Pairwise fun i j => r.prefers i j = true :=
    List.pairwise_mergeSort prefers_trans prefers_total _
  exact hsorted.imp fun h => score_le_iff.mpr (prefers_iff.mp h)

end Requirements

/-! ## Picking -/

namespace Choice

open Requirements

variable {c : Choice} {r : Requirements} {i j : ContainerInstance}
  {is is' : List ContainerInstance}

/-- What is asked of an eligible instance. -/
def admits : Choice → ContainerInstance → Bool
  | .anyWithRoom, _ => true
  | .idleOnly, i => i.isIdle

theorem suits_iff : c.Suits r i ↔ r.Eligible i ∧ c.admits i = true := by
  cases c with
  | anyWithRoom => exact ⟨fun h => ⟨h.eligible, rfl⟩, fun h => ⟨h.1, nofun⟩⟩
  | idleOnly =>
    exact ⟨fun h => ⟨h.eligible, ContainerInstance.isIdle_iff.mpr (h.idle rfl)⟩,
      fun h => ⟨h.1, fun _ => ContainerInstance.isIdle_iff.mp h.2⟩⟩

theorem pick?_eq_find? : c.pick? r is = (r.rank is).find? c.admits := by
  cases c with
  | anyWithRoom =>
    rw [pick?]
    cases r.rank is with
    | nil => rfl
    | cons i rest => rfl
  | idleOnly => rfl

theorem exists_pick?_iff :
    (∃ i, c.pick? r is = some i) ↔ ∃ i ∈ is, c.Suits r i := by
  rw [← Option.isSome_iff_exists, pick?_eq_find?, List.find?_isSome]
  simp only [mem_rank, suits_iff, and_assoc]

theorem suits_of_pick? (h : c.pick? r is = some i) : i ∈ is ∧ c.Suits r i := by
  rw [pick?_eq_find?] at h
  obtain ⟨hmem, heligible⟩ := mem_rank.mp (List.mem_of_find?_eq_some h)
  exact ⟨hmem, suits_iff.mpr ⟨heligible, List.find?_some h⟩⟩

/-- No instance that will do is better than the one that is picked. -/
theorem score_le_of_pick?
    (h : c.pick? r is = some i) (hj : j ∈ is) (hsuits : c.Suits r j) :
    r.score j ≤ r.score i := by
  rw [pick?_eq_find?, List.find?_eq_some_iff_append] at h
  obtain ⟨-, before, after, hrank, hbefore⟩ := h
  obtain ⟨heligible, hadmitted⟩ := suits_iff.mp hsuits
  have hranked : j ∈ r.rank is := mem_rank.mpr ⟨hj, heligible⟩
  have hsorted :
      (r.rank is).Pairwise fun i j => r.score j ≤ r.score i := rank_pairwise
  rw [hrank] at hranked hsorted
  rcases List.mem_append.mp hranked with hin | hin
  · have hrejected := hbefore j hin
    rw [hadmitted] at hrejected
    cases hrejected
  rcases List.mem_cons.mp hin with rfl | hin
  · exact score_le_iff.mpr le_rfl
  · exact List.rel_of_pairwise_cons (List.pairwise_append.mp hsorted).2.1 hin

/-- Of eligible instances, this one is admitted as well and has the score of the
other. -/
def isRivalOf
    (c : Choice) (r : Requirements) (i j : ContainerInstance) : Bool :=
  c.admits j && decide (r.level j = r.level i)

theorem isRivalOf_iff :
    c.isRivalOf r i j = true ↔ c.admits j = true ∧ r.level j = r.level i := by
  rw [isRivalOf, Bool.and_eq_true, decide_eq_true_iff]

/-- The first rival in the ranking is the first eligible one in the list. -/
theorem find?_isRivalOf :
    is.find? (fun j => c.isRivalOf r i j && r.isMetBy j) =
      (r.rank is).find? (c.isRivalOf r i) := by
  rw [← List.head?_filter, ← List.head?_filter, filter_rank]
  intro j k hj hk
  exact (isRivalOf_iff.mp hj).2.trans (isRivalOf_iff.mp hk).2.symm

/-- What is picked is the first of the best ones of the list, for those that are
as good are ranked in the order in which they are listed. -/
theorem isFirstBest_of_pick?
    (h : c.pick? r is = some i) :
    c.IsFirstBest r is i := by
  have hbest := fun j hj hsuits => score_le_of_pick? (j := j) h hj hsuits
  obtain ⟨-, hsuits⟩ := suits_of_pick? h
  rw [pick?_eq_find?, List.find?_eq_some_iff_append] at h
  obtain ⟨hadmits, before, after, hrank, hbefore⟩ := h
  have hranked : (r.rank is).find? (c.isRivalOf r i) = some i := by
    refine List.find?_eq_some_iff_append.mpr
      ⟨isRivalOf_iff.mpr ⟨hadmits, rfl⟩, before, after, hrank, fun j hj => ?_⟩
    have hrejected : c.admits j = false := by simpa using hbefore j hj
    rw [isRivalOf, hrejected]
    rfl
  have hlisted := find?_isRivalOf.trans hranked
  obtain ⟨-, front, back, his, hfront⟩ :=
    List.find?_eq_some_iff_append.mp hlisted
  refine ⟨front, back, his, hsuits, ?_, ?_⟩
  · intro j hj hsuitsj
    obtain ⟨heligible, hadmitted⟩ := suits_iff.mp hsuitsj
    have hle :=
      score_le_iff.mp (hbest j (his ▸ List.mem_append_left _ hj) hsuitsj)
    refine score_lt_iff.mpr (lt_of_le_of_ne hle fun heq => ?_)
    have hother := hfront j hj
    rw [isRivalOf_iff.mpr ⟨hadmitted, heq⟩, isMetBy_iff_eligible.mpr heligible]
      at hother
    cases hother
  · intro j hj hsuitsj
    exact hbest j
      (his ▸ List.mem_append_right front (List.mem_cons_of_mem _ hj)) hsuitsj

theorem IsFirstBest.suits
    (h : c.IsFirstBest r is i) :
    i ∈ is ∧ c.Suits r i := by
  obtain ⟨front, back, rfl, hsuits, -, -⟩ := h
  exact ⟨List.mem_append_right front List.mem_cons_self, hsuits⟩

/-- A list has one first best instance. -/
theorem IsFirstBest.unique
    (hi : c.IsFirstBest r is i) (hj : c.IsFirstBest r is j) :
    i = j := by
  obtain ⟨front, back, rfl, hsuitsi, hfront, hback⟩ := hi
  obtain ⟨front', back', heq, hsuitsj, hfront', hback'⟩ := hj
  rcases List.append_eq_append_iff.mp heq with ⟨mid, rfl, hmid⟩ |
    ⟨mid, rfl, hmid⟩
  · cases mid with
    | nil => exact (List.cons.inj hmid).1
    | cons k mid =>
      obtain ⟨rfl, rfl⟩ := List.cons.inj hmid
      have hless := score_lt_iff.mp (hfront' i (by simp) hsuitsi)
      have hmost := score_le_iff.mp (hback j (by simp) hsuitsj)
      exact absurd hless (not_lt.mpr hmost)
  · cases mid with
    | nil => exact (List.cons.inj hmid).1.symm
    | cons k mid =>
      obtain ⟨rfl, rfl⟩ := List.cons.inj hmid
      have hless := score_lt_iff.mp (hfront j (by simp) hsuitsj)
      have hmost := score_le_iff.mp (hback' i (by simp) hsuitsi)
      exact absurd hless (not_lt.mpr hmost)

theorem pick?_eq_some_iff : c.pick? r is = some i ↔ c.IsFirstBest r is i := by
  refine ⟨isFirstBest_of_pick?, fun h => ?_⟩
  obtain ⟨j, hpick⟩ := exists_pick?_iff.mpr ⟨i, h.suits⟩
  rw [hpick, h.unique (isFirstBest_of_pick? hpick)]

theorem pick?_pads (h : r.Pads is is') : c.pick? r is' = c.pick? r is := by
  rw [pick?_eq_find?, pick?_eq_find?, rank, rank, h.filter_eq]

/-- Ranking keeps the eligible instances, each as often as it is listed, by
their scores from the highest to the lowest and those with one score in the
order in which they are listed.  An instance is picked exactly if one will do,
and it is the first of those with the highest score; so ineligible instances
make no difference wherever they are put in. -/
theorem ranks_stably_and_picks_first
    (r : Requirements) (is : List ContainerInstance) :
    (r.rank is).Perm (is.filter (r.Eligible ·)) ∧
    (r.rank is).Pairwise (fun i j => r.score j ≤ r.score i) ∧
    (∀ i,
        (r.rank is).filter (r.score · == r.score i) =
          (is.filter (r.Eligible ·)).filter (r.score · == r.score i)) ∧
    ∀ c : Choice,
      ((∃ i, c.pick? r is = some i) ↔ ∃ i ∈ is, c.Suits r i) ∧
      (∀ i, c.pick? r is = some i ↔ c.IsFirstBest r is i) ∧
      ∀ is', r.Pads is is' → c.pick? r is' = c.pick? r is := by
  rw [decide_eligible]
  refine ⟨rank_perm, rank_pairwise, fun i => ?_, fun c => ?_⟩
  · rw [List.filter_filter, filter_rank]
    intro j k hj hk
    exact (score_beq_iff.mp hj).trans (score_beq_iff.mp hk).symm
  · exact ⟨exists_pick?_iff, fun i => pick?_eq_some_iff,
      fun is' h => pick?_pads h⟩

/-- An instance of 4096 MiB. -/
def wideInstance
    (status : String) (remaining running : UInt32) : ContainerInstance where
  arn := "wide"
  machineId := "i-0"
  status := status
  runningTasks := running
  pendingTasks := 0
  registeredCpu := 2048
  registeredMemory := 4096
  remainingCpu := 2048
  remainingMemory := remaining

/-- A small container that runs on Linux. -/
def smallRequirements : Requirements where
  platform := .linux
  memory := 512
  cpu := 128

/-- The fuller one of two instances is picked, and one between them that is not
active makes no difference. -/
theorem ranks_stably_and_picks_first_wideInstances :
    anyWithRoom.pick? smallRequirements
        [wideInstance "ACTIVE" 4096 0, wideInstance "DRAINING" 1024 3,
          wideInstance "ACTIVE" 2048 2] =
      some (wideInstance "ACTIVE" 2048 2) := by
  have hpads :
      smallRequirements.Pads
        [wideInstance "ACTIVE" 4096 0, wideInstance "ACTIVE" 2048 2]
        [wideInstance "ACTIVE" 4096 0, wideInstance "DRAINING" 1024 3,
          wideInstance "ACTIVE" 2048 2] :=
    .keep _ (.insert (by decide +kernel) (.keep _ .nil))
  obtain ⟨-, -, -, hpicks⟩ := ranks_stably_and_picks_first smallRequirements
    [wideInstance "ACTIVE" 4096 0, wideInstance "ACTIVE" 2048 2]
  obtain ⟨-, hfirst, hpadded⟩ := hpicks .anyWithRoom
  rw [hpadded _ hpads, hfirst]
  have hless :
      smallRequirements.score (wideInstance "ACTIVE" 4096 0) <
        smallRequirements.score (wideInstance "ACTIVE" 2048 2) := by
    decide +kernel
  refine ⟨[wideInstance "ACTIVE" 4096 0], [], rfl, ⟨by decide +kernel, nofun⟩,
    ?_, nofun⟩
  intro j hj _
  rw [List.mem_singleton.mp hj]
  exact hless

end Choice
end AgentFleet
