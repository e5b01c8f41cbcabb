import AgentFleet.Instance.Supply
import AgentFleet.Proofs.Numerals

/-!
# Names of resources

The names that a service or a pool makes up end with a numeral behind a mark
that no numeral contains.  So a name tells the number it was made from, and what
stands in front of the mark.
-/

namespace AgentFleet
namespace Service

theorem toList_definitionArn
    (family : String) (n : Nat) :
    (definitionArn family n).toList =
      (arnRoot.toList ++ ":task-definition/".toList ++ family.toList) ++ ':' ::
        Text.paddedDigits 10 0 n := by
  simp [definitionArn, Text.decimal, Text.paddedDigits]

theorem toList_taskArn
    (cluster : String) (n : Nat) :
    (taskArn cluster n).toList =
      (arnRoot.toList ++ ":task/".toList ++ cluster.toList) ++ '/' ::
        Text.paddedDigits 16 32 n := by
  simp [taskArn, Text.hexPadded]

theorem definitionArn_inj
    {family family' : String} {n n' : Nat}
    (h : definitionArn family n = definitionArn family' n') :
    family = family' ∧ n = n' := by
  have hchars := congrArg String.toList h
  rw [toList_definitionArn, toList_definitionArn] at hchars
  obtain ⟨hfront, hn⟩ :=
    Text.append_numeral_inj (by decide) (by decide) (by decide) hchars
  exact ⟨String.toList_inj.mp (List.append_cancel_left hfront), hn⟩

theorem taskArn_inj
    {cluster cluster' : String} {n n' : Nat}
    (h : taskArn cluster n = taskArn cluster' n') :
    cluster = cluster' ∧ n = n' := by
  have hchars := congrArg String.toList h
  rw [toList_taskArn, toList_taskArn] at hchars
  obtain ⟨hfront, hn⟩ :=
    Text.append_numeral_inj (by decide) (by decide) (by decide) hchars
  exact ⟨String.toList_inj.mp (List.append_cancel_left hfront), hn⟩

end Service

theorem Pool.toList_instanceArn
    (cluster : String) (n : Nat) :
    (instanceArn cluster n).toList =
      (Service.arnRoot.toList ++ ":container-instance/".toList ++
            cluster.toList) ++ '/' :: Text.paddedDigits 10 8 n := by
  simp [instanceArn, Text.decimalPadded]

theorem Pool.instanceArn_inj
    {cluster cluster' : String} {n n' : Nat}
    (h : instanceArn cluster n = instanceArn cluster' n') :
    cluster = cluster' ∧ n = n' := by
  have hchars := congrArg String.toList h
  rw [toList_instanceArn, toList_instanceArn] at hchars
  obtain ⟨hfront, hn⟩ :=
    Text.append_numeral_inj (by decide) (by decide) (by decide) hchars
  exact ⟨String.toList_inj.mp (List.append_cancel_left hfront), hn⟩

end AgentFleet
