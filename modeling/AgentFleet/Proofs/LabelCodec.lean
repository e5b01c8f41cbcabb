import AgentFleet.Proofs.WrittenRecords

/-!
# Labels as a code for ownerships

An ownership is read back from its labels as it was, whatever texts, lists,
numbers and absent fields it holds, and reading looks at the four labels of the
scheme only.  So a label of any other name, like the one that names the creator,
may come, change and go.
-/

namespace AgentFleet

/-- The labels that an ownership is read from. -/
def Labels.ownershipKeys : List String :=
  [serverKey, jobKey, environmentKey, profileKey]

namespace Ownership

/-- Labels that agree on the scheme are read alike. -/
theorem ofLabels_congr
    {labels labels' : Labels}
    (h : ∀ key ∈ Labels.ownershipKeys, labels[key]? = labels'[key]?)
    (server : String) :
    ofLabels labels server = ofLabels labels' server := by
  have hserver : labels.serverOr server = labels'.serverOr server := by
    rw [Labels.serverOr, Labels.serverOr, Std.ExtTreeMap.getD_eq_getD_getElem?,
      Std.ExtTreeMap.getD_eq_getD_getElem?,
      h _ (by simp [Labels.ownershipKeys])]
  have henvironment :
      labels.getD Labels.environmentKey "" =
        labels'.getD Labels.environmentKey "" := by
    rw [Std.ExtTreeMap.getD_eq_getD_getElem?,
      Std.ExtTreeMap.getD_eq_getD_getElem?,
      h _ (by simp [Labels.ownershipKeys])]
  have hprofile : labels[Labels.profileKey]? = labels'[Labels.profileKey]? :=
    h _ (by simp [Labels.ownershipKeys])
  have hjob : labels[Labels.jobKey]? = labels'[Labels.jobKey]? :=
    h _ (by simp [Labels.ownershipKeys])
  simp only [ofLabels, hserver, henvironment, hprofile, hjob]

theorem ofLabels_insert
    {key : String} (hkey : key ∉ Labels.ownershipKeys) (labels : Labels)
    (value server : String) :
    ofLabels (labels.insert key value) server = ofLabels labels server := by
  apply ofLabels_congr
  intro key' hkey'
  have hne : key ≠ key' := fun h => hkey (h ▸ hkey')
  simp [Std.ExtTreeMap.getElem?_insert, hne]

theorem ofLabels_erase
    {key : String} (hkey : key ∉ Labels.ownershipKeys) (labels : Labels)
    (server : String) :
    ofLabels (labels.erase key) server = ofLabels labels server := by
  apply ofLabels_congr
  intro key' hkey'
  have hne : key ≠ key' := fun h => hkey (h ▸ hkey')
  simp [Std.ExtTreeMap.getElem?_erase, hne]

/-- Every ownership is read back from its labels, whoever reads them and whoever
is named as the creator; and labels outside the scheme may be added, changed and
removed without any effect, be the labels those of an ownership or not. -/
theorem labels_round_trip
    (o : Ownership) (creator server : String) :
    ofLabels (o.toLabels creator) server = .ok o ∧
    (∀ labels labels' : Labels,
        (∀ key ∈ Labels.ownershipKeys, labels[key]? = labels'[key]?) →
        ofLabels labels server = ofLabels labels' server) ∧
    ∀ (labels : Labels) (key : String),
      key ∉ Labels.ownershipKeys →
      (∀ value,
          ofLabels (labels.insert key value) server = ofLabels labels server) ∧
      ofLabels (labels.erase key) server = ofLabels labels server := by
  refine ⟨o.ofLabels_toLabels creator server, ?_, ?_⟩
  · intro labels labels' h
    exact ofLabels_congr h server
  · intro labels key hkey
    constructor
    · intro value
      exact ofLabels_insert hkey labels value server
    · exact ofLabels_erase hkey labels server

end Ownership
end AgentFleet
