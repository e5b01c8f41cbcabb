import AgentFleet.Proofs.JsonRecords
import AgentFleet.Proofs.Table
import AgentFleet.Proofs.TomlDocuments
import AgentFleet.Settings.File

/-!
# Reading written settings

Settings can be written unless the reconciliation interval is too large for a
TOML integer, and what is written is read back as the same settings, or turned
down for the reason that a check of the settings gives.
-/

namespace AgentFleet

namespace Toml

/-! ## Values of fields -/

@[simp]
theorem text?_string (s : String) : text? (.string s) = some s :=
  rfl

theorem texts?_textArray
    (xs : List String) :
    texts? (Settings.textArray xs) = some xs :=
  Json.mapM_map_eq_some text?_string xs

theorem uint64?_toNat (n : UInt64) : uint64? (.integer n.toNat) = some n := by
  change (if h : n.toNat < UInt64.size then some (UInt64.ofNatLT n.toNat h)
      else none) =
    some n
  rw [dif_pos n.toNat_lt_size, UInt64.ofNatLT_toNat]

theorem choice?_name
    (p : StopPolicy) :
    choice? StopPolicy.ofName? (.string p.name) = some p :=
  StopPolicy.ofName?_name p

section

variable {α : Type} {value : String → Option Toml} {name : String} {v : Toml}
  {read : Toml → Option α} {a : α}

theorem required_of_get?
    (hvalue : value name = some v) (hread : read v = some a) :
    required value name read = some a := by
  rw [required, hvalue, Option.bind_eq_bind, Option.bind_some, hread]

theorem withDefault_of_get?
    {absent : α} (hvalue : value name = some v) (hread : read v = some a) :
    withDefault value name absent read = some a := by
  rw [withDefault, hvalue]
  exact hread

end

/-- The entries of a table of texts. -/
def textEntries (m : Std.ExtTreeMap String String) : Entries :=
  m.toList.map fun e => (e.1, .string e.2)

theorem table?_textEntries
    (m : Std.ExtTreeMap String String) :
    table? (.table .header (textEntries m)) = some m := by
  have hentries :
      (textEntries m).mapM
          (fun e : String × Toml => do return (e.1, ← text? e.2)) =
        some m.toList := by
    apply Json.mapM_map_eq_some
    intro e
    rfl
  rw [table?, entries?, Option.bind_eq_bind, Option.bind_some, hentries,
    Option.bind_eq_bind, Option.bind_some, Table.ofList_toList]
  rfl

theorem distinct_textEntries
    (m : Std.ExtTreeMap String String) :
    (textEntries m).Distinct := by
  rw [Entries.Distinct, textEntries, List.map_map]
  exact Std.ExtTreeMap.map_fst_toList_eq_keys (t := m) ▸ m.nodup_keys

end Toml

namespace Settings

open Toml

/-! ## The document of settings -/

/-- The entries that stand before all headers. -/
def plainEntries (s : Settings) : Entries :=
  [("go_server_url", .string s.serverUrl),
    ("cluster_name", .string s.clusterName),
    ("plugin_id", .string s.pluginId),
    ("linux_stop_policy", .string s.linuxStopPolicy.name),
    ("windows_stop_policy", .string s.windowsStopPolicy.name),
    ("subnet_ids", textArray s.subnets),
    ("security_group_ids", textArray s.securityGroups),
    ("reconcile_interval_secs", .integer s.reconcileInterval.toNat)]

/-- The entry of a log configuration. -/
def logEntries (log : LogConfiguration) : Entries :=
  [("driver", .string log.driver),
    ("options", .table .header (textEntries log.options))]

/-- The entries before those of the log. -/
def frontEntries (s : Settings) : Entries :=
  s.plainEntries ++
    [("environment", .table .header (textEntries s.environment))]

/-- The entries of settings. -/
def entries (s : Settings) : Entries :=
  s.frontEntries ++
    match s.log with
    | none => []
    | some log => [("log", .table .header (logEntries log))]

theorem textTable_eq
    (parents : List String) (key : String) (m : Std.ExtTreeMap String String) :
    textTable parents key m =
      .table ⟨parents, key⟩ :: assignments (textEntries m) := by
  rw [textTable, assignments, textEntries, List.map_map]
  rfl

theorem statements_eq (s : Settings) : s.statements =
    assignments s.plainEntries ++
      (.table ⟨[], "environment"⟩ :: assignments (textEntries s.environment)) ++
      match s.log with
      | none => []
      | some log =>
        (.table ⟨[], "log"⟩ :: assignments [("driver", .string log.driver)]) ++
          (.table ⟨["log"], "options"⟩ ::
              assignments (textEntries log.options)) := by
  rw [statements, textTable_eq]
  cases s.log with
  | none => rfl
  | some log =>
    simp only [textTable_eq]
    rfl

theorem takes_plainEntries
    (s : Settings) :
    Document.Takes (assignments s.plainEntries) Document.empty
      ⟨s.plainEntries, []⟩ := by
  have hdistinct : Entries.Distinct ([] ++ s.plainEntries) := by
    change List.Nodup
      ["go_server_url", "cluster_name", "plugin_id", "linux_stop_policy",
        "windows_stop_policy", "subnet_ids", "security_group_ids",
        "reconcile_interval_secs"]
    decide
  exact takes_assignments isOpen_nil hdistinct

theorem takes_environment
    (s : Settings) :
    Document.Takes
      (.table ⟨[], "environment"⟩ :: assignments (textEntries s.environment))
      ⟨s.plainEntries, []⟩ ⟨s.frontEntries, ["environment"]⟩ := by
  have hnew : s.plainEntries.get? "environment" = none := rfl
  exact takes_table isOpen_nil hnew (distinct_textEntries _) []

theorem takes_log
    (s : Settings) (log : LogConfiguration) :
    Document.Takes
      ((.table ⟨[], "log"⟩ :: assignments [("driver", .string log.driver)]) ++
          (.table ⟨["log"], "options"⟩ ::
              assignments (textEntries log.options)))
      ⟨s.frontEntries, ["environment"]⟩
      ⟨s.frontEntries ++ [("log", .table .header (logEntries log))],
        ["log", "options"]⟩ := by
  have hnew : s.frontEntries.get? "log" = none := rfl
  have hdistinct : Entries.Distinct [("driver", .string log.driver)] := by
    simp [Entries.Distinct]
  have hopen : IsOpen [(s.frontEntries, "log")] := isOpen_nil.append hnew
  have hnone : Entries.get? [("driver", .string log.driver)] "options" = none :=
    rfl
  have hdriver := takes_table isOpen_nil hnew hdistinct ["environment"]
  have hoptions :=
    takes_table hopen hnone (distinct_textEntries log.options) ["log"]
  exact hdriver.append hoptions

/-- The statements of settings are those of a document with their entries. -/
theorem ofStatements?_statements
    (s : Settings) :
    ofStatements? s.statements = some s.entries := by
  have hfront := (takes_plainEntries s).append (takes_environment s)
  rw [statements_eq, entries]
  cases s.log with
  | none =>
    rw [List.append_nil, List.append_nil]
    exact ofStatements?_of_takes hfront
  | some log => exact ofStatements?_of_takes (hfront.append (takes_log s log))

/-! ## Reading the entries -/

theorem ofToml?_logEntries
    (log : LogConfiguration) :
    LogConfiguration.ofToml? (.table .header (logEntries log)) = some log := by
  have hdriver :
      required (logEntries log).get? "driver" text? = some log.driver :=
    required_of_get? rfl rfl
  have hoptions :
      withDefault (logEntries log).get? "options" ∅ table? = some log.options :=
    withDefault_of_get? rfl (table?_textEntries log.options)
  rw [LogConfiguration.ofToml?, fields?, entries?]
  simp only [Option.bind_eq_bind, Option.bind_some, hdriver, hoptions]
  rfl

theorem get?_entries
    {s : Settings} {key : String} {v : Toml}
    (h : s.plainEntries.get? key = some v) :
    s.entries.get? key = some v := by
  rw [Entries.get?] at h ⊢
  rw [entries, frontEntries, List.append_assoc, List.lookup_append, h,
    Option.some_or]

theorem get?_environment
    (s : Settings) :
    s.entries.get? "environment" =
      some (.table .header (textEntries s.environment)) :=
  rfl

/-- A log configuration that there is has an entry, and if there is none there
is no entry. -/
theorem withDefault_log
    (s : Settings) :
    withDefault s.entries.get? "log" none
        (fun v => (LogConfiguration.ofToml? v).map some) =
      some s.log := by
  cases hlog : s.log with
  | none =>
    have hnone : s.entries.get? "log" = none := by
      rw [entries, hlog]
      rfl
    rw [withDefault, hnone]
  | some log =>
    have hsome :
        s.entries.get? "log" = some (.table .header (logEntries log)) := by
      rw [entries, hlog]
      rfl
    refine withDefault_of_get? hsome ?_
    rw [ofToml?_logEntries, Option.map_some]

/-- Settings are read back from their entries. -/
theorem ofEntries?_entries (s : Settings) : ofEntries? s.entries = some s := by
  have hserver :
      required s.entries.get? "go_server_url" text? = some s.serverUrl :=
    required_of_get? (get?_entries rfl) rfl
  have hcluster :
      required s.entries.get? "cluster_name" text? = some s.clusterName :=
    required_of_get? (get?_entries rfl) rfl
  have hplugin :
      withDefault s.entries.get? "plugin_id" "elastic-agent.ecs" text? =
        some s.pluginId :=
    withDefault_of_get? (get?_entries rfl) (text?_string _)
  have hlinux : withDefault s.entries.get? "linux_stop_policy" .stopIdle
      (choice? StopPolicy.ofName?) = some s.linuxStopPolicy :=
    withDefault_of_get? (get?_entries rfl) (choice?_name _)
  have hwindows : withDefault s.entries.get? "windows_stop_policy" .stopIdle
      (choice? StopPolicy.ofName?) = some s.windowsStopPolicy :=
    withDefault_of_get? (get?_entries rfl) (choice?_name _)
  have hsubnets :
      withDefault s.entries.get? "subnet_ids" [] texts? = some s.subnets :=
    withDefault_of_get? (get?_entries rfl) (texts?_textArray _)
  have hgroups :
      withDefault s.entries.get? "security_group_ids" [] texts? =
        some s.securityGroups :=
    withDefault_of_get? (get?_entries rfl) (texts?_textArray _)
  have hinterval :
      withDefault s.entries.get? "reconcile_interval_secs" 60 uint64? =
        some s.reconcileInterval :=
    withDefault_of_get? (get?_entries rfl) (uint64?_toNat _)
  have henvironment :
      withDefault s.entries.get? "environment" ∅ table? = some s.environment :=
    withDefault_of_get? (get?_environment s) (table?_textEntries _)
  rw [ofEntries?]
  simp only [Option.bind_eq_bind, Option.bind_some, hserver, hcluster, hplugin,
    hlinux, hwindows, hsubnets, hgroups, hinterval, henvironment,
    withDefault_log]
  rfl

/-! ## The text of settings -/

/-- No header of settings has more than two keys. -/
theorem isShort_of_length
    {path : Path} (h : path.parents.length ≤ 1) :
    path.IsShort :=
  Nat.lt_of_le_of_lt (Nat.succ_le_succ h) (by decide)

theorem legible_assignments
    {es : Entries} (h : ∀ e ∈ es, Legible (depthLimit - 1) e.2) :
    ∀ t ∈ assignments es, t.Legible := by
  intro t ht
  obtain ⟨e, he, rfl⟩ := List.mem_map.mp ht
  exact ⟨isShort_of_length (Nat.zero_le 1), h e he⟩

theorem legible_textArray
    (xs : List String) :
    Legible (depthLimit - 1) (textArray xs) := by
  have hitems : ∀ v ∈ xs.map Toml.string, Legible 78 v := by
    intro v hv
    obtain ⟨x, -, rfl⟩ := List.mem_map.mp hv
    exact legible_string 78 x
  exact legible_array hitems

theorem legible_textTable
    {path : Path} (hpath : path.IsShort) (m : Std.ExtTreeMap String String) :
    ∀ t ∈ Statement.table path :: assignments (textEntries m), t.Legible := by
  refine List.forall_mem_cons.mpr ⟨hpath, legible_assignments ?_⟩
  intro e he
  obtain ⟨f, -, rfl⟩ := List.mem_map.mp he
  exact legible_string _ f.2

theorem legible_plainEntries
    {s : Settings} (h : s.reconcileInterval.toNat < integerBound) :
    ∀ e ∈ s.plainEntries, Legible (depthLimit - 1) e.2 := by
  simp only [plainEntries, List.forall_mem_cons]
  exact ⟨legible_string _ _, legible_string _ _, legible_string _ _,
    legible_string _ _, legible_string _ _, legible_textArray _,
    legible_textArray _, legible_natural _ h,
    fun _ he => absurd he List.not_mem_nil⟩

theorem legible_statements
    {s : Settings} (h : s.reconcileInterval.toNat < integerBound) :
    ∀ t ∈ s.statements, t.Legible := by
  have hplain := legible_assignments (legible_plainEntries h)
  have hone : ∀ key, Path.IsShort ⟨[], key⟩ :=
    fun _ => isShort_of_length (Nat.zero_le 1)
  have henvironment := legible_textTable (hone "environment") s.environment
  rw [statements_eq]
  refine List.forall_mem_append.mpr
    ⟨List.forall_mem_append.mpr ⟨hplain, henvironment⟩, ?_⟩
  cases s.log with
  | none => simp
  | some log =>
    have hdriver : ∀ t ∈ Statement.table ⟨[], "log"⟩ :: assignments [("driver",
        .string log.driver)], t.Legible := by
      refine List.forall_mem_cons.mpr ⟨hone "log", legible_assignments ?_⟩
      intro e he
      rw [List.mem_singleton.mp he]
      exact legible_string _ log.driver
    have htwo : Path.IsShort ⟨["log"], "options"⟩ :=
      isShort_of_length (Nat.le_refl 1)
    have hoptions := legible_textTable htwo log.options
    exact List.forall_mem_append.mpr ⟨hdriver, hoptions⟩

/-- Settings survive being written and read, however their texts have to be
quoted. -/
theorem parse_render
    (s : Settings) :
    (Nat.pow 2 63 - 1 < s.reconcileInterval.toNat ∧ s.render = .error .render) ∨
    (s.reconcileInterval.toNat ≤ Nat.pow 2 63 - 1 ∧
      ∃ text,
        s.render = .ok text ∧
        Settings.parse text = s.check.map fun _ => s) := by
  have hbound : integerBound = Nat.pow 2 63 - 1 + 1 := by decide
  rw [render]
  by_cases h : s.reconcileInterval.toNat < integerBound
  · rw [if_pos h]
    refine Or.inr ⟨by omega, _, rfl, ?_⟩
    rw [Settings.parse, parse?_render (legible_statements h),
      ofStatements?_statements, Option.bind_eq_bind, Option.bind_some,
      ofEntries?_entries]
  · rw [if_neg h]
    exact Or.inl ⟨by omega, rfl⟩

end Settings
end AgentFleet
