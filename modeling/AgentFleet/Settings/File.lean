import AgentFleet.Settings.Basic
import AgentFleet.Toml.Document
import AgentFleet.Toml.Printer

/-!
# Settings files

Settings are kept in a TOML file.  A record of the settings is a table of its
fields, or an array of them in their order; a choice is a text, or a table with
one entry whose value is empty.  What is written can be read again as long as
the reconciliation interval fits into a TOML integer.
-/

namespace AgentFleet
namespace Toml

/-! ## Reading the values of fields -/

/-- The key under which a moment is found where a table is wanted. -/
def momentKey : String :=
  "$__toml_private_datetime"

/-- The entries of a table, or of a moment taken as one. -/
def entries? : Toml → Option Entries
  | .table _ es => some es
  | .moment text => some [(momentKey, .string text)]
  | _ => none

/-- The items of an array. -/
def elements? : Toml → Option (List Toml)
  | .array items => some items
  | .tables items => some items
  | _ => none

/-- The values of the fields of a record with the given names. -/
def fields? (names : List String) (v : Toml) : Option (String → Option Toml) :=
  match v.entries?, v.elements? with
  | some es, _ => some es.get?
  | none, some items => some fun n => items[names.idxOf n]?
  | none, none => none

/-- A text. -/
def text? : Toml → Option String
  | .string s => some s
  | _ => none

/-- A list of texts. -/
def texts? (v : Toml) : Option (List String) := do
  (← v.elements?).mapM text?

/-- A table of texts. -/
def table? (v : Toml) : Option (Std.ExtTreeMap String String) := do
  let entries ← (← v.entries?).mapM fun e => do return (e.1, ← text? e.2)
  return Std.ExtTreeMap.ofList entries

/-- A number of 64 bits. -/
def uint64? : Toml → Option UInt64
  | .integer (.ofNat n) =>
    if h : n < UInt64.size then some (UInt64.ofNatLT n h) else none
  | _ => none

/-- The value says nothing more: a table without entries or an array without
items. -/
def isEmpty : Toml → Bool
  | .table _ es => es.isEmpty
  | .array items => items.isEmpty
  | .tables items => items.isEmpty
  | _ => false

/-- One of a fixed set of names, as a text or as the only key of a table. -/
def choice? (read : String → Option α) : Toml → Option α
  | .string s => read s
  | .table _ [(name, v)] => if v.isEmpty then read name else none
  | _ => none

/-- A field that has to be there. -/
def required
    (value : String → Option Toml) (name : String) (read : Toml → Option α) :
    Option α := do
  read (← value name)

/-- A field that may be left out and then has the value `absent`. -/
def withDefault (value : String → Option Toml) (name : String) (absent : α)
    (read : Toml → Option α) : Option α :=
  match value name with
  | none => some absent
  | some v => read v

end Toml

namespace LogConfiguration

/-- Read a log configuration from a settings file. -/
def ofToml? (v : Toml) : Option LogConfiguration := do
  let value ← v.fields? fieldNames
  return {
    driver := ← Toml.required value "driver" Toml.text?
    options := ← Toml.withDefault value "options" ∅ Toml.table? }

end LogConfiguration

namespace Settings

/-- Read settings from the entries of a settings file. -/
def ofEntries? (es : Toml.Entries) : Option Settings := do
  let value := es.get?
  return {
    serverUrl := ← Toml.required value "go_server_url" Toml.text?
    clusterName := ← Toml.required value "cluster_name" Toml.text?
    pluginId := ← Toml.withDefault value "plugin_id" "elastic-agent.ecs"
      Toml.text?
    linuxStopPolicy := ← Toml.withDefault value "linux_stop_policy" .stopIdle
      (Toml.choice? StopPolicy.ofName?)
    windowsStopPolicy := ← Toml.withDefault value "windows_stop_policy"
      .stopIdle (Toml.choice? StopPolicy.ofName?)
    subnets := ← Toml.withDefault value "subnet_ids" [] Toml.texts?
    securityGroups := ← Toml.withDefault value "security_group_ids" []
      Toml.texts?
    reconcileInterval := ← Toml.withDefault value "reconcile_interval_secs" 60
      Toml.uint64?
    environment := ← Toml.withDefault value "environment" ∅ Toml.table?
    log := ← Toml.withDefault value "log" none fun v =>
      (LogConfiguration.ofToml? v).map some }

/-- Read and check the text of a settings file. -/
def parse (text : String) : Except Error Settings :=
  match Toml.parse? text >>= ofEntries? with
  | none => .error .parse
  | some s => s.check.map fun _ => s

/-- A list of texts as a value. -/
def textArray (xs : List String) : Toml :=
  .array (xs.map .string)

/-- A statement that gives the value of one key. -/
def assignment (key : String) (v : Toml) : Toml.Statement :=
  .assign ⟨[], key⟩ v

/-- A header, and the entries of a table of texts under it. -/
def textTable
    (parents : List String) (key : String) (m : Std.ExtTreeMap String String) :
    List Toml.Statement :=
  .table ⟨parents, key⟩ :: m.toList.map fun e => assignment e.1 (.string e.2)

/-- The statements of a settings file. -/
def statements (s : Settings) : List Toml.Statement :=
  [assignment "go_server_url" (.string s.serverUrl),
      assignment "cluster_name" (.string s.clusterName),
      assignment "plugin_id" (.string s.pluginId),
      assignment "linux_stop_policy" (.string s.linuxStopPolicy.name),
      assignment "windows_stop_policy" (.string s.windowsStopPolicy.name),
      assignment "subnet_ids" (textArray s.subnets),
      assignment "security_group_ids" (textArray s.securityGroups),
      assignment "reconcile_interval_secs"
        (.integer s.reconcileInterval.toNat)] ++
  textTable [] "environment" s.environment ++
  match s.log with
  | none => []
  | some log =>
    [.table ⟨[], "log"⟩, assignment "driver" (.string log.driver)] ++
      textTable ["log"] "options" log.options

/-- The text of a settings file; the interval has to fit into a TOML integer. -/
def render (s : Settings) : Except Error String :=
  if s.reconcileInterval.toNat < Toml.integerBound then
    .ok (Toml.render s.statements)
  else .error .render

end Settings
end AgentFleet
