import AgentFleet.Proofs.Validity

/-!
# Environments

The lines of a profile are read one after the other, and the first one that
cannot be read is the one that is reported.  If all can be read, the environment
is known key by key: the last line that assigns a value to the key counts, then
the settings, then what the agent needs to register itself.
-/

namespace AgentFleet

/-! ## Assignments -/

namespace Text

variable {line key value : String} {lines rest : List String}

theorem trim_eq_empty_iff : trim line = "" ↔ isBlankText line = true := by
  rw [trim, isBlankText, ← trimChars_eq_nil_iff, String.ofList_eq_empty_iff]

/-- The line, once it is trimmed, assigns a value to a key: the value is
everything behind the first equals sign, and the key is what stands in front of
it, trimmed. -/
def Assigns (line key value : String) : Prop :=
  ∃ front,
    trim line = front ++ "=" ++ value ∧ '=' ∉ front.toList ∧ trim front = key

/-- No line assigns a value to the key. -/
def Unassigned (lines : List String) (key : String) : Prop :=
  ∀ line ∈ lines, ∀ value, ¬Assigns line key value

/-- The last line that assigns a value to the key assigns this one. -/
def AssignsLast (lines : List String) (key value : String) : Prop :=
  ∃ front line back, lines = front ++ line :: back ∧ Assigns line key value ∧
    Unassigned back key

/-- A text falls into two parts at its first equals sign. -/
theorem eq_of_dropWhile_bne
    {cs after : List Char} {c : Char}
    (h : cs.dropWhile (· != '=') = c :: after) :
    cs = cs.takeWhile (· != '=') ++ '=' :: after := by
  have hhead := List.head?_dropWhile_not (· != '=') cs
  rw [h] at hhead
  obtain rfl : c = '=' := by simpa using hhead
  rw [← h, List.takeWhile_append_dropWhile]

theorem assigns_of_trimChars
    {front after : List Char}
    (hline : trimChars line.toList = front ++ '=' :: after)
    (hfront : '=' ∉ front) :
    Assigns line (String.ofList (trimChars front)) (String.ofList after) := by
  refine ⟨String.ofList front, ?_, ?_, ?_⟩
  · rw [trim, hline, ← String.toList_inj]
    simp
  · rwa [String.toList_ofList]
  · rw [trim, String.toList_ofList]

/-- Blanks around the line and the key go, those in front of the value stay. -/
example : Assigns " FOO = a=b " "FOO" " a=b" :=
  ⟨"FOO ", by decide, by decide, by decide⟩

theorem Assigns.unique
    {key' value' : String} (h : Assigns line key value)
    (h' : Assigns line key' value') :
    key = key' ∧ value = value' := by
  obtain ⟨front, hline, hfront, rfl⟩ := h
  obtain ⟨front', hline', hfront', rfl⟩ := h'
  have hboth :
      front.toList ++ '=' :: value.toList =
        front'.toList ++ '=' :: value'.toList := by
    simpa using congrArg String.toList (hline.symm.trans hline')
  have hkey : front.toList = front'.toList := by
    rw [← takeWhile_of_not_mem hfront value.toList, hboth,
      takeWhile_of_not_mem hfront']
  rw [hkey] at hboth
  have hvalue := (List.cons.inj (List.append_cancel_left hboth)).2
  exact ⟨congrArg trim (String.toList_inj.mp hkey), String.toList_inj.mp hvalue⟩

theorem not_assigns_of_blank
    (h : trim line = "") :
    ¬Assigns line key value := by
  rintro ⟨front, hline, -, -⟩
  have hempty := congrArg String.toList (hline.symm.trans h)
  simp at hempty

theorem unassigned_cons_iff :
    Unassigned (line :: rest) key ↔
      (∀ value, ¬Assigns line key value) ∧ Unassigned rest key :=
  List.forall_mem_cons

theorem assignsLast_cons_iff :
    AssignsLast (line :: rest) key value ↔
      AssignsLast rest key value ∨
      (Assigns line key value ∧ Unassigned rest key) := by
  constructor
  · rintro ⟨front, last, back, hlines, hassigns, hback⟩
    cases front with
    | nil =>
      obtain ⟨rfl, rfl⟩ := List.cons.inj hlines
      exact Or.inr ⟨hassigns, hback⟩
    | cons first front =>
      exact Or.inl
        ⟨front, last, back, (List.cons.inj hlines).2, hassigns, hback⟩
  · rintro (⟨front, last, back, rfl, hassigns, hback⟩ | ⟨hassigns, hback⟩)
    · exact ⟨line :: front, last, back, rfl, hassigns, hback⟩
    · exact ⟨[], line, rest, rfl, hassigns, hback⟩

/-! ## The first malformed line -/

/-- The line is the first one that is neither blank nor has a key. -/
def FirstMalformed (lines : List String) (line : String) : Prop :=
  ∃ front back,
    lines = front ++ line :: back ∧
    (∀ l ∈ front, IsEnvironmentLine l) ∧
    ¬IsEnvironmentLine line

theorem firstMalformed_cons_of_good
    {first : String} (hfirst : IsEnvironmentLine first) :
    FirstMalformed (first :: rest) line ↔ FirstMalformed rest line := by
  constructor
  · rintro ⟨front, back, hlines, hfront, hline⟩
    cases front with
    | nil =>
      obtain ⟨rfl, -⟩ := List.cons.inj hlines
      exact absurd hfirst hline
    | cons l front =>
      exact ⟨front, back, (List.cons.inj hlines).2,
        (List.forall_mem_cons.mp hfront).2, hline⟩
  · rintro ⟨front, back, rfl, hfront, hline⟩
    exact ⟨first :: front, back, rfl, List.forall_mem_cons.mpr ⟨hfirst, hfront⟩,
      hline⟩

theorem firstMalformed_cons_of_malformed
    {first : String} (hfirst : ¬IsEnvironmentLine first) :
    FirstMalformed (first :: rest) line ↔ line = first := by
  constructor
  · rintro ⟨front, back, hlines, hfront, -⟩
    cases front with
    | nil => exact (List.cons.inj hlines).1.symm
    | cons l front =>
      obtain ⟨rfl, -⟩ := List.cons.inj hlines
      exact absurd (hfront first List.mem_cons_self) hfirst
  · rintro rfl
    exact ⟨[], rest, rfl, by simp, hfirst⟩

end Text

/-! ## Lines -/

namespace Specification

/-- What an environment line is read as. -/
inductive Reads
    (line : String) :
    Except Specification.Error (Option (String × String)) → Prop where
  | blank (hblank : Text.trim line = "") : Reads line (.ok none)
  | entry {key value : String} (hassigns : Text.Assigns line key value) :
      Reads line (.ok (some (key, value)))
  | malformed (hline : ¬Text.IsEnvironmentLine line) :
      Reads line (.error (.malformedEnvironment (Text.trim line)))

theorem environmentEntry_error
    {line : String} {e : Specification.Error}
    (h : environmentEntry line = .error e) :
    e = .malformedEnvironment (Text.trim line) := by
  rw [environmentEntry] at h
  dsimp only at h
  split at h
  · cases h
  · split at h
    · split at h
      · exact (Except.error.inj h).symm
      · cases h
    · exact (Except.error.inj h).symm

theorem reads_environmentEntry
    (line : String) :
    Reads line (environmentEntry line) := by
  cases hentry : environmentEntry line with
  | error e =>
    rw [environmentEntry_error hentry]
    refine .malformed ?_
    rw [← environmentEntry_eq_ok_iff]
    rintro ⟨entry, hok⟩
    rw [hentry] at hok
    cases hok
  | ok entry =>
    rw [environmentEntry] at hentry
    dsimp only at hentry
    split at hentry
    · rename_i hblank
      obtain rfl := Except.ok.inj hentry
      exact .blank (congrArg String.ofList hblank)
    · split at hentry
      · rename_i c after hafter
        split at hentry
        · cases hentry
        · obtain rfl := Except.ok.inj hentry
          refine .entry
            (Text.assigns_of_trimChars (Text.eq_of_dropWhile_bne hafter) ?_)
          rw [← Text.forall_bne_iff]
          intro c hc
          exact List.mem_takeWhile_imp (p := (· != '=')) hc
      · cases hentry

variable {lines : List String} {env env' : Std.ExtTreeMap String String}

/-- The first line that cannot be read is reported. -/
theorem addLines_eq_error_iff
    {e : Specification.Error} :
    addLines lines env = .error e ↔
      ∃ line,
        Text.FirstMalformed lines line ∧
        e = .malformedEnvironment (Text.trim line) := by
  induction lines generalizing env with
  | nil => simp [addLines, Text.FirstMalformed]
  | cons first rest ih =>
    have hgood := environmentEntry_eq_ok_iff first
    have hreads := reads_environmentEntry first
    rw [addLines]
    generalize environmentEntry first = entry at hgood hreads
    cases hreads with
    | blank hblank =>
      simp only [ih, Text.firstMalformed_cons_of_good (hgood.mp ⟨_, rfl⟩)]
    | entry hassigns =>
      simp only [ih, Text.firstMalformed_cons_of_good (hgood.mp ⟨_, rfl⟩)]
    | malformed hfirst =>
      simp only [Text.firstMalformed_cons_of_malformed hfirst, exists_eq_left,
        Except.error.injEq]
      exact eq_comm

/-- What the lines say of a key counts, and if they say nothing, it is left as
it was. -/
theorem getElem?_addLines
    (h : addLines lines env = .ok env') (key value : String) :
    env'[key]? = some value ↔
      Text.AssignsLast lines key value ∨
      (Text.Unassigned lines key ∧ env[key]? = some value) := by
  induction lines generalizing env with
  | nil =>
    rw [Except.ok.inj h]
    simp [Text.AssignsLast, Text.Unassigned]
  | cons line rest ih =>
    rw [Text.assignsLast_cons_iff, Text.unassigned_cons_iff]
    rw [addLines] at h
    have hreads := reads_environmentEntry line
    generalize environmentEntry line = entry at h hreads
    cases hreads with
    | blank hblank =>
      have hnone : ∀ v, ¬Text.Assigns line key v :=
        fun _ => Text.not_assigns_of_blank hblank
      rw [ih h]
      simp [hnone]
    | @entry key' value' hassigns =>
      have hline : ∀ v, Text.Assigns line key v ↔ key' = key ∧ value' = v := by
        intro v
        constructor
        · exact hassigns.unique
        · rintro ⟨rfl, rfl⟩
          exact hassigns
      rw [ih h, Table.getElem?_insert_eq_some_iff]
      simp only [hline]
      by_cases hkey : key' = key
      · simp [hkey, and_comm]
      · simp [hkey]
    | malformed => cases h

/-! ## Layers -/

/-- What an agent needs to register itself with the server. -/
inductive AgentVariable (name : String) (r : AgentRequest) (s : Settings) :
    String → String → Prop where
  | serverUrl : AgentVariable name r s "GO_EA_SERVER_URL" s.serverUrl
  | registerKey :
      AgentVariable name r s "GO_EA_AUTO_REGISTER_KEY" r.autoRegisterKey
  | environment :
      AgentVariable name r s "GO_EA_AUTO_REGISTER_ENVIRONMENT" r.environment
  | agentId : AgentVariable name r s "GO_EA_AUTO_REGISTER_ELASTIC_AGENT_ID" name
  | pluginId :
      AgentVariable name r s "GO_EA_AUTO_REGISTER_ELASTIC_PLUGIN_ID" s.pluginId

/-- The value of a key in the environment of a container: the last line of the
profile that assigns one counts, then the settings, then what the agent needs.
-/
inductive Layered
    (name : String) (r : AgentRequest) (s : Settings) (key value : String) :
    Prop where
  | line (hline : Text.AssignsLast r.profile.environment key value)
  | setting (hline : Text.Unassigned r.profile.environment key)
      (hsetting : s.environment[key]? = some value)
  | agent (hline : Text.Unassigned r.profile.environment key)
      (hsetting : s.environment[key]? = none)
      (hagent : AgentVariable name r s key value)

/-- Why no specification comes of a request; of several reasons the first one is
given. -/
inductive Refused (r : AgentRequest) : Specification.Error → Prop where
  | emptyImage (himage : Text.trim r.profile.image = "") : Refused r .emptyImage
  | zeroMemory (himage : Text.trim r.profile.image ≠ "")
      (hmemory : r.profile.memory = 0) : Refused r .zeroMemory
  | malformedEnvironment (himage : Text.trim r.profile.image ≠ "")
      (hmemory : r.profile.memory ≠ 0) {line : String}
      (hline : Text.FirstMalformed r.profile.environment line) :
      Refused r (.malformedEnvironment (Text.trim line))

variable {name : String} {r : AgentRequest} {s : Settings} {server : String}

theorem getElem?_agentEnvironment_eq_some_iff
    {key value : String} :
    (agentEnvironment name r s)[key]? = some value ↔
      AgentVariable name r s key value := by
  rw [agentEnvironment, Table.getElem?_ofList_eq_some_iff (by simp)]
  constructor
  · intro hmem
    simp only [List.mem_cons, Prod.mk.injEq, List.not_mem_nil, or_false] at hmem
    rcases hmem with ⟨rfl, rfl⟩ | ⟨rfl, rfl⟩ | ⟨rfl, rfl⟩ | ⟨rfl, rfl⟩ |
      ⟨rfl, rfl⟩
    · exact .serverUrl
    · exact .registerKey
    · exact .environment
    · exact .agentId
    · exact .pluginId
  · intro hagent
    cases hagent <;> simp

theorem getElem?_environmentFor
    (h : environmentFor name r s = .ok env) (key value : String) :
    env[key]? = some value ↔ Layered name r s key value := by
  rw [getElem?_addLines h, Std.ExtTreeMap.getElem?_union, Option.or_eq_some_iff,
    getElem?_agentEnvironment_eq_some_iff]
  constructor
  · rintro (hline | ⟨hline, hsetting | ⟨hsetting, hagent⟩⟩)
    · exact .line hline
    · exact .setting hline hsetting
    · exact .agent hline hsetting hagent
  · rintro (hline | ⟨hline, hsetting⟩ | ⟨hline, hsetting, hagent⟩)
    · exact Or.inl hline
    · exact Or.inr ⟨hline, Or.inl hsetting⟩
    · exact Or.inr ⟨hline, Or.inr ⟨hsetting, hagent⟩⟩

theorem ofRequest_eq_error_iff
    {e : Specification.Error} :
    ofRequest name r s server = .error e ↔ Refused r e := by
  constructor
  · intro herror
    rw [ofRequest] at herror
    split at herror
    · rename_i himage
      rw [← Except.error.inj herror]
      exact .emptyImage (Text.trim_eq_empty_iff.mpr himage)
    · rename_i himage
      have hnot := mt Text.trim_eq_empty_iff.mp himage
      split at herror
      · rename_i hmemory
        rw [← Except.error.inj herror]
        exact .zeroMemory hnot hmemory
      · rename_i hmemory
        split at herror
        · rename_i e' henvironment
          obtain ⟨line, hline, rfl⟩ := addLines_eq_error_iff.mp henvironment
          rw [← Except.error.inj herror]
          exact .malformedEnvironment hnot hmemory hline
        · cases herror
  · intro hrefused
    cases hrefused with
    | emptyImage himage =>
      rw [ofRequest, if_pos (Text.trim_eq_empty_iff.mp himage)]
    | zeroMemory himage hmemory =>
      rw [ofRequest, if_neg (mt Text.trim_eq_empty_iff.mpr himage),
        if_pos hmemory]
    | @malformedEnvironment himage hmemory line hline =>
      have henvironment : environmentFor name r s =
          .error (.malformedEnvironment (Text.trim line)) :=
        addLines_eq_error_iff.mpr ⟨line, hline, rfl⟩
      rw [ofRequest, if_neg (mt Text.trim_eq_empty_iff.mpr himage),
        if_neg hmemory, henvironment]

/-- A specification is built exactly if the trimmed image is not empty, some
memory is asked for and every line of the environment is blank or has a key;
otherwise the first of these reasons is given, with the first line that is not
so.  In the environment of the container a key has the value that the last line
assigns to it, or else the one in the settings, or else the one with which the
agent registers itself, and there are no other keys. -/
theorem ofRequest_layers_environment
    (name : String) (r : AgentRequest) (s : Settings) (server : String) :
    ((∃ spec, ofRequest name r s server = .ok spec) ↔
        Text.trim r.profile.image ≠ "" ∧
        0 < r.profile.memory ∧
        ∀ line ∈ r.profile.environment, Text.IsEnvironmentLine line) ∧
    (∀ e, ofRequest name r s server = .error e ↔ Refused r e) ∧
    ∀ spec,
      ofRequest name r s server = .ok spec →
      ∀ key value,
        spec.container.environment[key]? = some value ↔
          Layered name r s key value := by
  refine ⟨?_, fun _ => ofRequest_eq_error_iff, ?_⟩
  · rw [ofRequest_eq_ok_iff, UInt32.pos_iff_ne_zero, Ne, Text.trim_eq_empty_iff,
      Bool.not_eq_true]
    constructor
    · rintro ⟨himage, hmemory, henvironment⟩
      exact ⟨himage, hmemory, henvironment⟩
    · rintro ⟨himage, hmemory, henvironment⟩
      exact ⟨himage, hmemory, henvironment⟩
  · intro spec hspec
    obtain ⟨-, -, environment, henvironment, rfl⟩ :=
      ofRequest_eq_assemble_iff.mp hspec
    exact getElem?_environmentFor henvironment

/-- A request whose lines override each other and the settings. -/
def layeredRequest : AgentRequest :=
  { smallRequest with
    profile.environment := ["FOO=one", " ", "FOO=two", "TZ = a=b "] }

/-- Settings with two variables. -/
def layeredSettings : Settings :=
  { smallSettings with
    environment := Std.ExtTreeMap.ofList [("TZ", "UTC"), ("LANG", "C")] }

/-- For `layeredRequest` each layer has its say. -/
theorem ofRequest_layers_environment_layeredRequest :
    ∃ spec : Specification,
      ofRequest "GoCDx" layeredRequest layeredSettings "ci" = .ok spec ∧
      spec.container.environment["FOO"]? = some "two" ∧
      spec.container.environment["TZ"]? = some " a=b" ∧
      spec.container.environment["LANG"]? = some "C" ∧
      spec.container.environment["GO_EA_AUTO_REGISTER_ELASTIC_AGENT_ID"]? =
        some "GoCDx" := by
  have hone : Text.Assigns "FOO=one" "FOO" "one" :=
    ⟨"FOO", by decide, by decide, by decide⟩
  have htwo : Text.Assigns "FOO=two" "FOO" "two" :=
    ⟨"FOO", by decide, by decide, by decide⟩
  have hzone : Text.Assigns "TZ = a=b " "TZ" " a=b" :=
    ⟨"TZ ", by decide, by decide, by decide⟩
  have hlines :
      ∀ line ∈ layeredRequest.profile.environment,
        Text.IsEnvironmentLine line := (addLines_eq_ok_iff _ ∅).mp ⟨_, rfl⟩
  have hother : ∀ key, key ≠ "FOO" → key ≠ "TZ" →
      Text.Unassigned layeredRequest.profile.environment key := by
    intro key hfoo htz line hline value hassigns
    have hline : line ∈ ["FOO=one", " ", "FOO=two", "TZ = a=b "] := hline
    simp only [List.mem_cons, List.not_mem_nil, or_false] at hline
    rcases hline with rfl | rfl | rfl | rfl
    · exact hfoo (hassigns.unique hone).1
    · exact Text.not_assigns_of_blank (by decide) hassigns
    · exact hfoo (hassigns.unique htwo).1
    · exact htz (hassigns.unique hzone).1
  obtain ⟨hbuilt, -, hlayers⟩ :=
    ofRequest_layers_environment "GoCDx" layeredRequest layeredSettings "ci"
  obtain ⟨spec, hspec⟩ := hbuilt.mpr ⟨by decide, by decide, hlines⟩
  refine ⟨spec, hspec, ?_, ?_, ?_, ?_⟩
  · refine (hlayers spec hspec _ _).mpr
      (.line ⟨["FOO=one", " "], _, _, rfl, htwo, ?_⟩)
    intro line hline value hassigns
    obtain rfl := List.mem_singleton.mp hline
    exact absurd (hassigns.unique hzone).1 (by decide)
  · exact (hlayers spec hspec _ _).mpr
      (.line
          ⟨["FOO=one", " ", "FOO=two"], _, [], rfl, hzone,
            by simp [Text.Unassigned]⟩)
  · exact (hlayers spec hspec _ _).mpr
      (.setting (hother _ (by decide) (by decide)) (by decide +kernel))
  · exact (hlayers spec hspec _ _).mpr
      (.agent (hother _ (by decide) (by decide)) (by decide +kernel) .agentId)

end Specification
end AgentFleet
