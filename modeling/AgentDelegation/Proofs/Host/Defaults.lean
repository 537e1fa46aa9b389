import AgentDelegation.Host.SettingsFile
import AgentDelegation.Proofs.Toml.Omission
import Mathlib.Tactic.MkIffOfInductiveProp

/-!
# Settings that go without saying

A default is written down twice: next to the setting, for a table that leaves the setting out, and as a
part of what stands for the table where that is missing. `Redundant` lists the defaults a third time, as a
reader of the documentation would, and the main statement is that all three agree: whatever of a document
says no more than its default can be left out, single settings and whole tables in any combination.
-/

namespace AgentDelegation.Settings

open Json Toml

/-- The members that say no more than what holds without them, by their paths. -/
@[mk_iff]
inductive Redundant : List String → Toml.Value → Prop where
  | description : Redundant ["agent", "description"] (.text "")
  | version : Redundant ["agent", "version"] (.text "1.0.0")
  | bindings {spelling : String} (hspelling : Binding.ofText? spelling = some .jsonRpc) :
      Redundant ["agent", "bindings"] (.array [.text spelling])
  | agent {v : Toml.Value}
      (hread : LocalAgent.format.read v = .ok ⟨"a2a-host", "", "1.0.0", "http://localhost:8080", [.jsonRpc]⟩) :
      Redundant ["agent"] v
  | timeout : Redundant ["delegation", "timeout_secs"] (.integer 60)
  | cardTimeout : Redundant ["delegation", "card_fetch_timeout_secs"] (.integer 10)
  | delegation {v : Toml.Value} (hread : DelegationSettings.format.read v = .ok ⟨60, 10⟩) :
      Redundant ["delegation"] v
  | remoteAgents (origin : Origin) : Redundant ["remote_agents"] (.table origin [])
  | serviceName : Redundant ["telemetry", "service_name"] (.text "a2a-host")
  | jsonLogs : Redundant ["telemetry", "json_logs"] (.flag false)
  | telemetry {v : Toml.Value} (hread : TelemetrySettings.format.read v = .ok ⟨"a2a-host", none, false⟩) :
      Redundant ["telemetry"] v

/-- Whatever of a value is gone is redundant at its place in a document. -/
def Spared (base : List String) (gone : List String → Bool) (v : Toml.Value) : Prop :=
  ∀ path w, v.Holds path w → gone path = true → Redundant (base ++ path) w

variable {σ τ α : Type} {base : List String} {gone : List String → Bool} {origin : Origin} {entries : Table}
  {name : String} {v : Toml.Value}

theorem Redundant.length_le {path : List String} (h : Redundant path v) : path.length ≤ 2 := by
  cases h <;> decide

theorem Spared.member (h : Spared base gone (.table origin entries)) (hmem : (name, v) ∈ entries) :
    Spared (base ++ [name]) (fun path => gone (name :: path)) v := by
  intro path w hpath hgone
  rw [List.append_assoc]
  exact h _ w (.inside hmem hpath) hgone

theorem Spared.redundant (h : Spared base gone (.table origin entries)) (hmem : (name, v) ∈ entries)
    (hgone : gone [name] = true) : Redundant (base ++ [name]) v :=
  h [name] v (.inside hmem (.here v)) hgone

/-- A member that stays is as it was where nothing inside it could be redundant. -/
theorem Spared.without_eq_self (h : Spared base gone (.table origin entries)) (hmem : (name, v) ∈ entries)
    (hstays : gone [name] = false) (hnone : ∀ inner path w, ¬ Redundant (base ++ name :: inner :: path) w) :
    v.without (fun path => gone (name :: path)) = v := by
  refine v.without_eq_self fun path w hpath => ?_
  cases path with
  | nil => exact hstays
  | cons inner path =>
      rw [← Bool.not_eq_true]
      exact fun hgone => hnone inner path w (h _ w (.inside hmem hpath) hgone)

/-! ### The settings of a table -/

theorem survives_setting {table : String} {field : Json.Field α} {get : σ → α}
    (h : Spared [table] gone (.table origin entries)) (hname : field.otherName? = none)
    (hdefault : ∀ v, Redundant [table, field.name] v →
      ∃ x, field.missing = some x ∧ field.format.read v = .ok x) :
    (Record.field field get).Survives gone entries := by
  refine .field hname (fun v hmem hgone x hread => ?_) fun v hmem hstays x hread => ?_
  · obtain ⟨y, hmissing, hdefault⟩ := hdefault v (h.redundant hmem hgone)
    rw [hmissing, ← Except.ok.inj (hdefault.symm.trans hread)]
  · rwa [h.without_eq_self hmem hstays]
    intro inner path w hredundant
    have hlength := hredundant.length_le
    simp only [List.length_append, List.length_cons, List.length_nil] at hlength
    omega

/-- A setting of which one value is the default, written down next to the setting and in `Redundant`. -/
theorem survives_default {table : String} {format : Format α} {default : α} {get : σ → α}
    (h : Spared [table] gone (.table origin entries)) (v : Toml.Value)
    (hvalue : ∀ w, Redundant [table, name] w → w = v) (hread : format.read v = .ok default) :
    (Record.defaulted name format default get).Survives gone entries :=
  survives_setting h rfl fun w hw => ⟨default, rfl, hvalue w hw ▸ hread⟩

theorem read_bindings {spelling : String} {binding : Binding} (h : Binding.ofText? spelling = some binding) :
    (Format.list Binding.format).read (Toml.Value.array [.text spelling]) = .ok [binding] := by
  have hparse : Binding.parse spelling = .ok binding := by rw [Binding.parse, h]
  have hread : Binding.format.read (Toml.Value.text spelling) = .ok binding := by
    simp [Binding.format, Format.parsed, Format.text, Readable.view, Toml.Value.view, hparse, bind, Except.bind]
  change Format.readItems Binding.format [Toml.Value.text spelling] >>= Format.unlessStopped none = _
  rw [Format.readItems, hread]
  rfl

theorem survives_agent (h : Spared ["agent"] gone (.table origin entries)) :
    LocalAgent.record.Survives gone entries := by
  have hname : (Record.required "name" .text LocalAgent.name).Survives gone entries :=
    survives_setting h rfl (by simp [redundant_iff])
  have hdescription : (Record.defaulted "description" .text "" LocalAgent.description).Survives gone entries :=
    survives_default h (.text "") (by simp [redundant_iff]) rfl
  have hversion : (Record.defaulted "version" .text "1.0.0" LocalAgent.version).Survives gone entries :=
    survives_default h (.text "1.0.0") (by simp [redundant_iff]) rfl
  have hurl : (Record.required "url" .text LocalAgent.url).Survives gone entries :=
    survives_setting h rfl (by simp [redundant_iff])
  have hbindings : (Record.defaulted "bindings" (.list Binding.format) [.jsonRpc] LocalAgent.bindings).Survives
      gone entries := by
    refine survives_setting h rfl fun v hv => ?_
    obtain ⟨spelling, hspelling, rfl⟩ :
        ∃ spelling, Binding.ofText? spelling = some .jsonRpc ∧ v = .array [.text spelling] := by
      simpa [redundant_iff] using hv
    exact ⟨[.jsonRpc], rfl, read_bindings hspelling⟩
  exact ((((hname.map _).seq hdescription).seq hversion).seq hurl).seq hbindings

theorem survives_delegation (h : Spared ["delegation"] gone (.table origin entries)) :
    DelegationSettings.record.Survives gone entries := by
  have htimeout : (Record.defaulted "timeout_secs" .unsigned 60 DelegationSettings.timeoutSeconds).Survives
      gone entries :=
    survives_default h (.integer 60) (by simp [redundant_iff]) rfl
  have hcardTimeout : (Record.defaulted "card_fetch_timeout_secs" .unsigned 10
      DelegationSettings.cardTimeoutSeconds).Survives gone entries :=
    survives_default h (.integer 10) (by simp [redundant_iff]) rfl
  exact (htimeout.map _).seq hcardTimeout

theorem survives_telemetry (h : Spared ["telemetry"] gone (.table origin entries)) :
    TelemetrySettings.record.Survives gone entries := by
  have hserviceName : (Record.defaulted "service_name" .text "a2a-host" TelemetrySettings.serviceName).Survives
      gone entries :=
    survives_default h (.text "a2a-host") (by simp [redundant_iff]) rfl
  have hendpoint : (Record.optional "otlp_endpoint" .text TelemetrySettings.otlpEndpoint).Survives gone entries :=
    survives_setting h rfl (by simp [redundant_iff])
  have hjsonLogs : (Record.defaulted "json_logs" .flag false TelemetrySettings.jsonLogs).Survives gone entries :=
    survives_default h (.flag false) (by simp [redundant_iff]) rfl
  exact ((hserviceName.map _).seq hendpoint).seq hjsonLogs

/-! ### The tables -/

theorem survives_table {record : Record τ τ} {shape : String} {default : τ} {get : σ → τ}
    (h : Spared [] gone (.table origin entries))
    (hdefault : ∀ v, Redundant [name] v → (record.format shape).read v = .ok default)
    (hinside : ∀ {gone origin entries}, Spared [name] gone (.table origin entries) → record.Survives gone entries) :
    (Record.defaulted name (record.format shape) default get).Survives gone entries := by
  refine .field rfl (fun v hmem hgone x hread => ?_) fun v hmem hstays x hread => ?_
  · exact congrArg some (Except.ok.inj ((hdefault v (h.redundant hmem hgone)).symm.trans hread))
  · refine Record.read_format_without (fun origin entries hv => ?_) hread
    subst hv
    exact hinside (h.member hmem)

theorem survives_remoteAgents (h : Spared [] gone (.table origin entries)) :
    (Record.defaulted "remote_agents" (.entries RemoteAgent.format) .empty Settings.remoteAgents).Survives
      gone entries := by
  refine .field rfl (fun v hmem hgone x hread => ?_) fun v hmem hstays x hread => ?_
  · obtain ⟨origin, rfl⟩ : ∃ origin, v = .table origin [] := by
      simpa [redundant_iff] using h.redundant hmem hgone
    exact congrArg some (Except.ok.inj hread)
  · rwa [h.without_eq_self hmem hstays]
    simp [redundant_iff]

theorem survives_settings (h : Spared [] gone (.table origin entries)) :
    Settings.record.Survives gone entries := by
  have hagent : (Record.defaulted "agent" LocalAgent.format defaultAgent Settings.agent).Survives gone entries :=
    survives_table h (fun v hv => by simpa [redundant_iff, LocalAgent.format, defaultAgent, LocalAgent.of] using hv)
      survives_agent
  have hdelegation : (Record.defaulted "delegation" DelegationSettings.format .default
      Settings.delegation).Survives gone entries :=
    survives_table h
      (fun v hv => by simpa [redundant_iff, DelegationSettings.format, DelegationSettings.default] using hv)
      survives_delegation
  have htelemetry : (Record.defaulted "telemetry" TelemetrySettings.format .default
      Settings.telemetry).Survives gone entries :=
    survives_table h
      (fun v hv => by simpa [redundant_iff, TelemetrySettings.format, TelemetrySettings.default] using hv)
      survives_telemetry
  exact (((hagent.map _).seq hdelegation).seq (survives_remoteAgents h)).seq htelemetry

/-- Settings that are read from a document are also read from what is left of it when members that say no
more than the defaults are left out, any number of them at once. So two texts of which one leaves out such
members come to the same, whether the settings are accepted or refused. -/
theorem read_without {document : Toml.Value} {settings : Settings} (hread : format.read document = .ok settings)
    (hgone : ∀ path v, document.Holds path v → gone path = true → Redundant path v) :
    format.read (document.without gone) = .ok settings ∧
    ∀ path cs shorter, Toml.parse? cs = some document → Toml.parse? shorter = some (document.without gone) →
      ofText path cs = settings.checked ∧ ofText path shorter = settings.checked := by
  have hwithout : format.read (document.without gone) = .ok settings := by
    refine Record.read_format_without (fun origin entries hdocument => ?_) hread
    subst hdocument
    exact survives_settings hgone
  refine ⟨hwithout, fun path cs shorter hcs hshorter => ?_⟩
  simp only [ofText, hcs, hshorter, hread, hwithout, true_and]

/-- Settings of which half say no more than the defaults. -/
def spelledOut : Toml.Value := .table .header [
  ("agent", .table .header [("bindings", .array [.text "json-rpc"]), ("description", .text ""),
    ("name", .text "host"), ("url", .text "http://localhost:9000")]),
  ("delegation", .table .header [("timeout_secs", .integer 60)]),
  ("remote_agents", .table .implied [("orders", .table .header [("endpoint", .text "http://orders.test")])]),
  ("telemetry", .table .header [("json_logs", .flag false), ("otlp_endpoint", .text "http://traces.test")])]

def halfSaid : Toml.Value := .table .header [
  ("agent", .table .header [("name", .text "host"), ("url", .text "http://localhost:9000")]),
  ("remote_agents", .table .implied [("orders", .table .header [("endpoint", .text "http://orders.test")])]),
  ("telemetry", .table .header [("otlp_endpoint", .text "http://traces.test")])]

def unsaid : List (List String) :=
  [["agent", "bindings"], ["agent", "description"], ["delegation"], ["telemetry", "json_logs"]]

theorem redundant_unsaid {path : List String} (hpath : spelledOut.Holds path v) (h : path ∈ unsaid) :
    Redundant path v := by
  have hspelling : Binding.ofText? "json-rpc" = some .jsonRpc := by decide +kernel
  simp only [unsaid, List.mem_cons, List.not_mem_nil, or_false] at h
  rcases h with rfl | rfl | rfl | rfl
  · obtain rfl : v = .array [.text "json-rpc"] := by simpa [spelledOut, eq_comm] using hpath
    exact .bindings hspelling
  · obtain rfl : v = .text "" := by simpa [spelledOut, eq_comm] using hpath
    exact .description
  · obtain rfl : v = .table .header [("timeout_secs", .integer 60)] := by simpa [spelledOut, eq_comm] using hpath
    exact .delegation rfl
  · obtain rfl : v = .flag false := by simpa [spelledOut, eq_comm] using hpath
    exact .jsonLogs

theorem read_without_unsaid :
    spelledOut.without (· ∈ unsaid) = halfSaid ∧
    (∀ path v, spelledOut.Holds path v → path ∈ unsaid → Redundant path v) ∧
    ∃ settings, format.read spelledOut = .ok settings ∧ format.read halfSaid = .ok settings ∧
      settings.remoteAgents.names = ["orders"] := by
  have hwithout : spelledOut.without (· ∈ unsaid) = halfSaid := rfl
  have hread : format.read spelledOut
      = .ok ⟨⟨"host", "", "1.0.0", "http://localhost:9000", [.jsonRpc]⟩, ⟨60, 10⟩,
          .ofList [("orders", ⟨"http://orders.test", none⟩)], ⟨"a2a-host", some "http://traces.test", false⟩⟩ := rfl
  have hsame := read_without hread fun path v hpath hgone => redundant_unsaid hpath (of_decide_eq_true hgone)
  rw [hwithout] at hsame
  exact ⟨hwithout, fun _ _ => redundant_unsaid, _, hread, hsame.1, by decide +kernel⟩

end AgentDelegation.Settings
