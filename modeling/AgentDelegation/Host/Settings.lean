import AgentDelegation.Directory.Basic
import AgentDelegation.Duration
import AgentDelegation.Skill.LocalAgent

/-!
# Settings of the host

What a settings file says: how the local agent presents itself, how long things may take, where remote
agents are, and what is logged. Everything has a default, so an empty file is a valid one.
-/

namespace AgentDelegation

open Json

structure DelegationSettings where
  timeoutSeconds : Nat
  cardTimeoutSeconds : Nat
deriving DecidableEq, Repr, Inhabited

namespace DelegationSettings

def default : DelegationSettings := ⟨60, 10⟩

def record : Record DelegationSettings DelegationSettings :=
  mk <$> .defaulted "timeout_secs" .unsigned 60 timeoutSeconds
    <*> .defaulted "card_fetch_timeout_secs" .unsigned 10 cardTimeoutSeconds

def format : Format DelegationSettings := record.format "DelegationConfig"

def timeout (settings : DelegationSettings) : Duration := .ofSeconds settings.timeoutSeconds

def cardTimeout (settings : DelegationSettings) : Duration := .ofSeconds settings.cardTimeoutSeconds

end DelegationSettings

inductive LogFormat where
  | text
  | json
deriving DecidableEq, Repr, Inhabited

structure TelemetrySettings where
  serviceName : String
  otlpEndpoint : Option String
  jsonLogs : Bool
deriving DecidableEq, Repr, Inhabited

namespace TelemetrySettings

def default : TelemetrySettings := ⟨"a2a-host", none, false⟩

def record : Record TelemetrySettings TelemetrySettings :=
  mk <$> .defaulted "service_name" .text "a2a-host" serviceName
    <*> .optional "otlp_endpoint" .text otlpEndpoint
    <*> .defaulted "json_logs" .flag false jsonLogs

def format : Format TelemetrySettings := record.format "TelemetryConfig"

def logFormat (settings : TelemetrySettings) : LogFormat := if settings.jsonLogs then .json else .text

end TelemetrySettings

structure Settings where
  agent : LocalAgent
  delegation : DelegationSettings
  remoteAgents : NameMap RemoteAgent
  telemetry : TelemetrySettings
deriving DecidableEq, Inhabited

/-- What can be wrong with settings that can be read. -/
inductive SettingsFault where
  | zeroTimeout
  | zeroCardTimeout
  | blankEndpoint (agent : String)
  | noBindings
deriving DecidableEq, Repr, Inhabited

namespace SettingsFault

def message : SettingsFault → String
  | .zeroTimeout => "delegation.timeout_secs must be greater than zero"
  | .zeroCardTimeout => "delegation.card_fetch_timeout_secs must be greater than zero"
  | .blankEndpoint agent => "remote_agents." ++ agent ++ ".endpoint must not be empty"
  | .noBindings => "agent.bindings must list at least one binding"

end SettingsFault

/-- Why no settings could be had from a file. -/
inductive SettingsFailure where
  | unreadable (path details : String)
  | malformed (path details : String)
  | invalid (fault : SettingsFault)
deriving DecidableEq, Repr, Inhabited

namespace SettingsFailure

def message : SettingsFailure → String
  | .unreadable path details => "failed to read " ++ path ++ ": " ++ details
  | .malformed path details => "invalid TOML in " ++ path ++ ": " ++ details
  | .invalid fault => "invalid configuration: " ++ fault.message

end SettingsFailure

namespace Settings

/-- The agent that presents itself where no other is configured. -/
def defaultAgent : LocalAgent := .of "a2a-host" "http://localhost:8080"

def default : Settings := ⟨defaultAgent, .default, .empty, .default⟩

def record : Record Settings Settings :=
  mk <$> .defaulted "agent" LocalAgent.format defaultAgent agent
    <*> .defaulted "delegation" DelegationSettings.format .default delegation
    <*> .defaulted "remote_agents" (.entries RemoteAgent.format) .empty remoteAgents
    <*> .defaulted "telemetry" TelemetrySettings.format .default telemetry

def format : Format Settings := record.format "HostConfig"

/-- The first remote agent, in name order, whose endpoint is blank. -/
def blankEndpoint? (settings : Settings) : Option String :=
  (settings.remoteAgents.entries.find? fun (_, agent) => Text.allBlank agent.endpoint).map (·.1)

/-- What is wrong with the settings, the first of several. -/
def fault? (settings : Settings) : Option SettingsFault :=
  if settings.delegation.timeoutSeconds = 0 then some .zeroTimeout
  else if settings.delegation.cardTimeoutSeconds = 0 then some .zeroCardTimeout
  else
    match settings.blankEndpoint? with
    | some agent => some (.blankEndpoint agent)
    | none => if settings.agent.bindings.isEmpty then some .noBindings else none

end Settings

end AgentDelegation
