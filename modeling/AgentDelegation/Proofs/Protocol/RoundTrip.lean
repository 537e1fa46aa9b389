import AgentDelegation.Host.Settings
import AgentDelegation.Proofs.Protocol.Parts
import AgentDelegation.Protocol.Rpc
import AgentDelegation.Protocol.Task

/-!
# Wire types and settings read back

Every type that is both read and written restores what it reads. For each record this follows its
description, field by field; that the fields are enough to make up the record again is seen in the last
line of each proof.
-/

namespace AgentDelegation

open Json Format

variable {arrange : Value → Value}

theorem Binding.parse_name (binding : Binding) : parse binding.name = .ok binding := by
  rw [parse, ofText?_name]

section restored

variable (harrange : Arrangement arrange)
include harrange

/-! ### Messages and tasks -/

theorem Role.restores : Role.format.Restores arrange :=
  restores_variants harrange fun role => by cases role <;> rfl

theorem Message.restores : Message.format.Restores arrange := by
  have htext := restores_text harrange
  refine Record.Lawful.restores harrange
    (Record.Lawful.field (.required (Role.restores harrange)) role
      |>.map mk
      |>.seq (.field (.required ((Part.restores harrange).list harrange)) parts)
      |>.seq (.field (.optional harrange restores_members (by simp)) metadata)
      |>.seq (.field (.defaulted htext (rereads_text harrange "")) messageId)
      |>.seq (.field (.optional harrange htext (by simp)) taskId)
      |>.seq (.field (.optional harrange htext (by simp)) contextId)) (by decide) ?_
  intro role hrole parts hparts metadata hmetadata messageId hmessageId taskId htaskId contextId hcontextId
  exact ⟨⟨⟨⟨⟨⟨hrole, hparts⟩, hmetadata⟩, hmessageId⟩, htaskId⟩, hcontextId⟩, rfl⟩

theorem Artifact.restores : Artifact.format.Restores arrange := by
  have htext := restores_text harrange
  refine Record.Lawful.restores harrange
    (Record.Lawful.field (.defaulted htext (rereads_text harrange "")) artifactId
      |>.map mk
      |>.seq (.field (.optional harrange htext (by simp)) name)
      |>.seq (.field (.optional harrange htext (by simp)) description)
      |>.seq (.field (.defaulted ((Part.restores harrange).list harrange) (rereads_list harrange (by simp))) parts)
      |>.seq (.field (.optional harrange restores_members (by simp)) metadata)) (by decide) ?_
  intro artifactId hartifactId name hname description hdescription parts hparts metadata hmetadata
  exact ⟨⟨⟨⟨⟨hartifactId, hname⟩, hdescription⟩, hparts⟩, hmetadata⟩, rfl⟩

theorem TaskState.restores : TaskState.format.Restores arrange :=
  restores_variants harrange fun state => by cases state <;> rfl

theorem TaskStatus.restores : TaskStatus.format.Restores arrange := by
  refine Record.Lawful.restores harrange
    (Record.Lawful.field (.required (TaskState.restores harrange)) state
      |>.map mk
      |>.seq (.field (.optional harrange (Message.restores harrange) (by simp)) message)
      |>.seq (.field (.optional harrange (restores_text harrange) (by simp)) timestamp)) (by decide) ?_
  intro state hstate message hmessage timestamp htimestamp
  exact ⟨⟨⟨hstate, hmessage⟩, htimestamp⟩, rfl⟩

theorem Task.restores : Task.format.Restores arrange := by
  have htext := restores_text harrange
  refine Record.Lawful.restores harrange
    (Record.Lawful.field (.required htext) id
      |>.map mk
      |>.seq (.field (.optional harrange htext (by simp)) contextId)
      |>.seq (.field (.required (TaskStatus.restores harrange)) status)
      |>.seq (.field (.optional harrange ((Artifact.restores harrange).list harrange) (by simp)) artifacts)
      |>.seq (.field (.optional harrange ((Message.restores harrange).list harrange) (by simp)) history))
    (by decide) ?_
  intro id hid contextId hcontextId status hstatus artifacts hartifacts history hhistory
  exact ⟨⟨⟨⟨⟨hid, hcontextId⟩, hstatus⟩, hartifacts⟩, hhistory⟩, rfl⟩

theorem StatusUpdate.restores : StatusUpdate.format.Restores arrange := by
  have htext := restores_text harrange
  refine Record.Lawful.restores harrange
    (Record.Lawful.field (.required htext) taskId
      |>.map mk
      |>.seq (.field (.optional harrange htext (by simp)) contextId)
      |>.seq (.field (.required (TaskStatus.restores harrange)) status)
      |>.seq (.field (.defaulted (restores_flag harrange) (rereads_flag harrange false)) isFinal)) (by decide) ?_
  intro taskId htaskId contextId hcontextId status hstatus isFinal hfinal
  exact ⟨⟨⟨⟨htaskId, hcontextId⟩, hstatus⟩, hfinal⟩, rfl⟩

theorem ArtifactUpdate.restores : ArtifactUpdate.format.Restores arrange := by
  have htext := restores_text harrange
  have hflag := restores_flag harrange
  refine Record.Lawful.restores harrange
    (Record.Lawful.field (.required htext) taskId
      |>.map mk
      |>.seq (.field (.optional harrange htext (by simp)) contextId)
      |>.seq (.field (.required (Artifact.restores harrange)) artifact)
      |>.seq (.field (.defaulted hflag (rereads_flag harrange false)) append)
      |>.seq (.field (.defaulted hflag (rereads_flag harrange false)) lastChunk)) (by decide) ?_
  intro taskId htaskId contextId hcontextId artifact hartifact append happend lastChunk hlast
  exact ⟨⟨⟨⟨⟨htaskId, hcontextId⟩, hartifact⟩, happend⟩, hlast⟩, rfl⟩

/-! ### Remote procedure calls -/

theorem RpcRequest.restores : RpcRequest.format.Restores arrange := by
  have htext := restores_text harrange
  refine Record.Lawful.restores harrange
    (Record.Lawful.field (.required htext) jsonrpc
      |>.map mk
      |>.seq (.field (.required htext) method)
      |>.seq (.field (.nullable harrange restores_any (by simp)) params)
      |>.seq (.field (.nullable harrange restores_any (by simp)) id)) (by decide) ?_
  intro jsonrpc hjsonrpc method hmethod params hparams id hid
  exact ⟨⟨⟨⟨hjsonrpc, hmethod⟩, hparams⟩, hid⟩, rfl⟩

theorem RpcError.restores : RpcError.format.Restores arrange := by
  refine Record.Lawful.restores harrange
    (Record.Lawful.field (.required (restores_signed harrange)) code
      |>.map mk
      |>.seq (.field (.required (restores_text harrange)) message)
      |>.seq (.field (.optional harrange restores_any (by simp)) data)) (by decide) ?_
  intro code hcode message hmessage data hdata
  exact ⟨⟨⟨hcode, hmessage⟩, hdata⟩, rfl⟩

theorem RpcResponse.restores : RpcResponse.format.Restores arrange := by
  refine Record.Lawful.restores harrange
    (Record.Lawful.field (.defaulted (restores_text harrange) (rereads_text harrange "")) jsonrpc
      |>.map mk
      |>.seq (.field (.optional harrange restores_any (by simp)) result)
      |>.seq (.field (.optional harrange (RpcError.restores harrange) (by simp)) error)
      |>.seq (.field (.nullable harrange restores_any (by simp)) id)) (by decide) ?_
  intro jsonrpc hjsonrpc result hresult error herror id hid
  exact ⟨⟨⟨⟨hjsonrpc, hresult⟩, herror⟩, hid⟩, rfl⟩

theorem SendConfiguration.restores : SendConfiguration.format.Restores arrange := by
  refine Record.Lawful.restores harrange
    (Record.Lawful.field (.required ((restores_text harrange).list harrange)) acceptedOutputModes
      |>.map mk
      |>.seq (.field (.optional harrange (restores_flag harrange) (by simp)) blocking)) (by decide) ?_
  intro acceptedOutputModes hmodes blocking hblocking
  exact ⟨⟨hmodes, hblocking⟩, rfl⟩

theorem SendParams.restores : SendParams.format.Restores arrange := by
  refine Record.Lawful.restores harrange
    (Record.Lawful.field (.required (Message.restores harrange)) message
      |>.map mk
      |>.seq (.field (.optional harrange (SendConfiguration.restores harrange) (by simp)) configuration))
    (by decide) ?_
  intro message hmessage configuration hconfiguration
  exact ⟨⟨hmessage, hconfiguration⟩, rfl⟩

/-! ### Cards and skills -/

theorem AgentInterface.restores : AgentInterface.format.Restores arrange := by
  have htext := restores_text harrange
  refine Record.Lawful.restores harrange
    (Record.Lawful.field (.required htext) url
      |>.map mk
      |>.seq (.field (.required htext) binding)) (by decide) ?_
  intro url hurl binding hbinding
  exact ⟨⟨hurl, hbinding⟩, rfl⟩

theorem restores_texts : texts.Restores arrange := (restores_text harrange).list harrange

theorem rereads_no_texts : texts.Rereads arrange [] := rereads_list harrange (by simp)

theorem AgentSkill.restores : AgentSkill.format.Restores arrange := by
  have htext := restores_text harrange
  refine Record.Lawful.restores harrange
    (Record.Lawful.field (.required htext) id
      |>.map mk
      |>.seq (.field (.required htext) name)
      |>.seq (.field (.defaulted htext (rereads_text harrange "")) description)
      |>.seq (.field (.defaulted (restores_texts harrange) (rereads_no_texts harrange)) tags)
      |>.seq (.field (.listed harrange htext) examples)
      |>.seq (.field (.listed harrange htext) inputModes)
      |>.seq (.field (.listed harrange htext) outputModes)) (by decide) ?_
  intro id hid name hname description hdescription tags htags examples hexamples inputModes hinput
    outputModes houtput
  exact ⟨⟨⟨⟨⟨⟨⟨hid, hname⟩, hdescription⟩, htags⟩, hexamples⟩, hinput⟩, houtput⟩, rfl⟩

theorem Capabilities.restores : Capabilities.format.Restores arrange := by
  have hflag := restores_flag harrange
  have hno := rereads_flag harrange false
  refine Record.Lawful.restores harrange
    (Record.Lawful.field (.defaulted hflag hno) streaming
      |>.map mk
      |>.seq (.field (.defaulted hflag hno) pushNotifications)
      |>.seq (.field (.defaulted hflag hno) stateTransitionHistory)) (by decide) ?_
  intro streaming hstreaming pushNotifications hpush stateTransitionHistory hhistory
  exact ⟨⟨⟨hstreaming, hpush⟩, hhistory⟩, rfl⟩

theorem AgentCard.restores : AgentCard.format.Restores arrange := by
  have htext := restores_text harrange
  have hempty := rereads_text harrange ""
  have htexts := restores_texts harrange
  have hno := rereads_no_texts harrange
  have hinterface := AgentInterface.restores harrange
  have hcapabilities := Capabilities.restores harrange
  refine Record.Lawful.restores harrange
    (Record.Lawful.field (.required htext) name
      |>.map mk
      |>.seq (.field (.defaulted htext hempty) description)
      |>.seq (.field (.defaulted htext hempty) version)
      |>.seq (.field (.optional harrange htext (by simp)) protocolVersion)
      |>.seq (.field (.listed harrange hinterface) supportedInterfaces)
      |>.seq (.field (.optional harrange htext (by simp)) url)
      |>.seq (.field (.optional harrange htext (by simp)) preferredTransport)
      |>.seq (.field (.listed harrange hinterface) additionalInterfaces)
      |>.seq (.field (.defaulted hcapabilities (hcapabilities.rereads harrange.empty rfl)) capabilities)
      |>.seq (.field (.defaulted htexts hno) defaultInputModes)
      |>.seq (.field (.defaulted htexts hno) defaultOutputModes)
      |>.seq (.field (.defaulted ((AgentSkill.restores harrange).list harrange) (rereads_list harrange (by simp)))
        skills)) (by decide) ?_
  intro name hname description hdescription version hversion protocolVersion hprotocol supportedInterfaces
    hsupported url hurl preferredTransport hpreferred additionalInterfaces hadditional capabilities hable
    inputModes hinput outputModes houtput skills hskills
  exact ⟨⟨⟨⟨⟨⟨⟨⟨⟨⟨⟨⟨hname, hdescription⟩, hversion⟩, hprotocol⟩, hsupported⟩, hurl⟩, hpreferred⟩, hadditional⟩,
    hable⟩, hinput⟩, houtput⟩, hskills⟩, rfl⟩

theorem SkillDescriptor.restores : SkillDescriptor.format.Restores arrange := by
  have htext := restores_text harrange
  have htexts := restores_texts harrange
  have hno := rereads_no_texts harrange
  refine Record.Lawful.restores harrange
    (Record.Lawful.field (.required htext) id
      |>.map mk
      |>.seq (.field (.required htext) name)
      |>.seq (.field (.defaulted htext (rereads_text harrange "")) description)
      |>.seq (.field (.defaulted htexts hno) inputModes)
      |>.seq (.field (.defaulted htexts hno) outputModes)
      |>.seq (.field (.defaulted htexts hno) tags)
      |>.seq (.field (.defaulted htexts hno) examples)
      |>.seq (.field (.optional harrange restores_any (by simp)) inputSchema)) (by decide) ?_
  intro id hid name hname description hdescription inputModes hinput outputModes houtput tags htags examples
    hexamples inputSchema hschema
  exact ⟨⟨⟨⟨⟨⟨⟨⟨hid, hname⟩, hdescription⟩, hinput⟩, houtput⟩, htags⟩, hexamples⟩, hschema⟩, rfl⟩

/-! ### Settings -/

theorem Binding.restores : Binding.format.Restores arrange := restores_parsed harrange Binding.parse_name

theorem Binding.rereads (binding : Binding) : Binding.format.Rereads arrange binding :=
  rereads_parsed harrange Binding.parse_name binding

theorem LocalAgent.restores : LocalAgent.format.Restores arrange := by
  have htext := restores_text harrange
  refine Record.Lawful.restores harrange
    (Record.Lawful.field (.required htext) name
      |>.map mk
      |>.seq (.field (.defaulted htext (rereads_text harrange "")) description)
      |>.seq (.field (.defaulted htext (rereads_text harrange "1.0.0")) version)
      |>.seq (.field (.required htext) url)
      |>.seq (.field (.defaulted ((Binding.restores harrange).list harrange)
        (rereads_list harrange fun binding _ => Binding.rereads harrange binding)) bindings)) (by decide) ?_
  intro name hname description hdescription version hversion url hurl bindings hbindings
  exact ⟨⟨⟨⟨⟨hname, hdescription⟩, hversion⟩, hurl⟩, hbindings⟩, rfl⟩

theorem RemoteAgent.restores : RemoteAgent.format.Restores arrange := by
  have htext := restores_text harrange
  refine Record.Lawful.restores harrange
    (Record.Lawful.field (.required htext) endpoint
      |>.map mk
      |>.seq (.field (.optional harrange htext (by simp)) healthUrl)) (by decide) ?_
  intro endpoint hendpoint healthUrl hhealth
  exact ⟨⟨hendpoint, hhealth⟩, rfl⟩

theorem DelegationSettings.restores : DelegationSettings.format.Restores arrange := by
  have hunsigned := restores_unsigned harrange
  refine Record.Lawful.restores harrange
    (Record.Lawful.field (.defaulted hunsigned (rereads_unsigned harrange (by decide))) timeoutSeconds
      |>.map mk
      |>.seq (.field (.defaulted hunsigned (rereads_unsigned harrange (by decide))) cardTimeoutSeconds))
    (by decide) ?_
  intro timeoutSeconds htimeout cardTimeoutSeconds hcard
  exact ⟨⟨htimeout, hcard⟩, rfl⟩

theorem TelemetrySettings.restores : TelemetrySettings.format.Restores arrange := by
  have htext := restores_text harrange
  refine Record.Lawful.restores harrange
    (Record.Lawful.field (.defaulted htext (rereads_text harrange "a2a-host")) serviceName
      |>.map mk
      |>.seq (.field (.optional harrange htext (by simp)) otlpEndpoint)
      |>.seq (.field (.defaulted (restores_flag harrange) (rereads_flag harrange false)) jsonLogs)) (by decide) ?_
  intro serviceName hname otlpEndpoint hendpoint jsonLogs hlogs
  exact ⟨⟨⟨hname, hendpoint⟩, hlogs⟩, rfl⟩

theorem rereads_defaultAgent : LocalAgent.format.Rereads arrange Settings.defaultAgent := by
  have harranged : arrange (.obj [("name", .str "a2a-host"), ("url", .str "http://localhost:8080")])
      = .obj [("name", .str "a2a-host"), ("url", .str "http://localhost:8080")] := by
    have hordered : Entries.Ordered
        [("name", Value.str "a2a-host"), ("url", Value.str "http://localhost:8080")] := by
      rw [Entries.Ordered]
      decide +kernel
    rw [harrange.ordered hordered]
    simp [harrange.str]
  exact (LocalAgent.restores harrange).rereads harranged rfl

theorem Settings.restores : Settings.format.Restores arrange := by
  have hdelegation := DelegationSettings.restores harrange
  have hagents := (RemoteAgent.restores harrange).entries harrange
  have htelemetry := TelemetrySettings.restores harrange
  refine Record.Lawful.restores harrange
    (Record.Lawful.field (.defaulted (LocalAgent.restores harrange) (rereads_defaultAgent harrange)) agent
      |>.map mk
      |>.seq (.field (.defaulted hdelegation (hdelegation.rereads harrange.empty rfl)) delegation)
      |>.seq (.field (.defaulted hagents (hagents.rereads harrange.empty rfl)) remoteAgents)
      |>.seq (.field (.defaulted htelemetry (htelemetry.rereads harrange.empty rfl)) telemetry)) (by decide) ?_
  intro agent hagent delegation hdelegation remoteAgents hagents telemetry htelemetry
  exact ⟨⟨⟨⟨hagent, hdelegation⟩, hagents⟩, htelemetry⟩, rfl⟩

end restored

/-! ### As it stands and in name order -/

/-- What is read is written in a form that reads as exactly the same, as it stands and, if all that was read
has its members in name order, in name order too. -/
def Json.Format.Faithful {α : Type} (format : Format α) : Prop :=
  ∀ v x, format.readValue v = .ok x →
    format.readValue (format.write x) = .ok x ∧
      (v.settled = v → format.readValue (format.write x).settled = .ok x)

theorem Json.Format.faithful_of_restores {α : Type} {format : Format α}
    (h : ∀ arrange, Arrangement arrange → format.Restores arrange) : format.Faithful := by
  intro v x hread
  constructor
  · exact (h id .of_id).rereads rfl hread
  · intro hsettled
    exact (h Value.settled .of_settled).rereads hsettled hread

/-- Whatever is read as one of the wire types or as settings, in any of the spellings and shapes that are
accepted, is written so that it reads as the same again. -/
theorem wire_types_and_settings_read_back :
    Role.format.Faithful ∧ FileContent.format.Faithful ∧ Part.format.Faithful ∧ Message.format.Faithful ∧
    Artifact.format.Faithful ∧ TaskState.format.Faithful ∧ TaskStatus.format.Faithful ∧ Task.format.Faithful ∧
    StatusUpdate.format.Faithful ∧ ArtifactUpdate.format.Faithful ∧ AgentInterface.format.Faithful ∧
    AgentSkill.format.Faithful ∧ Capabilities.format.Faithful ∧ AgentCard.format.Faithful ∧
    RpcRequest.format.Faithful ∧ RpcResponse.format.Faithful ∧ RpcError.format.Faithful ∧
    SendParams.format.Faithful ∧ SendConfiguration.format.Faithful ∧ SkillDescriptor.format.Faithful ∧
    LocalAgent.format.Faithful ∧ RemoteAgent.format.Faithful ∧ Settings.format.Faithful ∧
    Binding.format.Faithful :=
  ⟨faithful_of_restores fun _ => Role.restores, faithful_of_restores fun _ => FileContent.restores,
    faithful_of_restores fun _ => Part.restores, faithful_of_restores fun _ => Message.restores,
    faithful_of_restores fun _ => Artifact.restores, faithful_of_restores fun _ => TaskState.restores,
    faithful_of_restores fun _ => TaskStatus.restores, faithful_of_restores fun _ => Task.restores,
    faithful_of_restores fun _ => StatusUpdate.restores, faithful_of_restores fun _ => ArtifactUpdate.restores,
    faithful_of_restores fun _ => AgentInterface.restores, faithful_of_restores fun _ => AgentSkill.restores,
    faithful_of_restores fun _ => Capabilities.restores, faithful_of_restores fun _ => AgentCard.restores,
    faithful_of_restores fun _ => RpcRequest.restores, faithful_of_restores fun _ => RpcResponse.restores,
    faithful_of_restores fun _ => RpcError.restores, faithful_of_restores fun _ => SendParams.restores,
    faithful_of_restores fun _ => SendConfiguration.restores,
    faithful_of_restores fun _ => SkillDescriptor.restores, faithful_of_restores fun _ => LocalAgent.restores,
    faithful_of_restores fun _ => RemoteAgent.restores, faithful_of_restores fun _ => Settings.restores,
    faithful_of_restores fun _ => Binding.restores⟩

/-- A message in the array form, its role in the newer spelling, with a part of each sort. -/
def listedMessage : Value :=
  .arr [.str "ROLE_AGENT",
    .arr [.obj [("text", .str "hello"), ("type", .str "greeting")],
      .obj [("file", .arr [.null, .str "image/png", .null, .null]), ("metadata", .null)],
      .obj [("data", .null), ("metadata", .obj [("n", .ofNat 1)])], .obj [("text", .ofNat 2)]],
    .null, .str "m"]

theorem listedMessage_restored :
    ∃ message, Message.format.readValue listedMessage = .ok message ∧
      Message.format.readValue (Message.format.write message) = .ok message ∧
      Message.format.readValue (Message.format.write message).settled = .ok message ∧
      message.parts = [.text "hello" none, .file ⟨none, some "image/png", none, none⟩ none,
        .data .null (some [("n", .ofNat 1)]), .other [("text", .ofNat 2)]] := by
  have hread : Message.format.readValue listedMessage
      = .ok ⟨.agent, [.text "hello" none, .file ⟨none, some "image/png", none, none⟩ none,
        .data .null (some [("n", .ofNat 1)]), .other [("text", .ofNat 2)]], none, "m", none, none⟩ := rfl
  obtain ⟨-, -, -, hmessage, -⟩ := wire_types_and_settings_read_back
  obtain ⟨hstanding, hordered⟩ := hmessage _ _ hread
  exact ⟨_, hread, hstanding, hordered rfl, rfl⟩

end AgentDelegation
