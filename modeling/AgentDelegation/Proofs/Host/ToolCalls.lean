import AgentDelegation.Host.Tools
import AgentDelegation.Proofs.Delegation.Routing
import AgentDelegation.Proofs.Json.Fields
import AgentDelegation.Proofs.Skill.Views

/-!
# Calls of the delegation skill

A call fails only on its arguments: those that name an agent and a task are sent on, in one delegation, and
its outcome comes back as a text (`Sends`). Which text it is depends on whether the agent is in the
directory, since a delegation to an agent that is never fails on its name (`outcome_ne_unknown`). The skill
stays what it is once it is registered: later calls of the registry neither move nor replace it.
-/

namespace AgentDelegation

open Json

/-! ### Arguments -/

namespace SendArguments

def IsText (v : Value) (s : String) : Prop := v = .str s

/-- What says whom to send to and what: an object that says each once, or a row of the two. -/
inductive Given : Value → SendArguments → Prop where
  | object {members : Members} {arguments : SendArguments}
      (agent : Says "agentName" IsText none members arguments.agent)
      (task : Says "task" IsText none members arguments.task) : Given (.obj members) arguments
  | row (agent task : String) : Given (.arr [.str agent, .str task]) ⟨agent, task⟩

theorem read_text_iff {v : Value} {s : String} : Format.text.read v = .ok s ↔ IsText v s := by
  cases v <;> simp [IsText, Format.text, Readable.view, Value.view]

theorem readMembers_iff {members : Members} {arguments : SendArguments} :
    record.readMembers members = .ok arguments
      ↔ Says "agentName" IsText none members arguments.agent ∧
        Says "task" IsText none members arguments.task := by
  have hagent (s : String) : (Record.required "agentName" .text agent).readMembers members = .ok s
      ↔ Says "agentName" IsText none members s :=
    Record.readMembers_field_eq_ok_iff rfl fun _ _ => read_text_iff
  have htask (s : String) : (Record.required "task" .text task).readMembers members = .ok s
      ↔ Says "task" IsText none members s :=
    Record.readMembers_field_eq_ok_iff rfl fun _ _ => read_text_iff
  simp only [record, Record.readMembers_seq_eq_ok_iff, Record.readMembers_map_eq_ok_iff, hagent, htask]
  constructor
  · rintro ⟨_, _, ⟨_, h₁, rfl⟩, h₂, rfl⟩
    exact ⟨h₁, h₂⟩
  · rintro ⟨h₁, h₂⟩
    exact ⟨_, _, ⟨_, h₁, rfl⟩, h₂, rfl⟩

theorem readRow_iff {shape : String} {row last : Row Value} {arguments : SendArguments} :
    record.readRow shape row = .ok (arguments, last)
      ↔ ∃ rest, row.items = .str arguments.agent :: .str arguments.task :: rest ∧
        last = ⟨rest, row.place + 2, row.stop⟩ := by
  have hagent (row last : Row Value) (s : String) :
      (Record.required "agentName" .text agent).readRow shape row = .ok (s, last)
        ↔ ∃ n rest, row.items = n :: rest ∧ IsText n s ∧ last = ⟨rest, row.place + 1, row.stop⟩ :=
    Record.readRow_field_eq_ok_iff rfl fun _ _ => read_text_iff
  have htask (row last : Row Value) (s : String) :
      (Record.required "task" .text task).readRow shape row = .ok (s, last)
        ↔ ∃ n rest, row.items = n :: rest ∧ IsText n s ∧ last = ⟨rest, row.place + 1, row.stop⟩ :=
    Record.readRow_field_eq_ok_iff rfl fun _ _ => read_text_iff
  simp only [record, Record.readRow_seq_eq_ok_iff, Record.readRow_map_eq_ok_iff, hagent, htask]
  constructor
  · rintro ⟨_, _, _, ⟨_, ⟨_, _, hitems, rfl, rfl⟩, rfl⟩, ⟨_, rest, rfl, rfl, rfl⟩, rfl⟩
    exact ⟨rest, hitems, rfl⟩
  · rintro ⟨rest, hitems, rfl⟩
    exact ⟨_, _, _, ⟨_, ⟨_, _, hitems, rfl, rfl⟩, rfl⟩, ⟨_, rest, rfl, rfl, rfl⟩, rfl⟩

theorem read_row_iff {items : List Value} {arguments : SendArguments} :
    format.readValue (.arr items) = .ok arguments ↔ Given (.arr items) arguments := by
  change record.readArray _ items none (some _) = .ok arguments ↔ _
  simp only [Record.readArray_eq_ok_iff, readRow_iff]
  constructor
  · rintro ⟨_, ⟨rest, rfl, rfl⟩, hend⟩
    cases rest with
    | nil => exact .row arguments.agent arguments.task
    | cons => cases hend
  · rintro (- | ⟨agent, task⟩)
    exact ⟨_, ⟨[], rfl, rfl⟩, rfl⟩

theorem read_iff {args : Value} {arguments : SendArguments} :
    format.readValue args = .ok arguments ↔ Given args arguments := by
  cases args with
  | arr items => exact read_row_iff
  | obj members =>
      have hread : format.readValue (.obj members) = record.readObject members none := rfl
      rw [hread, Record.readObject_eq_ok_iff, readMembers_iff]
      constructor
      · rintro ⟨⟨hagent, htask⟩, -⟩
        exact .object hagent htask
      · rintro (⟨hagent, htask⟩ | -)
        exact ⟨⟨hagent, htask⟩, fun _ _ _ => rfl, rfl⟩
  | _ =>
      constructor <;> intro h <;> cases h

end SendArguments

/-! ### Outcomes -/

namespace Settlement

theorem Decides.ne_unknown {agent : String} {move : Move} {outcome : Outcome} (h : Decides agent move outcome)
    (name : String) (known : List String) : outcome ≠ .error (.unknownAgent name known) := by
  cases h <;> nofun

/-- However a wait ends, its outcome is a decision. -/
theorem await_run_ne_unknown (agent : String) (moves : List Move) (timeout : Duration) (name : String)
    (known : List String) : (start.run agent moves).await agent timeout ≠ .error (.unknownAgent name known) := by
  have hfirst : FirstDecision agent _ ((start.run agent moves).await agent timeout) :=
    firstDecision_await moves timeout
  obtain ⟨_, _, _, -, hdecides, -⟩ := hfirst
  exact hdecides.ne_unknown name known

end Settlement

namespace Delegator

open Settlement Happening

variable {delegator : Delegator} {agent : String}

theorem exists_run_exchange (agent : String) (transport : Transport) (millis : Nat) (message : Message) :
    ∃ moves, (exchange agent transport millis message).2.settlement = start.run agent moves := by
  rw [exchange]
  split
  · exact ⟨[], rfl⟩
  · split
    · exact ⟨[.disconnect _], rfl⟩
    · exact ⟨_, settlement_watch start 0 millis _⟩

theorem route_ne_unknown {card : AgentCard} (hcard : delegator.directory.get? agent = some card) (name : String)
    (known : List String) : delegator.route agent ≠ .error (.unknownAgent name known) := by
  intro h
  simp only [route, hcard] at h
  split at h
  · cases h
  · split at h
    · cases h
    · split at h <;> cases h

theorem outcome_of_unknown (hunknown : delegator.directory.get? agent = none) (id task : String) :
    (delegator.delegate id agent task).outcome = .error (.unknownAgent agent delegator.directory.names) := by
  rw [delegate_of_route_error (route_of_unknown hunknown)]

theorem outcome_ne_unknown {card : AgentCard} (hcard : delegator.directory.get? agent = some card)
    (id task name : String) (known : List String) :
    (delegator.delegate id agent task).outcome ≠ .error (.unknownAgent name known) := by
  cases hroute : delegator.route agent with
  | error failure =>
      rw [delegate_of_route_error hroute]
      intro hsame
      exact route_ne_unknown hcard name known (hroute.trans (congrArg _ (Except.error.inj hsame)))
  | ok route =>
      cases hconnect : route.connector.connect route.card route.url with
      | error failure =>
          rw [delegate_of_refused hroute hconnect]
          nofun
      | ok transport =>
          obtain ⟨moves, hmoves⟩ :=
            exists_run_exchange agent transport delegator.timeout.ticks (.ofUser id task)
          rw [outcome_delegate hroute hconnect, hmoves]
          exact await_run_ne_unknown agent moves delegator.timeout name known

/-- The text that comes back for the outcome of a delegation. -/
inductive Answers (directory : Directory) (agent : String) : Outcome → String → Prop where
  | answer (text : String) : Answers directory agent (.ok text) text
  | unknown (hunknown : directory.get? agent = none) :
      Answers directory agent (.error (.unknownAgent agent directory.names))
        (DelegationFailure.unknownAgent agent directory.names).message
  | failure {failure : DelegationFailure} (hknown : directory.get? agent ≠ none)
      (hother : ∀ name known, failure ≠ .unknownAgent name known) :
      Answers directory agent (.error failure)
        ("Error communicating with agent '" ++ agent ++ "': " ++ failure.message)

theorem Answers.eq_reply {directory : Directory} {outcome : Outcome} {text : String}
    (h : Answers directory agent outcome text) : text = reply agent outcome := by
  cases h with
  | answer | unknown => rfl
  | @failure failure _ hother =>
      cases failure with
      | unknownAgent name known => exact absurd rfl (hother name known)
      | _ => rfl

theorem answers_reply (delegator : Delegator) (id agent task : String) :
    Answers delegator.directory agent (delegator.delegate id agent task).outcome
      (reply agent (delegator.delegate id agent task).outcome) := by
  cases hcard : delegator.directory.get? agent with
  | none =>
      rw [outcome_of_unknown hcard]
      exact .unknown hcard
  | some card =>
      have hother := outcome_ne_unknown hcard id task
      cases houtcome : (delegator.delegate id agent task).outcome with
      | ok text => exact .answer text
      | error failure =>
          rw [houtcome] at hother
          have hfailure : ∀ name known, failure ≠ .unknownAgent name known := fun name known hsame =>
            hother name known (congrArg _ hsame)
          cases failure with
          | unknownAgent name known => exact absurd rfl (hfailure name known)
          | _ => exact .failure (by simp [hcard]) hfailure

/-! ### Calls -/

/-- What an action does that delegates whatever it is asked to. -/
structure Sends (delegator : Delegator) (action : SkillAction) : Prop where
  fails_iff : ∀ id args, (∃ failure, (action id args).result = .error failure)
    ↔ ∀ arguments, ¬ SendArguments.Given args arguments
  refuses : ∀ id args, (∀ arguments, ¬ SendArguments.Given args arguments) →
    ∃ fault, SendArguments.format.readValue args = .error fault ∧
      action id args = ⟨[], .error (.action "send_message" ("invalid arguments: " ++ fault.message))⟩
  answers : ∀ id args arguments, SendArguments.Given args arguments → ∃ text,
    action id args = ⟨[delegator.delegate id arguments.agent arguments.task], .ok (.str text)⟩ ∧
      Answers delegator.directory arguments.agent
        (delegator.delegate id arguments.agent arguments.task).outcome text

theorem sendMessageAction_of_error (delegator : Delegator) (id : String) {args : Value} {fault : Fault}
    (hread : SendArguments.format.readValue args = .error fault) :
    delegator.sendMessageAction id args
      = ⟨[], .error (.action "send_message" ("invalid arguments: " ++ fault.message))⟩ := by
  simp only [sendMessageAction, readArguments, hread]
  rfl

theorem sendMessageAction_of_ok (delegator : Delegator) (id : String) {args : Value} {arguments : SendArguments}
    (hread : SendArguments.format.readValue args = .ok arguments) :
    delegator.sendMessageAction id args
      = ⟨[delegator.delegate id arguments.agent arguments.task],
          .ok (.str (reply arguments.agent (delegator.delegate id arguments.agent arguments.task).outcome))⟩ := by
  simp only [sendMessageAction, readArguments, hread]

theorem sends_sendMessageAction (delegator : Delegator) : Sends delegator delegator.sendMessageAction where
  fails_iff id args := by
    cases hread : SendArguments.format.readValue args with
    | ok arguments =>
        rw [sendMessageAction_of_ok delegator id hread]
        exact ⟨nofun, fun hnone => absurd (SendArguments.read_iff.mp hread) (hnone arguments)⟩
    | error fault =>
        rw [sendMessageAction_of_error delegator id hread]
        refine ⟨fun _ arguments hgiven => ?_, fun _ => ⟨_, rfl⟩⟩
        rw [SendArguments.read_iff.mpr hgiven] at hread
        cases hread
  refuses id args hnone := by
    cases hread : SendArguments.format.readValue args with
    | ok arguments => exact absurd (SendArguments.read_iff.mp hread) (hnone arguments)
    | error fault => exact ⟨fault, rfl, sendMessageAction_of_error delegator id hread⟩
  answers id args arguments hgiven :=
    ⟨_, sendMessageAction_of_ok delegator id (SendArguments.read_iff.mpr hgiven),
      answers_reply delegator id arguments.agent arguments.task⟩

end Delegator

/-! ### The entry of the table -/

namespace SkillRegistry

variable {α : Type} {registry : SkillRegistry α} {skill : Skill α}

theorem mem_skills_offer (h : skill ∈ registry.skills) (other : Skill α) :
    skill ∈ (registry.offer other).skills := by
  cases hreply : registry.reply other with
  | none =>
      rw [skills_offer_of_accepted hreply]
      exact List.mem_append_left _ h
  | some failure => rwa [offer_of_refused hreply]

/-- What is registered stays registered. -/
theorem mem_skills_after (h : skill ∈ registry.skills) (calls : List (Skill α)) :
    skill ∈ (registry.after calls).skills := by
  induction calls generalizing registry with
  | nil => exact h
  | cons call rest ih => exact ih (mem_skills_offer h call)

end SkillRegistry

namespace Delegator

open SkillRegistry

theorem labelled_sendMessageSkill {α : Type} (action : α) : (Skill.mk sendMessageSkill action).Labelled := by
  have hname : ¬ Text.Blank sendMessageName := by decide +kernel
  exact ⟨hname, hname⟩

/-- Nobody registers the skill a second time. -/
theorem registerInto_of_mem {α : Type} {registry : SkillRegistry α} {action : α}
    (h : ⟨sendMessageSkill, action⟩ ∈ registry.skills) (other : α) :
    registerInto registry other = .error (.duplicate .id "send_message") ∧
      registry.offer ⟨sendMessageSkill, other⟩ = registry := by
  have hreply : registry.reply ⟨sendMessageSkill, other⟩ = some (.duplicate .id "send_message") :=
    verdict_iff.mp (.takenId (labelled_sendMessageSkill other) ⟨_, h, rfl⟩)
  exact ⟨register_eq_error_iff.mpr ((reply_eq registry _).symm.trans hreply), offer_of_refused hreply⟩

/-- Once the delegation skill is registered, the table has it under its name, whatever is registered after
it. It fails on arguments that do not say whom to send to and what, and then nothing is delegated; on all
others it makes one delegation, the one asked for, and returns a text. To register it again, for the same
delegator or for another, is refused and leaves the registry as it is. -/
theorem send_message_stays {registry registered : SkillRegistry SkillAction} (delegator : Delegator)
    (hregister : registerInto registry delegator.sendMessageAction = .ok registered)
    (calls : List (Skill SkillAction)) :
    ∃ entry, (registered.after calls).table.get? "send_message" = some entry ∧
      entry.descriptor = sendMessageSkill ∧ Sends delegator entry.action ∧
      ∀ other : SkillAction,
        registerInto (registered.after calls) other = .error (.duplicate .id "send_message") ∧
        (registered.after calls).offer ⟨sendMessageSkill, other⟩ = registered.after calls := by
  have hmem : ⟨sendMessageSkill, delegator.sendMessageAction⟩ ∈ registered.skills := by
    rw [skills_of_register hregister]
    exact List.mem_append_right _ (List.mem_singleton_self _)
  have hafter := mem_skills_after hmem calls
  exact ⟨_, get?_table_eq_some_iff.mpr ⟨hafter, rfl⟩, rfl, sends_sendMessageAction delegator,
    registerInto_of_mem hafter⟩

/-- Two agents: one that is done at once, and one that nothing leads to. -/
def clerks : Delegator where
  directory := .ofCards [("orders", { AgentCard.blank with url := some "http://orders" }), ("stock", AgentCard.blank)]
  connectors := .ofList
    [⟨.jsonRpc, fun _ _ => .ok ⟨fun _ => .ok [.event (.snapshot (taskSaying .completed "shipped"))]⟩⟩]
  timeout := defaultTimeout

def idle : SkillAction := fun _ _ => ⟨[], .ok .null⟩

/-- The name is taken when another skill asks for it, and the call without an agent fails. -/
theorem send_message_stays_clerks : ∃ registered entry,
    registerInto (empty.after [⟨.of "lookup" "lookup" "", idle⟩]) clerks.sendMessageAction = .ok registered ∧
    (registered.after [⟨.of "mail" "send_message" "", idle⟩, ⟨.of "mail" "mail" "", idle⟩]).table.get? "send_message"
      = some entry ∧
    (∃ failure, (entry.action "m" (.obj [("task", .str "ship")])).result = .error failure) ∧
    (entry.action "m" (.arr [.str "orders", .str "ship"])).result = .ok (.str "shipped") ∧
    (entry.action "m" (.arr [.str "billing", .str "ship"])).result
      = .ok (.str "Agent 'billing' not found. Available agents: orders, stock") ∧
    (entry.action "m" (.arr [.str "stock", .str "ship"])).result
      = .ok (.str ("Error communicating with agent 'stock': Agent 'stock' shares no transport with this client "
        ++ "(advertised: none; available: JSONRPC)")) := by
  cases hregister : registerInto (empty.after [⟨.of "lookup" "lookup" "", idle⟩]) clerks.sendMessageAction with
  | error failure =>
      have hnone : refusal? [⟨.of "lookup" "lookup" "", idle⟩] sendMessageSkill = none := by decide +kernel
      cases hnone.symm.trans (register_eq_error_iff.mp hregister)
  | ok registered =>
      obtain ⟨entry, hentry, -, hsends, -⟩ := send_message_stays clerks hregister
        [⟨.of "mail" "send_message" "", idle⟩, ⟨.of "mail" "mail" "", idle⟩]
      have htext (agent text : String) (htext : reply agent (clerks.delegate "m" agent "ship").outcome = text) :
          (entry.action "m" (.arr [.str agent, .str "ship"])).result = .ok (.str text) := by
        obtain ⟨_, hrun, hanswers⟩ := hsends.answers "m" _ _ (.row agent "ship")
        rw [hrun, hanswers.eq_reply, htext]
      refine ⟨registered, entry, rfl, hentry, (hsends.fails_iff "m" _).mpr ?_, ?_, ?_, ?_⟩
      · rintro _ (⟨hagent, -⟩ | -)
        cases hagent with
        | absent _ hdefault => cases hdefault
        | member hsole _ => cases hsole
      · exact htext "orders" "shipped" (by decide +kernel)
      · exact htext "billing" _ (by decide +kernel)
      · exact htext "stock" _ (by decide +kernel)

end Delegator

end AgentDelegation
