import AgentDelegation.Proofs.Transport.Bindings
import Mathlib.Data.List.ReduceOption

/-!
# Noise on a stream

A stream may carry more than news of a task: payloads that hold nothing, messages that belong to no task, and
payloads that fail to decode. Such a payload is `Stray`. It leaves the tracker as it is (`trackerAfter_of_stray`),
so wherever it is put into a stream it comes to what it is by itself, and every other payload comes to what it
came to before. A message tells a delegation nothing, so of stray payloads only failures are felt.
-/

namespace AgentDelegation

namespace Payload

variable {decode : String → Except TransportFailure (Option StreamResult)}
  {payload : Except TransportFailure String} {item? : Option Item}

/-- The item that a payload comes to, or nothing. -/
def answer (decode : String → Except TransportFailure (Option StreamResult)) (tracker : Tracker)
    (payload : Except TransportFailure String) : Option Item :=
  match payload >>= decode with
  | .error failure => some (.error failure)
  | .ok none => none
  | .ok (some result) => some (.ok (tracker.event result))

/-- What the payloads of a stream come to, one by one. -/
def answers (decode : String → Except TransportFailure (Option StreamResult)) (tracker : Tracker) :
    List (Except TransportFailure String) → List (Option Item)
  | [] => []
  | payload :: rest =>
    answer decode tracker payload :: answers decode (trackerAfter decode tracker [payload]) rest

/-- A payload that is no news of a task, and what it comes to by itself: nothing, its message or its
failure. -/
inductive Stray (decode : String → Except TransportFailure (Option StreamResult)) :
    Except TransportFailure String → Option Item → Prop where
  | nothing {payload : Except TransportFailure String} (h : payload >>= decode = .ok none) :
      Stray decode payload none
  | message {payload : Except TransportFailure String} {said : Message}
      (h : payload >>= decode = .ok (some (.message said))) : Stray decode payload (some (.ok (.message said)))
  | failure {payload : Except TransportFailure String} {cause : TransportFailure}
      (h : payload >>= decode = .error cause) : Stray decode payload (some (.error cause))

/-- A stream without the payloads that were put into it, which are the marked ones. -/
def unmarked (marked : List (Except TransportFailure String × Bool)) : List (Except TransportFailure String) :=
  (marked.filter fun entry => !entry.2).map Prod.fst

/-- Whether an item can be felt by a delegation: every one but a message. -/
def isFelt : Item → Bool
  | .ok (.message _) => false
  | .ok (.snapshot _) | .ok (.update _) | .error _ => true

/-! ### One payload -/

theorem items_cons (tracker : Tracker) (payload : Except TransportFailure String)
    (rest : List (Except TransportFailure String)) :
    items decode tracker (payload :: rest)
      = (answer decode tracker payload).toList ++ items decode (trackerAfter decode tracker [payload]) rest := by
  rw [items, answer, trackerAfter]
  cases payload >>= decode with
  | error cause => rfl
  | ok result? => cases result? <;> rfl

theorem answer_of_stray (h : Stray decode payload item?) (tracker : Tracker) :
    answer decode tracker payload = item? := by
  cases h with
  | nothing h | message h | failure h => simp only [answer, h, Tracker.event]

theorem stray_functional {other? : Option Item} (h : Stray decode payload item?)
    (hother : Stray decode payload other?) : item? = other? :=
  (answer_of_stray h .empty).symm.trans (answer_of_stray hother .empty)

theorem trackerAfter_of_stray (h : Stray decode payload item?) (tracker : Tracker) :
    trackerAfter decode tracker [payload] = tracker := by
  cases h with
  | nothing h | message h | failure h => simp only [trackerAfter, h, Tracker.next_message]

theorem items_cons_of_stray (h : Stray decode payload item?) (tracker : Tracker)
    (rest : List (Except TransportFailure String)) :
    items decode tracker (payload :: rest) = item?.toList ++ items decode tracker rest := by
  rw [items_cons, answer_of_stray h, trackerAfter_of_stray h]

/-! ### Whole streams -/

theorem items_eq_reduceOption (tracker : Tracker) (payloads : List (Except TransportFailure String)) :
    items decode tracker payloads = (answers decode tracker payloads).reduceOption := by
  induction payloads generalizing tracker with
  | nil => rfl
  | cons payload rest ih =>
      rw [items_cons, answers, ih]
      cases answer decode tracker payload <;> rfl

variable {marked : List (Except TransportFailure String × Bool)}

theorem unmarked_cons_true (payload : Except TransportFailure String) :
    unmarked ((payload, true) :: marked) = unmarked marked := rfl

theorem unmarked_cons_false (payload : Except TransportFailure String) :
    unmarked ((payload, false) :: marked) = payload :: unmarked marked := rfl

theorem answers_of_marked (h : ∀ entry ∈ marked, entry.2 = true → ∃ item?, Stray decode entry.1 item?)
    (tracker : Tracker) {entry : (Except TransportFailure String × Bool) × Option Item}
    (hentry : entry ∈ marked.zip (answers decode tracker (marked.map Prod.fst))) (hmarked : entry.1.2 = true) :
    Stray decode entry.1.1 entry.2 := by
  induction marked generalizing tracker with
  | nil => cases hentry
  | cons first rest ih =>
      obtain ⟨hfirst, hrest⟩ := List.forall_mem_cons.mp h
      rw [List.map_cons, answers, List.zip_cons_cons] at hentry
      rcases List.mem_cons.mp hentry with rfl | hentry
      · obtain ⟨item?, hstray⟩ := hfirst hmarked
        rwa [answer_of_stray hstray]
      · exact ih hrest _ hentry

theorem answers_of_unmarked (h : ∀ entry ∈ marked, entry.2 = true → ∃ item?, Stray decode entry.1 item?)
    (tracker : Tracker) :
    ((marked.zip (answers decode tracker (marked.map Prod.fst))).filter fun entry => !entry.1.2).map Prod.snd
      = answers decode tracker (unmarked marked) := by
  induction marked generalizing tracker with
  | nil => rfl
  | cons first rest ih =>
      obtain ⟨hfirst, hrest⟩ := List.forall_mem_cons.mp h
      obtain ⟨payload, inserted⟩ := first
      rw [List.map_cons, answers, List.zip_cons_cons]
      cases inserted with
      | false => rw [unmarked_cons_false, answers, ← ih hrest]; rfl
      | true =>
          obtain ⟨item?, hstray⟩ := hfirst rfl
          rw [unmarked_cons_true, trackerAfter_of_stray hstray, ← ih hrest]
          rfl

/-- Stray payloads change nothing about the items that they do not come to. -/
theorem filter_items_of_marked {p : Item → Bool}
    (h : ∀ entry ∈ marked, entry.2 = true → ∃ item?, Stray decode entry.1 item? ∧ item?.any p = false)
    (tracker : Tracker) :
    (items decode tracker (marked.map Prod.fst)).filter p = (items decode tracker (unmarked marked)).filter p := by
  induction marked generalizing tracker with
  | nil => rfl
  | cons first rest ih =>
      obtain ⟨hfirst, hrest⟩ := List.forall_mem_cons.mp h
      obtain ⟨payload, inserted⟩ := first
      cases inserted with
      | false =>
          rw [unmarked_cons_false, List.map_cons, items_cons, items_cons, List.filter_append, List.filter_append,
            ih hrest]
      | true =>
          obtain ⟨item?, hstray, hp⟩ := hfirst rfl
          have hnone : item?.toList.filter p = [] := by cases item? <;> simp_all
          rw [unmarked_cons_true, List.map_cons, items_cons_of_stray hstray, List.filter_append, hnone,
            List.nil_append, ih hrest]

end Payload

/-! ### What a delegation feels -/

namespace Settlement

open Happening Payload

variable {agent : String}

theorem watch_event {left : Nat} (hleft : left ≠ 0) (s : Settlement) (news : Event) (rest : List Happening) :
    s.watch agent left (.event news :: rest)
      = if (s.after agent (.event news)).isPending then (s.after agent (.event news)).watch agent left rest
        else ⟨s.after agent (.event news), false⟩ := by
  rw [watch, if_neg hleft]

/-- A stream is watched as if there were no messages in it. -/
theorem watch_filter_isFelt (best : String) (left : Nat) (items : List Item) :
    (pending best).watch agent left (items.map ofItem ++ [.finish])
      = (pending best).watch agent left ((items.filter isFelt).map ofItem ++ [.finish]) := by
  by_cases hleft : left = 0
  · rw [hleft, watch_zero, watch_zero]
  induction items generalizing best with
  | nil => rfl
  | cons item rest ih =>
      cases item with
      | error cause =>
          rw [List.filter_cons_of_pos rfl, List.map_cons, List.map_cons, List.cons_append, List.cons_append, ofItem,
            watch, watch]
      | ok news =>
          rw [List.map_cons, List.cons_append, ofItem, watch_event hleft]
          cases news with
          | message said =>
              rw [List.filter_cons_of_neg Bool.false_ne_true, ← ih best]
              rfl
          | snapshot task | update task =>
              rw [List.filter_cons_of_pos rfl, List.map_cons, List.cons_append, ofItem, watch_event hleft]
              split
              · rename_i hopen
                generalize (pending best).after agent _ = s at hopen
                cases s with
                | pending best => exact ih best
                | resolved | failed => cases hopen
              · rfl

end Settlement

namespace Payload

open Settlement Happening EventStream

variable {decode : String → Except TransportFailure (Option StreamResult)}
  {marked : List (Except TransportFailure String × Bool)}

theorem length_answers (tracker : Tracker) (payloads : List (Except TransportFailure String)) :
    (answers decode tracker payloads).length = payloads.length := by
  induction payloads generalizing tracker with
  | nil => rfl
  | cons payload rest ih => rw [answers, List.length_cons, List.length_cons, ih]

/-- Payloads put into a stream that are no news of a task add what they are by themselves, at their places,
and leave what all other payloads come to as it is. If they hold nothing, the items stay the same; if they
hold nothing or messages, the stream is watched as before, and a delegation has the same outcome. -/
theorem stray_payloads_add_only_themselves
    (h : ∀ entry ∈ marked, entry.2 = true → ∃ item?, Stray decode entry.1 item?) (tracker : Tracker) :
    (∀ payloads, (answers decode tracker payloads).length = payloads.length ∧
      items decode tracker payloads = (answers decode tracker payloads).reduceOption) ∧
    (∀ entry ∈ marked.zip (answers decode tracker (marked.map Prod.fst)), entry.1.2 = true →
      Stray decode entry.1.1 entry.2) ∧
    ((marked.zip (answers decode tracker (marked.map Prod.fst))).filter fun entry => !entry.1.2).map Prod.snd
      = answers decode tracker (unmarked marked) ∧
    ((∀ entry ∈ marked, entry.2 = true → Stray decode entry.1 none) →
      items decode tracker (marked.map Prod.fst) = items decode tracker (unmarked marked)) ∧
    ((∀ entry ∈ marked, entry.2 = true → ∀ cause, ¬ Stray decode entry.1 (some (.error cause))) →
      (∀ agent left, start.watch agent left ((items decode tracker (marked.map Prod.fst)).map ofItem ++ [.finish])
        = start.watch agent left ((items decode tracker (unmarked marked)).map ofItem ++ [.finish])) ∧
      ∀ (delegator other : Delegator) (id id' agent task task' : String) (response response' : Http.Response),
        delegator.Answered id agent task decode response → response.isSuccess = true →
        payloads response = marked.map Prod.fst →
        other.Answered id' agent task' decode response' → response'.isSuccess = true →
        payloads response' = unmarked marked → delegator.timeout = other.timeout →
        (delegator.delegate id agent task).outcome = (other.delegate id' agent task').outcome) := by
  refine ⟨fun payloads => ⟨length_answers tracker payloads, items_eq_reduceOption tracker payloads⟩,
    fun entry hentry hmarked => answers_of_marked h tracker hentry hmarked, answers_of_unmarked h tracker, ?_, ?_⟩
  · intro hnothing
    have hitems := filter_items_of_marked (p := fun _ => true)
      (fun entry hentry hmarked => ⟨none, hnothing entry hentry hmarked, rfl⟩) tracker
    rwa [List.filter_true, List.filter_true] at hitems
  · intro hsound
    have hunfelt : ∀ entry ∈ marked, entry.2 = true →
        ∃ item?, Stray decode entry.1 item? ∧ item?.any isFelt = false := by
      intro entry hentry hmarked
      obtain ⟨item?, hstray⟩ := h entry hentry hmarked
      refine ⟨item?, hstray, ?_⟩
      cases hstray with
      | nothing | message => rfl
      | failure hfailure => exact absurd (.failure hfailure) (hsound entry hentry hmarked _)
    have hwatch (tracker : Tracker) (agent : String) (left : Nat) :
        start.watch agent left ((items decode tracker (marked.map Prod.fst)).map ofItem ++ [.finish])
          = start.watch agent left ((items decode tracker (unmarked marked)).map ofItem ++ [.finish]) := by
      rw [start, watch_filter_isFelt, filter_items_of_marked hunfelt, ← watch_filter_isFelt]
    refine ⟨hwatch tracker, ?_⟩
    intro delegator other id id' agent task task' response response' hanswered hsuccess hpayloads hanswered' hsuccess'
      hpayloads' htimeout
    have hplays := hanswered.plays hsuccess
    have hplays' := hanswered'.plays hsuccess'
    rw [hpayloads] at hplays
    rw [hpayloads'] at hplays'
    exact Delegator.outcome_congr hplays hplays' htimeout (hwatch .empty agent)

/-- A task that is under way, with its answer, and the end of it. -/
def shippingTexts : List String :=
  ["\x7b\"result\":\x7b\"id\":\"t\",\"status\":\x7b\"state\":\"working\"\x7d,\"artifacts\":[\x7b\"parts\":[\x7b\"text\":\"sent\"\x7d]\x7d]\x7d\x7d",
    "\x7b\"result\":\x7b\"taskId\":\"t\",\"status\":\x7b\"state\":\"completed\"\x7d\x7d\x7d"]

def greetingText : String :=
  "\x7b\"result\":\x7b\"role\":\"agent\",\"parts\":[\x7b\"text\":\"hi\"\x7d]\x7d\x7d"

/-- The same with a text that is not JSON, a response without a result, a message and an object of no known
sort in between. -/
def strewnTexts : List (String × Bool) :=
  [("[DONE]", true), (shippingTexts[0], false), ("\x7b\"id\":1\x7d", true), (greetingText, true),
    ("\x7b\"result\":\x7b\"ping\":1\x7d\x7d", true), (shippingTexts[1], false)]

def strewn : List (Except TransportFailure String × Bool) := strewnTexts.map fun entry => (.ok entry.1, entry.2)

theorem stray_of_strewn : ∀ entry ∈ strewn, entry.2 = true →
    Stray decodeRpc entry.1 none ∨ ∃ said, Stray decodeRpc entry.1 (some (.ok (.message said))) := by
  have hgreeting : decodeRpc greetingText
      = .ok (some (.message { Message.empty with role := .agent, parts := [.ofText "hi"] })) := by
    decide +kernel
  simp only [strewn, strewnTexts, List.map_cons, List.map_nil, List.forall_mem_cons]
  refine ⟨fun _ => .inl (.nothing ?_), nofun, fun _ => .inl (.nothing ?_), fun _ => .inr ⟨_, .message hgreeting⟩,
    fun _ => .inl (.nothing ?_), nofun, nofun⟩
  · decide +kernel
  · decide +kernel
  · decide +kernel

theorem stray_payloads_around_shipping :
    (∀ entry ∈ strewn, entry.2 = true → ∃ item?, Stray decodeRpc entry.1 item?) ∧
    ((Delegator.responding .jsonRpc (lineStream shippingTexts)).delegate "m" "orders" "ship").outcome
      = .ok "sent" ∧
    ((Delegator.responding .jsonRpc (lineStream (strewnTexts.map Prod.fst))).delegate "n" "orders" "ship").outcome
      = .ok "sent" := by
  have hstray : ∀ entry ∈ strewn, entry.2 = true → ∃ item?, Stray decodeRpc entry.1 item? := by
    intro entry hentry hmarked
    rcases stray_of_strewn entry hentry hmarked with h | ⟨said, h⟩
    · exact ⟨_, h⟩
    · exact ⟨_, h⟩
  have hsound : ∀ entry ∈ strewn, entry.2 = true → ∀ cause, ¬ Stray decodeRpc entry.1 (some (.error cause)) := by
    intro entry hentry hmarked cause hfailure
    rcases stray_of_strewn entry hentry hmarked with h | ⟨said, h⟩
    · cases stray_functional h hfailure
    · cases stray_functional h hfailure
  have hpayloads : payloads (lineStream shippingTexts) = unmarked strewn :=
    payloads_lineStream (by decide +kernel) (by decide +kernel) (by decide +kernel)
  have hstrewn : payloads (lineStream (strewnTexts.map Prod.fst)) = strewn.map Prod.fst :=
    payloads_lineStream (by decide +kernel) (by decide +kernel) (by decide +kernel)
  have hanswered := Delegator.answered_responding_rpc "m" "ship" (lineStream shippingTexts)
  have houtcome : ((Delegator.responding .jsonRpc (lineStream shippingTexts)).delegate "m" "orders" "ship").outcome
      = .ok "sent" := by
    rw [Delegator.outcome_of_answered hanswered (by decide) (by decide), hpayloads]
    decide +kernel
  refine ⟨hstray, houtcome, ?_⟩
  rw [← houtcome]
  exact ((stray_payloads_add_only_themselves hstray .empty).2.2.2.2 hsound).2 _ _ "n" "m" _ "ship" "ship" _ _
    (Delegator.answered_responding_rpc _ _ _) (by decide) hstrewn hanswered (by decide) hpayloads
    (Eq.refl (Duration.ofSeconds 60))

end Payload

end AgentDelegation
