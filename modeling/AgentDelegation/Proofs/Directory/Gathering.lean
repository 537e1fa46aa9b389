import AgentDelegation.Directory.Gathering
import AgentDelegation.Proofs.Delegation.Routing
import AgentDelegation.Proofs.NameMap
import Mathlib.Data.List.Basic

/-!
# Directories do not depend on the order of the fetches

A fetch that ends changes its own place in the gathering and no other, and what it brings depends on its
endpoint alone. So after any of the fetches have ended, the cards brought are those of their names
(`found_after`), and when all have ended it does not show in which order they did. The directory can
therefore be read off the configured agents, one name at a time.
-/

namespace AgentDelegation

variable {resolve : String → Except CardFailure AgentCard} {agents : NameMap RemoteAgent}

namespace CardFetch

theorem found?_finish (name endpoint : String) (result : Option (Except CardFailure AgentCard)) :
    ((CardFetch.mk name endpoint result).finish resolve).found? = (resolve endpoint).toOption.map (name, ·) := by
  simp only [finish, found?]
  cases resolve endpoint <;> rfl

end CardFetch

namespace Gathering

/-- Whatever the order of the names, and however often they come up. -/
theorem fetches_after (gathering : Gathering) (names : List String) :
    (gathering.after resolve names).fetches
      = gathering.fetches.map fun fetch => if fetch.name ∈ names then fetch.finish resolve else fetch := by
  induction names generalizing gathering with
  | nil => simp [after]
  | cons name rest ih =>
      have hstep : gathering.after resolve (name :: rest) = (gathering.finish resolve name).after resolve rest := rfl
      rw [hstep, ih, finish, List.map_map]
      apply List.map_congr_left
      intro fetch _
      by_cases hname : fetch.name = name
      · simp only [Function.comp_apply, hname, if_true, List.mem_cons, true_or]
        split <;> rfl
      · simp [hname]

theorem isOver_after_iff (names : List String) :
    ((start agents).after resolve names).isOver = true ↔ ∀ name ∈ agents.names, name ∈ names := by
  have hended (name endpoint : String) :
      (if name ∈ names then (CardFetch.mk name endpoint none).finish resolve
        else ⟨name, endpoint, none⟩).result.isSome = true ↔ name ∈ names := by
    by_cases hname : name ∈ names
    · simp [hname, CardFetch.finish]
    · simp [hname]
  simp only [isOver, fetches_after, start, List.all_map, List.all_eq_true, Function.comp_apply, hended,
    NameMap.names, List.forall_mem_map]

/-- The cards that have been brought are those of the names whose fetches have ended. -/
theorem found_after (names : List String) :
    ((start agents).after resolve names).found
      = (Directory.resolved agents resolve).filter fun entry => entry.1 ∈ names := by
  rw [found, fetches_after, start, List.map_map, List.filterMap_map, Directory.resolved, List.filter_filterMap]
  apply List.filterMap_congr
  intro entry _
  obtain ⟨name, agent⟩ := entry
  by_cases hname : name ∈ names
  · simp only [Function.comp_apply, if_pos hname, CardFetch.found?_finish]
    cases (resolve agent.endpoint).toOption <;> simp [Option.filter, hname]
  · simp only [Function.comp_apply, if_neg hname]
    cases (resolve agent.endpoint).toOption <;> simp [Option.filter, CardFetch.found?, hname]

end Gathering

namespace Directory

theorem ordered_resolved (agents : NameMap RemoteAgent) (resolve : String → Except CardFailure AgentCard) :
    Entries.Ordered (resolved agents resolve) := by
  apply agents.ordered.filterMap
  intro entry other hlt found hfound found' hfound'
  obtain ⟨card, -, rfl⟩ := Option.map_eq_some_iff.mp hfound
  obtain ⟨card', -, rfl⟩ := Option.map_eq_some_iff.mp hfound'
  exact hlt

theorem mem_resolved_iff {name : String} {card : AgentCard} :
    (name, card) ∈ resolved agents resolve
      ↔ ∃ agent, agents.get? name = some agent ∧ resolve agent.endpoint = .ok card := by
  have hagent (agent : RemoteAgent) : agents.get? name = some agent ↔ (name, agent) ∈ agents.entries :=
    Entries.lookup_eq_some_iff agents.ordered.nodup
  have hcard (agent : RemoteAgent) :
      (resolve agent.endpoint).toOption = some card ↔ resolve agent.endpoint = .ok card := by
    cases resolve agent.endpoint <;> simp [Except.toOption]
  simp [resolved, hagent, hcard]

theorem build_eq (agents : NameMap RemoteAgent) (resolve : String → Except CardFailure AgentCard) :
    build agents resolve = ofCards (resolved agents resolve) := by
  rw [build, Gathering.found_after, List.filter_eq_self.mpr]
  intro entry hentry
  obtain ⟨agent, hagent, -⟩ := mem_resolved_iff.mp hentry
  have hmem := (Entries.lookup_eq_some_iff agents.ordered.nodup).mp hagent
  exact decide_eq_true (List.mem_map.mpr ⟨_, hmem, rfl⟩)

theorem get?_build_eq_some_iff {name : String} {card : AgentCard} :
    (build agents resolve).get? name = some card
      ↔ ∃ agent, agents.get? name = some agent ∧ resolve agent.endpoint = .ok card := by
  rw [build_eq, ← mem_resolved_iff]
  exact NameMap.get?_ofList_eq_some_iff (ordered_resolved agents resolve).nodup

/-- A gathering makes its directory when the last fetch has ended, and it is always the same one. -/
theorem directory?_after_eq_some_iff {order : List String} {directory : Directory} :
    ((Gathering.start agents).after resolve order).directory? = some directory
      ↔ (∀ name ∈ agents.names, name ∈ order) ∧ directory = build agents resolve := by
  rw [Gathering.directory?, Option.ite_none_right_eq_some, Gathering.isOver_after_iff]
  refine and_congr_right fun hall => ?_
  rw [build, Gathering.found_after, Gathering.found_after, Option.some_inj, eq_comm]
  have hsame : (resolved agents resolve).filter (fun entry => entry.1 ∈ order)
      = (resolved agents resolve).filter fun entry => entry.1 ∈ agents.names := by
    apply List.filter_congr
    intro entry hentry
    obtain ⟨agent, hagent, -⟩ := mem_resolved_iff.mp hentry
    have hmem := (Entries.lookup_eq_some_iff agents.ordered.nodup).mp hagent
    have hname : entry.1 ∈ agents.names := List.mem_map.mpr ⟨_, hmem, rfl⟩
    simp [hname, hall _ hname]
  rw [hsame]

/-- Adds an agent unless its card could not be had. -/
def add (directory : Directory) (name : String) : Except CardFailure AgentCard → Directory
  | .ok card => ⟨directory.cards.insert name card⟩
  | .error _ => directory

/-- One fetch after another, each card added before the next fetch begins. -/
def fetchedInTurn (agents : NameMap RemoteAgent) (resolve : String → Except CardFailure AgentCard) : Directory :=
  agents.entries.foldl (fun directory entry => directory.add entry.1 (resolve entry.2.endpoint)) empty

theorem foldl_add (entries : List (String × RemoteAgent)) (directory : Directory) :
    entries.foldl (fun directory entry => directory.add entry.1 (resolve entry.2.endpoint)) directory
      = ⟨directory.cards.insertAll
          (entries.filterMap fun entry => (resolve entry.2.endpoint).toOption.map (entry.1, ·))⟩ := by
  induction entries generalizing directory with
  | nil => rfl
  | cons entry rest ih =>
      rw [List.foldl_cons, ih, List.filterMap_cons]
      cases resolve entry.2.endpoint <;> rfl

theorem fetchedInTurn_eq_build (agents : NameMap RemoteAgent) (resolve : String → Except CardFailure AgentCard) :
    fetchedInTurn agents resolve = build agents resolve := by
  rw [build_eq]
  exact foldl_add agents.entries empty

/-- The directory has an agent exactly if it is configured and the card of its endpoint can be had, and has
that card for it; its names are in code point order. A gathering makes this directory as soon as all fetches
have ended, in whatever order, and fetching one card after another makes it too. Where resolving differs for
one endpoint only, the agents with another endpoint are found alike. -/
theorem built_directory_isolates_failures (agents : NameMap RemoteAgent)
    (resolve : String → Except CardFailure AgentCard) :
    (∀ order directory, ((Gathering.start agents).after resolve order).directory? = some directory
      ↔ (∀ name ∈ agents.names, name ∈ order) ∧ directory = build agents resolve) ∧
    fetchedInTurn agents resolve = build agents resolve ∧
    (∀ name card, (build agents resolve).get? name = some card
      ↔ ∃ agent, agents.get? name = some agent ∧ resolve agent.endpoint = .ok card) ∧
    (∀ name, name ∈ (build agents resolve).names
      ↔ ∃ agent card, agents.get? name = some agent ∧ resolve agent.endpoint = .ok card) ∧
    (build agents resolve).names.Pairwise (· < ·) ∧
    ∀ (other : String → Except CardFailure AgentCard) (endpoint : String),
      (∀ address, address ≠ endpoint → other address = resolve address) →
      ∀ name agent, agents.get? name = some agent → agent.endpoint ≠ endpoint →
        (build agents other).get? name = (build agents resolve).get? name := by
  refine ⟨fun order directory => directory?_after_eq_some_iff, fetchedInTurn_eq_build agents resolve,
    fun name card => get?_build_eq_some_iff, ?_, pairwise_names _, ?_⟩
  · intro name
    simp only [mem_names_iff, get?_build_eq_some_iff]
    exact exists_comm
  · intro other endpoint hother name agent hagent hendpoint
    apply Option.ext
    intro card
    simp only [get?_build_eq_some_iff, hagent, Option.some_inj, exists_eq_left', hother _ hendpoint]

/-- Three agents, of which two share an endpoint. -/
def threeAgents : NameMap RemoteAgent :=
  .ofList [("stock", ⟨"http://a", none⟩), ("orders", ⟨"http://a", none⟩), ("faxes", ⟨"http://b", none⟩)]

/-- Only the shared endpoint answers. -/
def sharedAnswers (endpoint : String) : Except CardFailure AgentCard :=
  if endpoint = "http://a" then .ok { AgentCard.blank with name := "A" } else .error (.status endpoint 503)

theorem built_directory_of_three :
    (∃ directory, ((Gathering.start threeAgents).after sharedAnswers ["stock", "faxes", "orders"]).directory?
        = some directory ∧ directory.names = ["orders", "stock"]) ∧
    ((Gathering.start threeAgents).after sharedAnswers ["stock", "orders"]).directory? = none ∧
    (build threeAgents sharedAnswers).get? "orders" = some { AgentCard.blank with name := "A" } ∧
    (build threeAgents fun _ => .error (.status "http://b" 503)).get? "faxes"
      = (build threeAgents fun endpoint => if endpoint = "http://a" then .ok .blank
          else .error (.status "http://b" 503)).get? "faxes" := by
  obtain ⟨hover, -, hget, -, -, -⟩ := built_directory_isolates_failures threeAgents sharedAnswers
  obtain ⟨-, -, -, -, -, hframe⟩ := built_directory_isolates_failures threeAgents
    fun endpoint => if endpoint = "http://a" then .ok .blank else .error (.status "http://b" 503)
  have hnames : (build threeAgents sharedAnswers).names = ["orders", "stock"] := by decide +kernel
  refine ⟨⟨_, (hover _ _).mpr ⟨by decide +kernel, rfl⟩, hnames⟩, ?_, (hget _ _).mpr ?_, ?_⟩
  · apply Option.eq_none_iff_forall_ne_some.mpr
    intro directory hdirectory
    exact absurd ((hover _ _).mp hdirectory).1 (by decide +kernel)
  · exact ⟨⟨"http://a", none⟩, by decide +kernel, rfl⟩
  · refine hframe _ "http://a" ?_ "faxes" ⟨"http://b", none⟩ (by decide +kernel) (by decide)
    intro address haddress
    simp [haddress]

end Directory

end AgentDelegation
