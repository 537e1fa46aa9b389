import AgentDelegation.Proofs.Json.Trees
import AgentDelegation.Transport.Payload

/-!
# What is taken for a response

A payload counts as a response in JSON-RPC only if every member that a response knows is there at most
once and has its type, down to the fields of an error. `Envelope` says so of the members of an object, and
`read_response_iff` that nothing else is asked of them.
-/

namespace AgentDelegation

open Json

namespace Rpc

open Source (Kept)

variable {α : Type}

/-- Null stands for absence. -/
inductive OrNull (reads : Source → α → Prop) : Source → Option α → Prop where
  | null : OrNull reads .null none
  | given {n : Source} {x : α} (hn : n ≠ .null) (hreads : reads n x) : OrNull reads n (some x)

def IsText (n : Source) (s : String) : Prop := n = .str s

/-- An integer of at most sixty-four bits, with its sign. -/
def IsCode (n : Source) (k : Int) : Prop :=
  n = .num (.int k) ∧ -9223372036854775808 ≤ k ∧ k ≤ 9223372036854775807

/-- A value that can be reported as an error: an object with a code and a text, or a row of the three
fields. -/
inductive ErrorValue : Source → RpcError → Prop where
  | object {members : List (String × Source)} {error : RpcError}
      (code : Says "code" IsCode none members error.code)
      (message : Says "message" IsText none members error.message)
      (data : Says "data" (OrNull Kept) (some none) members error.data)
      (others : ∀ member ∈ members, member.1 ∉ ["code", "message", "data"] → member.2.skipMember = none) :
      ErrorValue (.obj members none) error
  | row {code message data : Source} {error : RpcError} (hcode : IsCode code error.code)
      (hmessage : IsText message error.message) (hdata : OrNull Kept data error.data) :
      ErrorValue (.arr [code, message, data] none) error

/-- The members of an object that is taken for a response. -/
structure Envelope (members : List (String × Source)) (response : RpcResponse) : Prop where
  jsonrpc : Says "jsonrpc" IsText (some "") members response.jsonrpc
  result : Says "result" (OrNull Kept) (some none) members response.result
  error : Says "error" (OrNull ErrorValue) (some none) members response.error
  id : Says "id" (OrNull Kept) (some none) members response.id
  others : ∀ member ∈ members, member.1 ∉ ["jsonrpc", "result", "error", "id"] → member.2.skipMember = none

/-! ### Values -/

theorem read_optional_iff {format : Format α} {reads : Source → α → Prop}
    (hformat : ∀ n x, format.read n = .ok x ↔ reads n x) {n : Source} {x : Option α} :
    (Format.optional format).read n = .ok x ↔ OrNull reads n x := by
  by_cases hn : n = .null
  · subst hn
    rw [Format.read_optional_null]
    constructor
    · intro h
      cases h
      exact .null
    · rintro (_ | ⟨hn, -⟩)
      · rfl
      · exact absurd rfl hn
  · rw [Format.read_optional_of_ne_null hn]
    constructor
    · intro h
      cases hread : format.read n with
      | error => simp [hread, Except.map] at h
      | ok y =>
          obtain rfl : some y = x := by simpa [hread, Except.map] using h
          exact .given hn ((hformat n y).mp hread)
    · rintro (_ | ⟨-, hreads⟩)
      · exact absurd rfl hn
      · rw [(hformat n _).mpr hreads]
        rfl

theorem read_kept_iff {n : Source} {v : Option Value} :
    (Format.optional .any).read n = .ok v ↔ OrNull Kept n v :=
  read_optional_iff fun _ _ => Format.read_any_iff

/-! ### Errors -/

theorem readMembers_error_iff {members : List (String × Source)} {error : RpcError} :
    RpcError.record.readMembers members = .ok error
      ↔ Says "code" IsCode none members error.code ∧ Says "message" IsText none members error.message ∧
        Says "data" (OrNull Kept) (some none) members error.data := by
  have hcode (k : Int) : (Record.required "code" .signed RpcError.code).readMembers members = .ok k
      ↔ Says "code" IsCode none members k :=
    Record.readMembers_field_eq_ok_iff rfl fun _ _ => Format.read_signed_eq_ok_iff
  have hmessage (s : String) : (Record.required "message" .text RpcError.message).readMembers members = .ok s
      ↔ Says "message" IsText none members s :=
    Record.readMembers_field_eq_ok_iff rfl fun _ _ => Format.read_text_eq_ok_iff
  have hdata (v : Option Value) : (Record.placed "data" .any RpcError.data).readMembers members = .ok v
      ↔ Says "data" (OrNull Kept) (some none) members v :=
    Record.readMembers_field_eq_ok_iff rfl fun _ _ => read_kept_iff
  simp only [RpcError.record, Record.readMembers_seq_eq_ok_iff, Record.readMembers_map_eq_ok_iff, hcode,
    hmessage, hdata]
  constructor
  · rintro ⟨_, _, ⟨_, _, ⟨_, h₁, rfl⟩, h₂, rfl⟩, h₃, rfl⟩
    exact ⟨h₁, h₂, h₃⟩
  · rintro ⟨h₁, h₂, h₃⟩
    exact ⟨_, _, ⟨_, _, ⟨_, h₁, rfl⟩, h₂, rfl⟩, h₃, rfl⟩

theorem knows_error_eq_false_iff {name : String} :
    RpcError.record.knows name = false ↔ name ∉ ["code", "message", "data"] := by
  simp [RpcError.record, Record.required, Record.placed, Record.knows_field, and_assoc]

theorem readRow_error_iff {shape : String} {row last : Row Source} {error : RpcError} :
    RpcError.record.readRow shape row = .ok (error, last)
      ↔ ∃ code message data rest, row.items = code :: message :: data :: rest ∧ IsCode code error.code ∧
        IsText message error.message ∧ OrNull Kept data error.data ∧ last = ⟨rest, row.place + 3, row.stop⟩ := by
  have hcode (row last : Row Source) (k : Int) :
      (Record.required "code" .signed RpcError.code).readRow shape row = .ok (k, last)
        ↔ ∃ n rest, row.items = n :: rest ∧ IsCode n k ∧ last = ⟨rest, row.place + 1, row.stop⟩ :=
    Record.readRow_field_eq_ok_iff rfl fun _ _ => Format.read_signed_eq_ok_iff
  have hmessage (row last : Row Source) (s : String) :
      (Record.required "message" .text RpcError.message).readRow shape row = .ok (s, last)
        ↔ ∃ n rest, row.items = n :: rest ∧ IsText n s ∧ last = ⟨rest, row.place + 1, row.stop⟩ :=
    Record.readRow_field_eq_ok_iff rfl fun _ _ => Format.read_text_eq_ok_iff
  have hdata (row last : Row Source) (v : Option Value) :
      (Record.placed "data" .any RpcError.data).readRow shape row = .ok (v, last)
        ↔ ∃ n rest, row.items = n :: rest ∧ OrNull Kept n v ∧ last = ⟨rest, row.place + 1, row.stop⟩ :=
    Record.readRow_field_eq_ok_iff rfl fun _ _ => read_kept_iff
  simp only [RpcError.record, Record.readRow_seq_eq_ok_iff, Record.readRow_map_eq_ok_iff, hcode, hmessage, hdata]
  constructor
  · rintro ⟨_, _, _, ⟨_, _, _, ⟨_, ⟨code, _, hitems, h₁, rfl⟩, rfl⟩, ⟨message, _, rfl, h₂, rfl⟩, rfl⟩,
      ⟨data, rest, rfl, h₃, rfl⟩, rfl⟩
    exact ⟨code, message, data, rest, hitems, h₁, h₂, h₃, rfl⟩
  · rintro ⟨code, message, data, rest, hitems, h₁, h₂, h₃, rfl⟩
    exact ⟨_, _, _, ⟨_, _, _, ⟨_, ⟨code, _, hitems, h₁, rfl⟩, rfl⟩, ⟨message, _, rfl, h₂, rfl⟩, rfl⟩,
      ⟨data, rest, rfl, h₃, rfl⟩, rfl⟩

theorem read_error_row_iff {items : List Source} {stop : Option Stop} {error : RpcError} :
    RpcError.format.read (Source.arr items stop) = .ok error ↔ ErrorValue (.arr items stop) error := by
  change RpcError.record.readArray _ items (stop.map (·.asRead)) (some .malformed) = .ok error ↔ _
  simp only [Record.readArray_eq_ok_iff, readRow_error_iff]
  constructor
  · rintro ⟨_, ⟨code, message, data, rest, rfl, hcode, hmessage, hdata, rfl⟩, hend⟩
    cases rest with
    | nil =>
        obtain rfl : stop = none := Option.map_eq_none_iff.mp hend
        exact .row hcode hmessage hdata
    | cons => cases hend
  · rintro (- | ⟨hcode, hmessage, hdata⟩)
    exact ⟨_, ⟨_, _, _, [], rfl, hcode, hmessage, hdata, rfl⟩, rfl⟩

theorem read_error_iff {n : Source} {error : RpcError} :
    RpcError.format.read n = .ok error ↔ ErrorValue n error := by
  cases n with
  | arr items stop => exact read_error_row_iff
  | obj members stop =>
      have hread : RpcError.format.read (Source.obj members stop)
          = RpcError.record.readObject members (stop.map (·.asRead)) := rfl
      simp only [hread, Record.readObject_eq_ok_iff, readMembers_error_iff, Option.map_eq_none_iff,
        knows_error_eq_false_iff]
      constructor
      · rintro ⟨⟨hcode, hmessage, hdata⟩, hothers, rfl⟩
        exact .object hcode hmessage hdata hothers
      · rintro (⟨hcode, hmessage, hdata, hothers⟩ | -)
        exact ⟨⟨hcode, hmessage, hdata⟩, hothers, rfl⟩
  | _ =>
      constructor <;> intro h <;> cases h

/-! ### Responses -/

theorem readMembers_response_iff {members : List (String × Source)} {response : RpcResponse} :
    RpcResponse.record.readMembers members = .ok response
      ↔ Says "jsonrpc" IsText (some "") members response.jsonrpc ∧
        Says "result" (OrNull Kept) (some none) members response.result ∧
        Says "error" (OrNull ErrorValue) (some none) members response.error ∧
        Says "id" (OrNull Kept) (some none) members response.id := by
  have hjsonrpc (s : String) : (Record.defaulted "jsonrpc" .text "" RpcResponse.jsonrpc).readMembers members = .ok s
      ↔ Says "jsonrpc" IsText (some "") members s :=
    Record.readMembers_field_eq_ok_iff rfl fun _ _ => Format.read_text_eq_ok_iff
  have hresult (v : Option Value) : (Record.placed "result" .any RpcResponse.result).readMembers members = .ok v
      ↔ Says "result" (OrNull Kept) (some none) members v :=
    Record.readMembers_field_eq_ok_iff rfl fun _ _ => read_kept_iff
  have herror (e : Option RpcError) :
      (Record.placed "error" RpcError.format RpcResponse.error).readMembers members = .ok e
        ↔ Says "error" (OrNull ErrorValue) (some none) members e :=
    Record.readMembers_field_eq_ok_iff rfl fun _ _ => read_optional_iff fun _ _ => read_error_iff
  have hid (v : Option Value) :
      (Record.nullable "id" .any (some none) RpcResponse.id).readMembers members = .ok v
        ↔ Says "id" (OrNull Kept) (some none) members v :=
    Record.readMembers_field_eq_ok_iff rfl fun _ _ => read_kept_iff
  simp only [RpcResponse.record, Record.readMembers_seq_eq_ok_iff, Record.readMembers_map_eq_ok_iff, hjsonrpc,
    hresult, herror, hid]
  constructor
  · rintro ⟨_, _, ⟨_, _, ⟨_, _, ⟨_, h₁, rfl⟩, h₂, rfl⟩, h₃, rfl⟩, h₄, rfl⟩
    exact ⟨h₁, h₂, h₃, h₄⟩
  · rintro ⟨h₁, h₂, h₃, h₄⟩
    exact ⟨_, _, ⟨_, _, ⟨_, _, ⟨_, h₁, rfl⟩, h₂, rfl⟩, h₃, rfl⟩, h₄, rfl⟩

theorem knows_response_eq_false_iff {name : String} :
    RpcResponse.record.knows name = false ↔ name ∉ ["jsonrpc", "result", "error", "id"] := by
  simp [RpcResponse.record, Record.defaulted, Record.placed, Record.nullable, Record.knows_field, and_assoc]

theorem read_response_iff {members : List (String × Source)} {response : RpcResponse} :
    RpcResponse.format.read (Source.obj members none) = .ok response ↔ Envelope members response := by
  change RpcResponse.record.readObject members none = .ok response ↔ _
  simp only [Record.readObject_eq_ok_iff, readMembers_response_iff, knows_response_eq_false_iff, and_true]
  constructor
  · rintro ⟨⟨hjsonrpc, hresult, herror, hid⟩, hothers⟩
    exact ⟨hjsonrpc, hresult, herror, hid, hothers⟩
  · rintro ⟨hjsonrpc, hresult, herror, hid, hothers⟩
    exact ⟨⟨hjsonrpc, hresult, herror, hid⟩, hothers⟩

end Rpc

/-! ### Payloads -/

namespace Payload

open Rpc

variable {text : String} {members : List (String × Source)} {response : RpcResponse}

theorem readText_response_iff (h : (Document.ofText text).IsObject members) :
    RpcResponse.format.readText text = .ok response ↔ Envelope members response := by
  rw [Format.readText_eq_ok_iff, h.root_eq, h.trailing_eq, read_response_iff]
  exact and_iff_left rfl

theorem decodeRpc_of_error (h : (Document.ofText text).IsObject members) (henvelope : Envelope members response)
    {error : RpcError} (herror : response.error = some error) :
    decodeRpc text = .error (.rpc error.code error.message) := by
  have hread := (readText_response_iff h).mpr henvelope
  simp only [decodeRpc, hread, herror]

theorem decodeRpc_of_no_error (h : (Document.ofText text).IsObject members) (henvelope : Envelope members response)
    (herror : response.error = none) : decodeRpc text = response.result.elim (.ok none) decodeResult := by
  have hread := (readText_response_iff h).mpr henvelope
  simp only [decodeRpc, hread, herror]
  cases response.result <;> rfl

theorem decodeRpc_of_not_envelope (h : (Document.ofText text).IsObject members)
    (hnone : ∀ response, ¬ Envelope members response) : decodeRpc text = .ok none := by
  rw [decodeRpc]
  split
  · rfl
  · rename_i response hread
    exact absurd ((readText_response_iff h).mp hread) (hnone response)

end Payload

end AgentDelegation
