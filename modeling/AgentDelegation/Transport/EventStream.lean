import AgentDelegation.Http.Network
import AgentDelegation.Text.Blank
import AgentDelegation.Transport.Failure

/-!
# Event streams

The body of an event stream is a sequence of blocks, each ended by an empty line; carriage returns do not
count. A block carries the text of its `data` lines, and one whose text is blank carries nothing. The body
arrives in pieces of any size: the reader keeps a buffer, adds each piece to it and takes the complete
blocks off its front, so how the body is cut does not matter (`readAll_eq_drain_flatten`). What is left in
the buffer at the end counts as a last block only if the body ends cleanly. A body of another type is one
text.
-/

namespace AgentDelegation.EventStream

open Text

def lineFeed : UInt8 := 10

def carriageReturn : UInt8 := 13

/-- Where the first two line feeds in a row begin. -/
def blockEnd? : List UInt8 → Option Nat
  | a :: b :: rest =>
    if a = lineFeed ∧ b = lineFeed then some 0 else (blockEnd? (b :: rest)).map (· + 1)
  | _ => none

theorem length_drop_block_lt {buffer : List UInt8} {n : Nat} (h : blockEnd? buffer = some n) :
    (buffer.drop (n + 2)).length < buffer.length := by
  cases buffer with
  | nil => simp [blockEnd?] at h
  | cons b rest => simp only [List.length_drop, List.length_cons]; omega

/-- Takes the complete blocks off a buffer: the blocks, and what is left. -/
def drain (buffer : List UInt8) : List (List UInt8) × List UInt8 :=
  match _h : blockEnd? buffer with
  | none => ([], buffer)
  | some n =>
    let (blocks, rest) := drain (buffer.drop (n + 2))
    (buffer.take (n + 2) :: blocks, rest)
termination_by buffer.length
decreasing_by exact length_drop_block_lt _h

/-- Reads a piece: the blocks it completes, and what the buffer holds after it. -/
def read (buffer piece : List UInt8) : List (List UInt8) × List UInt8 :=
  drain (buffer ++ piece.filter (· != carriageReturn))

def readAll (buffer : List UInt8) : List (List UInt8) → List (List UInt8) × List UInt8
  | [] => ([], buffer)
  | piece :: rest =>
    let (blocks, buffer) := read buffer piece
    let (more, buffer) := readAll buffer rest
    (blocks ++ more, buffer)

theorem blockEnd?_append {buffer : List UInt8} {n : Nat} (h : blockEnd? buffer = some n) (more : List UInt8) :
    blockEnd? (buffer ++ more) = some n ∧ n + 2 ≤ buffer.length := by
  fun_induction blockEnd? buffer generalizing n with
  | case1 a b rest hend =>
      obtain rfl : 0 = n := Option.some.inj h
      simp [blockEnd?, hend]
  | case2 a b rest hend ih =>
      obtain ⟨m, hm, rfl⟩ := Option.map_eq_some_iff.mp h
      obtain ⟨happend, hlength⟩ := ih hm
      refine ⟨?_, by simp only [List.length_cons] at hlength ⊢; omega⟩
      rw [List.cons_append, List.cons_append, blockEnd?, if_neg hend, ← List.cons_append, happend]
      rfl
  | case3 => cases h

theorem drain_of_none {buffer : List UInt8} (h : blockEnd? buffer = none) : drain buffer = ([], buffer) := by
  rw [drain]
  split
  · rfl
  · simp_all

theorem drain_of_some {buffer : List UInt8} {n : Nat} (h : blockEnd? buffer = some n) :
    drain buffer
      = (buffer.take (n + 2) :: (drain (buffer.drop (n + 2))).1, (drain (buffer.drop (n + 2))).2) := by
  rw [drain]
  split
  · simp_all
  · rename_i m hm
    obtain rfl : n = m := Option.some.inj (h.symm.trans hm)
    rfl

/-- Taking blocks off early or late makes no difference. -/
theorem drain_append (first second : List UInt8) :
    drain (first ++ second)
      = ((drain first).1 ++ (drain ((drain first).2 ++ second)).1, (drain ((drain first).2 ++ second)).2) := by
  induction hlen : first.length using Nat.strongRecOn generalizing first with
  | _ length ih =>
      cases hend : blockEnd? first with
      | none => simp [drain_of_none hend]
      | some n =>
          obtain ⟨hmore, hle⟩ := blockEnd?_append hend second
          have hrest := ih _ (hlen ▸ length_drop_block_lt hend) (first.drop (n + 2)) rfl
          rw [drain_of_some hmore, drain_of_some hend, List.take_append_of_le_length hle,
            List.drop_append_of_le_length hle, hrest]
          rfl

theorem blockEnd?_snd_drain (buffer : List UInt8) : blockEnd? (drain buffer).2 = none := by
  induction hlen : buffer.length using Nat.strongRecOn generalizing buffer with
  | _ length ih =>
      cases hend : blockEnd? buffer with
      | none => rw [drain_of_none hend]; exact hend
      | some n => rw [drain_of_some hend]; exact ih _ (hlen ▸ length_drop_block_lt hend) _ rfl

/-- Reading pieces is reading what they make up, as long as the buffer holds no whole block. -/
theorem readAll_eq_drain_flatten {buffer : List UInt8} (h : blockEnd? buffer = none)
    (pieces : List (List UInt8)) :
    readAll buffer pieces = drain (buffer ++ pieces.flatten.filter (· != carriageReturn)) := by
  induction pieces generalizing buffer with
  | nil => simp [readAll, drain_of_none h]
  | cons piece rest ih =>
      have hbuffer : blockEnd? (read buffer piece).2 = none := blockEnd?_snd_drain _
      simp only [readAll]
      rw [ih hbuffer, List.flatten_cons, List.filter_append, ← List.append_assoc,
        drain_append (buffer ++ piece.filter _)]
      rfl

/-- What a line says after its `data:` and one space. -/
def lineData? : List Char → Option (List Char)
  | 'd' :: 'a' :: 't' :: 'a' :: ':' :: ' ' :: data => some data
  | 'd' :: 'a' :: 't' :: 'a' :: ':' :: data => some data
  | _ => none

def blockText (block : List Char) : List Char := ['\n'].intercalate ((block.splitOn '\n').filterMap lineData?)

def data? (block : List UInt8) : Option String :=
  let text := blockText (Utf8.decodeLossy block)
  if text.all isBlank then none else some (String.ofList text)

/-- What is read of an event stream, piece by piece, with a buffer already filled. Where no more can be read,
what the buffer holds is lost and nothing follows the failure. -/
def ofReads (buffer : List UInt8) :
    List (Except Http.Failure (List UInt8)) → List (Except TransportFailure String)
  | [] => ((data? buffer).map .ok).toList
  | .error failure :: _ => [.error (.stream failure.message)]
  | .ok piece :: rest =>
    let (blocks, buffer) := read buffer piece
    (blocks.filterMap data?).map .ok ++ ofReads buffer rest

/-- The payloads of an event stream; one that breaks off ends with a failure. -/
def ofPieces (pieces : List (List UInt8)) (complete : Bool) : List (Except TransportFailure String) :=
  ofReads [] (pieces.map .ok ++ if complete then [] else [.error .brokenBody])

/-- The payload of a body that is no event stream. -/
def ofWhole (text : Except Http.Failure String) : List (Except TransportFailure String) :=
  match text with
  | .ok text => if allBlank text then [] else [.ok text]
  | .error failure => [.error (.stream failure.message)]

def isEventStream (contentType : Option String) : Bool :=
  contentType.any fun type => type.startsWith "text/event-stream"

def payloads (response : Http.Response) : List (Except TransportFailure String) :=
  if isEventStream response.contentType then ofPieces response.chunks response.complete
  else ofWhole response.text

end AgentDelegation.EventStream
