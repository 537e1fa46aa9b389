import AgentDelegation.Proofs.Transport.Blocks

/-!
# Bodies that break off

A connection that breaks leaves a body without its end. What was read before the break is a first part of
the body, and its blocks are the first blocks of every body that begins with it (`Cut.append`); only what
comes after the last of them depends on what would have followed. So the blocks are handed on, the failure
is told once, and the rest is dropped with the reads that were still to come.
-/

namespace AgentDelegation.EventStream

open Text

/-- The texts that blocks carry, without the blank ones. -/
def texts (blocks : List (List UInt8)) : List String :=
  ((blocks.map fun block => blockText (Utf8.decodeLossy block)).filter fun text =>
    !text.all isBlank).map String.ofList

theorem texts_append (blocks others : List (List UInt8)) :
    texts (blocks ++ others) = texts blocks ++ texts others := by
  simp only [texts, List.map_append, List.filter_append]

/-! ### Longer bodies -/

/-- The blocks of a body are the first ones of each body that begins with it. -/
theorem Cut.append {bytes rest : List UInt8} {blocks : List (List UInt8)} (h : Cut bytes blocks rest)
    (more : List UInt8) :
    ∃ others last, Cut (rest ++ more) others last ∧ Cut (bytes ++ more) (blocks ++ others) last := by
  induction h with
  | @rest bytes h => exact ⟨_, _, cut_drain _, by simpa using cut_drain (bytes ++ more)⟩
  | block hline hmore ih =>
      obtain ⟨others, last, hrest, hwhole⟩ := ih
      refine ⟨others, last, hrest, ?_⟩
      rw [List.append_assoc]
      exact .block hline hwhole

theorem Cut.isPrefix_of_isPrefix {bytes whole rest last : List UInt8} {blocks all : List (List UInt8)}
    (h : Cut bytes blocks rest) (hwhole : Cut whole all last) (hbytes : bytes <+: whole) :
    blocks <+: all := by
  obtain ⟨more, rfl⟩ := hbytes
  obtain ⟨others, last', -, hcut⟩ := h.append more
  have hequal : (blocks ++ others, last') = (all, last) := hcut.eq_drain.symm.trans hwhole.eq_drain
  exact ⟨others, congrArg Prod.fst hequal⟩

/-! ### What is read -/

/-- Up to a break, reads carry the blocks they complete; the failure is the last thing they carry. -/
theorem ofReads_broken (pieces : List (List UInt8)) (failure : Http.Failure)
    (later : List (Except Http.Failure (List UInt8))) :
    ofReads [] (pieces.map .ok ++ .error failure :: later)
      = (texts (readAll [] pieces).1).map .ok ++ [.error (.stream failure.message)] := by
  rw [ofReads_pieces_append, filterMap_data?]
  rfl

theorem ofReads_whole (pieces : List (List UInt8)) :
    ofReads [] (pieces.map .ok)
      = (texts ((readAll [] pieces).1 ++ [(readAll [] pieces).2])).map .ok := by
  rw [texts, ← filterMap_data?, ← ofPieces_complete, ofPieces, if_pos rfl, List.append_nil]

theorem payloads_broken {response : Http.Response} (htype : isEventStream response.contentType = true)
    (hbroken : response.complete = false) :
    payloads response = ofReads [] (response.chunks.map .ok ++ [.error .brokenBody]) := by
  simp only [payloads, htype, ↓reduceIte, ofPieces, hbroken, Bool.false_eq_true]

theorem payloads_whole {response : Http.Response} (htype : isEventStream response.contentType = true)
    (hcomplete : response.complete = true) :
    payloads response = ofReads [] (response.chunks.map .ok) := by
  simp only [payloads, htype, ↓reduceIte, ofPieces, hcomplete, List.append_nil]

/-- What a body carries until its connection breaks is fixed by the bytes that have arrived: these, without
the carriage returns, can be cut into blocks in one way, and the texts of the blocks are handed on, followed
by one failure and nothing else. Without its failure this is the beginning of what every body carries that
begins with the same bytes and ends cleanly. -/
theorem broken_body_carries_its_whole_blocks (body : List UInt8) :
    ∃ blocks rest, Cut (body.filter (· != carriageReturn)) blocks rest ∧
      (∀ others other, Cut (body.filter (· != carriageReturn)) others other →
        others = blocks ∧ other = rest) ∧
      (∀ pieces : List (List UInt8), pieces.flatten = body → ∀ failure later,
        ofReads [] (pieces.map .ok ++ .error failure :: later)
          = (texts blocks).map .ok ++ [.error (.stream failure.message)]) ∧
      (∀ response : Http.Response, isEventStream response.contentType = true → response.complete = false →
        response.chunks.flatten = body →
        payloads response = (texts blocks).map .ok ++ [.error (.stream Http.Failure.brokenBody.message)]) ∧
      (∀ whole : List (List UInt8), body <+: whole.flatten →
        (texts blocks).map .ok <+: ofReads [] (whole.map .ok)) ∧
      ∀ whole : Http.Response, isEventStream whole.contentType = true → whole.complete = true →
        body <+: whole.chunks.flatten → (texts blocks).map .ok <+: payloads whole := by
  have hcut := cut_drain (body.filter (· != carriageReturn))
  have hreads : ∀ pieces : List (List UInt8), pieces.flatten = body → ∀ failure later,
      ofReads [] (pieces.map .ok ++ .error failure :: later)
        = (texts (drain (body.filter (· != carriageReturn))).1).map .ok
          ++ [.error (.stream failure.message)] := by
    rintro pieces rfl failure later
    rw [ofReads_broken, (cut_readAll pieces).eq_drain]
  have hwhole : ∀ whole : List (List UInt8), body <+: whole.flatten →
      (texts (drain (body.filter (· != carriageReturn))).1).map .ok <+: ofReads [] (whole.map .ok) := by
    intro whole hbody
    obtain ⟨others, hothers⟩ := hcut.isPrefix_of_isPrefix (cut_readAll whole) (hbody.filter _)
    rw [ofReads_whole, ← hothers, List.append_assoc, texts_append, List.map_append]
    exact List.prefix_append ..
  refine ⟨_, _, hcut, fun others other hother => ?_, hreads, ?_, hwhole, ?_⟩
  · have hequal := hother.eq_drain
    exact ⟨(congrArg Prod.fst hequal).symm, (congrArg Prod.snd hequal).symm⟩
  · intro response htype hbroken hbody
    rw [payloads_broken htype hbroken, hreads _ hbody]
  · intro whole htype hcomplete hbody
    rw [payloads_whole htype hcomplete]
    exact hwhole _ hbody

/-- A response that breaks off within its second block, and one that goes on from there. -/
def brokenOff : Http.Response where
  status := 200
  contentType := some "text/event-stream"
  chunks := [Utf8.encode "data: a\r\n\r".toList, Utf8.encode "\ndata: \x7b\x22b\x22".toList]
  complete := false

def endedWell : Http.Response :=
  { brokenOff with
    chunks := [Utf8.encode "data: a\r\n\r\ndata: \x7b\x22b\x22:1\x7d\n\ndata: c".toList], complete := true }

theorem payloads_brokenOff :
    payloads brokenOff = [.ok "a", .error (.stream "error decoding response body")] ∧
    ofReads [] (brokenOff.chunks.map .ok ++ [.error .brokenBody, .ok (Utf8.encode ":1\x7d\n\n".toList)])
      = [.ok "a", .error (.stream "error decoding response body")] ∧
    [.ok "a"] <+: payloads endedWell := by
  have htype : isEventStream brokenOff.contentType = true := by decide +kernel
  obtain ⟨blocks, rest, -, hunique, hreads, hpayloads, -, hwhole⟩ :=
    broken_body_carries_its_whole_blocks brokenOff.chunks.flatten
  have hbytes : brokenOff.chunks.flatten.filter (· != carriageReturn)
      = [100, 97, 116, 97, 58, 32, 97] ++ [lineFeed, lineFeed]
        ++ [100, 97, 116, 97, 58, 32, 123, 34, 98, 34] := by decide +kernel
  rw [hbytes] at hunique
  obtain ⟨rfl, rfl⟩ := hunique _ _ (.block (by decide) (.rest (by decide)))
  have htexts : texts [[100, 97, 116, 97, 58, 32, 97] ++ [lineFeed, lineFeed]] = ["a"] := by decide +kernel
  rw [htexts] at hreads hpayloads hwhole
  exact ⟨hpayloads brokenOff htype rfl rfl, hreads _ rfl _ _, hwhole endedWell htype rfl (by decide +kernel)⟩

end AgentDelegation.EventStream
