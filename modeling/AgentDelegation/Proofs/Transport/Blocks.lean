import AgentDelegation.Transport.EventStream

/-!
# The blocks of a body

How the body of an event stream is cut into blocks is said here without a buffer: each block goes up to
the first two line feeds in a row, and what comes after the last of them is the rest. A body can be cut in
one way only, and reading it in pieces of any size cuts it that way.
-/

namespace AgentDelegation.EventStream

open Text

/-- Bytes cut, from left to right, behind each first two line feeds in a row. -/
inductive Cut : List UInt8 → List (List UInt8) → List UInt8 → Prop where
  | rest {bytes : List UInt8} (h : ¬ [lineFeed, lineFeed] <:+: bytes) : Cut bytes [] bytes
  | block {line more rest : List UInt8} {blocks : List (List UInt8)}
      (hline : ¬ [lineFeed, lineFeed] <:+: line ++ [lineFeed]) (hmore : Cut more blocks rest) :
      Cut (line ++ [lineFeed, lineFeed] ++ more) ((line ++ [lineFeed, lineFeed]) :: blocks) rest

/-! ### Where a block ends -/

theorem lineFeeds_infix_cons {b : UInt8} {bytes : List UInt8} :
    [lineFeed, lineFeed] <:+: b :: bytes
      ↔ (b = lineFeed ∧ bytes.head? = some lineFeed) ∨ [lineFeed, lineFeed] <:+: bytes := by
  rw [List.infix_cons_iff, List.cons_prefix_cons, eq_comm]
  cases bytes with
  | nil => simp
  | cons c rest => simp [List.cons_prefix_cons, eq_comm]

theorem blockEnd?_eq_none_iff {bytes : List UInt8} :
    blockEnd? bytes = none ↔ ¬ [lineFeed, lineFeed] <:+: bytes := by
  fun_induction blockEnd? bytes with
  | case1 a b rest hend => simp [lineFeeds_infix_cons, hend]
  | case2 a b rest hend ih =>
      rw [Option.map_eq_none_iff, ih, lineFeeds_infix_cons (b := a)]
      simp [hend]
  | case3 bytes hshort =>
      cases bytes with
      | nil => simp
      | cons a rest =>
          cases rest with
          | nil => simp [lineFeeds_infix_cons]
          | cons b rest => exact (hshort a b rest rfl).elim

theorem head?_line (line more : List UInt8) :
    (line ++ [lineFeed, lineFeed] ++ more).head? = (line ++ [lineFeed]).head? := by
  cases line <;> rfl

/-- The first line to be followed by an empty one ends where the block ends. -/
theorem blockEnd?_line {line : List UInt8} (h : ¬ [lineFeed, lineFeed] <:+: line ++ [lineFeed])
    (more : List UInt8) : blockEnd? (line ++ [lineFeed, lineFeed] ++ more) = some line.length := by
  induction line with
  | nil => rfl
  | cons a line ih =>
      rw [List.cons_append, lineFeeds_infix_cons, not_or] at h
      obtain ⟨hhead, hline⟩ := h
      rw [← head?_line line more] at hhead
      have hrest := ih hline
      simp only [List.cons_append]
      generalize line ++ [lineFeed, lineFeed] ++ more = bytes at hhead hrest
      cases bytes with
      | nil => cases hrest
      | cons b rest =>
          rw [blockEnd?, if_neg fun hend => hhead ⟨hend.1, congrArg some hend.2⟩, hrest]
          rfl

theorem exists_line_of_blockEnd? {bytes : List UInt8} {n : Nat} (h : blockEnd? bytes = some n) :
    ∃ line more, bytes = line ++ [lineFeed, lineFeed] ++ more ∧
      ¬ [lineFeed, lineFeed] <:+: line ++ [lineFeed] ∧ line.length = n := by
  fun_induction blockEnd? bytes generalizing n with
  | case1 a b rest hend => 
      obtain ⟨rfl, rfl⟩ := hend
      exact ⟨[], rest, rfl, by decide, Option.some.inj h⟩
  | case2 a b rest hend ih =>
      obtain ⟨m, hm, rfl⟩ := Option.map_eq_some_iff.mp h
      obtain ⟨line, more, hbytes, hline, rfl⟩ := ih hm
      refine ⟨a :: line, more, by rw [hbytes]; rfl, ?_, rfl⟩
      rw [List.cons_append, lineFeeds_infix_cons]
      rintro (⟨rfl, hhead⟩ | hinfix)
      · rw [← head?_line line more, ← hbytes] at hhead
        exact hend ⟨rfl, Option.some.inj hhead⟩
      · exact hline hinfix
  | case3 => cases h

/-! ### One cut -/

theorem cut_drain (bytes : List UInt8) : Cut bytes (drain bytes).1 (drain bytes).2 := by
  induction hlen : bytes.length using Nat.strongRecOn generalizing bytes with
  | _ length ih =>
      cases hend : blockEnd? bytes with
      | none =>
          rw [drain_of_none hend]
          exact .rest (blockEnd?_eq_none_iff.mp hend)
      | some n =>
          have hmore := ih _ (hlen ▸ length_drop_block_lt hend) (bytes.drop (n + 2)) rfl
          obtain ⟨line, more, rfl, hline, rfl⟩ := exists_line_of_blockEnd? hend
          rw [drain_of_some hend]
          have hlength : (line ++ [lineFeed, lineFeed]).length = line.length + 2 := by simp
          rw [List.drop_left' hlength] at hmore ⊢
          rw [List.take_left' hlength]
          exact .block hline hmore

theorem Cut.eq_drain {bytes rest : List UInt8} {blocks : List (List UInt8)} (h : Cut bytes blocks rest) :
    drain bytes = (blocks, rest) := by
  induction h with
  | rest h => exact drain_of_none (blockEnd?_eq_none_iff.mpr h)
  | @block line more rest blocks hline hmore ih =>
      have hlength : (line ++ [lineFeed, lineFeed]).length = line.length + 2 := by simp
      rw [drain_of_some (blockEnd?_line hline more), List.take_left' hlength, List.drop_left' hlength, ih]

/-! ### What the blocks carry -/

theorem filterMap_data? (blocks : List (List UInt8)) :
    blocks.filterMap data?
      = ((blocks.map fun block => blockText (Utf8.decodeLossy block)).filter fun text =>
          !text.all isBlank).map String.ofList := by
  induction blocks with
  | nil => rfl
  | cons block rest ih =>
      cases h : (blockText (Utf8.decodeLossy block)).all isBlank <;> simp [data?, h, ih]

theorem cut_readAll (pieces : List (List UInt8)) :
    Cut (pieces.flatten.filter (· != carriageReturn)) (readAll [] pieces).1 (readAll [] pieces).2 := by
  rw [readAll_eq_drain_flatten rfl, List.nil_append]
  exact cut_drain _

/-- Pieces carry the data of the blocks they complete, whatever is read after them. -/
theorem ofReads_pieces_append (buffer : List UInt8) (pieces : List (List UInt8))
    (reads : List (Except Http.Failure (List UInt8))) :
    ofReads buffer (pieces.map .ok ++ reads)
      = ((readAll buffer pieces).1.filterMap data?).map .ok ++ ofReads (readAll buffer pieces).2 reads := by
  induction pieces generalizing buffer with
  | nil => rfl
  | cons piece rest ih =>
      simp only [List.map_cons, List.cons_append, ofReads, readAll, ih, List.filterMap_append,
        List.map_append, List.append_assoc]

theorem ofPieces_complete (pieces : List (List UInt8)) :
    ofPieces pieces true
      = (((readAll [] pieces).1 ++ [(readAll [] pieces).2]).filterMap data?).map .ok := by
  rw [ofPieces, if_pos rfl, ofReads_pieces_append, ofReads, List.filterMap_append, List.map_append]
  cases hrest : data? (readAll [] pieces).2 <;> simp [hrest]

/-- However a body is cut into pieces on its way, what it carries is fixed by its bytes: without the carriage
returns these can be cut into blocks in one way, and a complete response carries the texts of the blocks
and of the rest that are not blank. -/
theorem payloads_eq_of_flatten_chunks (body : List UInt8) :
    ∃ blocks rest, Cut (body.filter (· != carriageReturn)) blocks rest ∧
      (∀ others other, Cut (body.filter (· != carriageReturn)) others other →
        others = blocks ∧ other = rest) ∧
      ∀ response : Http.Response, isEventStream response.contentType = true → response.complete = true →
        response.chunks.flatten = body →
        payloads response
          = ((((blocks ++ [rest]).map fun block => blockText (Utf8.decodeLossy block)).filter fun text =>
              !text.all isBlank).map String.ofList).map .ok := by
  have hcut := cut_drain (body.filter (· != carriageReturn))
  refine ⟨_, _, hcut, fun others other hother => ?_, fun response htype hcomplete hbody => ?_⟩
  · have hequal := hother.eq_drain
    exact ⟨(congrArg Prod.fst hequal).symm, (congrArg Prod.snd hequal).symm⟩
  · subst hbody
    have hread := (cut_readAll response.chunks).eq_drain
    rw [payloads, if_pos htype, hcomplete, ofPieces_complete, hread, filterMap_data?]

/-- A body torn inside a character, between carriage return and line feed, and between two line feeds. -/
def torn : Http.Response where
  status := 200
  contentType := some "text/event-stream; charset=utf-8"
  chunks :=
    [Utf8.encode "data: caf".toList ++ [0xC3], [], [0xA9, carriageReturn], [lineFeed, carriageReturn],
      lineFeed :: Utf8.encode "data:b".toList ++ [lineFeed], lineFeed :: Utf8.encode "data: c".toList]
  complete := true

theorem payloads_torn : isEventStream torn.contentType = true ∧ torn.complete = true ∧
    payloads torn = [.ok "café", .ok "b", .ok "c"] := by
  have htype : isEventStream torn.contentType = true := by decide +kernel
  obtain ⟨blocks, rest, -, hunique, hpayloads⟩ := payloads_eq_of_flatten_chunks torn.chunks.flatten
  have hbytes : torn.chunks.flatten.filter (· != carriageReturn)
      = [100, 97, 116, 97, 58, 32, 99, 97, 102, 0xC3, 0xA9] ++ [lineFeed, lineFeed]
        ++ ([100, 97, 116, 97, 58, 98] ++ [lineFeed, lineFeed] ++ [100, 97, 116, 97, 58, 32, 99]) := by
    decide
  rw [hbytes] at hunique
  obtain ⟨rfl, rfl⟩ := hunique _ _ (.block (by decide) (.block (by decide) (.rest (by decide))))
  refine ⟨htype, rfl, ?_⟩
  rw [hpayloads torn htype rfl rfl]
  change List.map Except.ok _ = List.map Except.ok ["café", "b", "c"]
  congr 1
  decide +kernel

end AgentDelegation.EventStream
