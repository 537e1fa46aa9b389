import AgentDelegation.Proofs.Text.Split
import AgentDelegation.Proofs.Text.Utf8
import AgentDelegation.Proofs.Transport.Blocks

/-!
# Reading back what was written as an event stream

Payloads can be written as an event stream in many ways: each line of a payload becomes a line of data, and
other lines, blocks without data, line ends of either sort and a broken-off end are up to the writer.
`Written` says which bodies result. Whatever the writer chose, the reader gives the payloads back
(`payloads_of_written`). The proof goes along the body as it was written, block by block, and carries one
line feed at most from an empty block into the next.
-/

namespace AgentDelegation

namespace EventStream

open Text Utf8

/-! ### Writing -/

def dataLine (text : List Char) : List Char := 'd' :: 'a' :: 't' :: 'a' :: ':' :: ' ' :: text

/-- A line that can stand in a block: not empty, and without line ends. -/
structure IsInner (line : List Char) : Prop where
  ne_nil : line ≠ []
  no_feed : '\n' ∉ line
  no_return : '\r' ∉ line

/-- A line of a block that is not data, such as a comment. -/
structure IsOther (line : List Char) : Prop extends IsInner line where
  no_mark : ¬ "data:".toList <+: line

/-- The lines of an event that says some lines of text, in order and with others mixed in. -/
inductive Mixed : List (List Char) → List (List Char) → Prop where
  | nil : Mixed [] []
  | data (text : List Char) {texts lines : List (List Char)} (h : Mixed texts lines) :
      Mixed (text :: texts) (dataLine text :: lines)
  | other {line : List Char} {texts lines : List (List Char)} (hline : IsOther line) (h : Mixed texts lines) :
      Mixed texts (line :: lines)

/-- The lines of a block: of an event with a payload, or of one without data, that only keeps the stream
alive. -/
inductive IsBlock : Option String → List (List Char) → Prop where
  | event {payload : String} {lines : List (List Char)} (h : Mixed (payload.toList.splitOn '\n') lines) :
      IsBlock (some payload) lines
  | keepAlive {lines : List (List Char)} (h : Mixed [] lines) : IsBlock none lines

/-- Lines written out, each ended by a line feed or by a carriage return and a line feed. -/
inductive Ended : List (List Char) → List Char → Prop where
  | nil : Ended [] []
  | feed (line : List Char) {lines : List (List Char)} {text : List Char} (h : Ended lines text) :
      Ended (line :: lines) (line ++ '\n' :: text)
  | returnFeed (line : List Char) {lines : List (List Char)} {text : List Char} (h : Ended lines text) :
      Ended (line :: lines) (line ++ '\r' :: '\n' :: text)

/-- The bodies that payloads are written as. Each block is ended by an empty line; the last may lack it,
and the end of its last line too. -/
inductive Written : List String → List Char → Prop where
  | nil : Written [] []
  | block {carried : Option String} {lines : List (List Char)} {text more : List Char} {payloads : List String}
      (hblock : IsBlock carried lines) (htext : Ended (lines ++ [[]]) text) (hmore : Written payloads more) :
      Written (carried.toList ++ payloads) (text ++ more)
  | unclosed {carried : Option String} {lines : List (List Char)} {text : List Char}
      (hblock : IsBlock carried lines) (htext : Ended lines text) : Written carried.toList text
  | unended {carried : Option String} {lines : List (List Char)} {last text : List Char}
      (hblock : IsBlock carried (lines ++ [last])) (htext : Ended lines text) :
      Written carried.toList (text ++ last)

variable {carried : Option String} {texts lines : List (List Char)} {front text more body : List Char}
  {payloads : List String}

/-! ### Lines -/

theorem lineData?_dataLine (text : List Char) : lineData? (dataLine text) = some text := rfl

theorem lineData?_of_not_prefix {line : List Char} (h : ¬ "data:".toList <+: line) : lineData? line = none := by
  rw [lineData?.eq_def]
  split
  · exact absurd ⟨_, rfl⟩ h
  · exact absurd ⟨_, rfl⟩ h
  · rfl

theorem filterMap_lineData?_of_mixed (h : Mixed texts lines) : lines.filterMap lineData? = texts := by
  induction h with
  | nil => rfl
  | data text _ ih => rw [List.filterMap_cons, lineData?_dataLine, ih]
  | other hline _ ih => rw [List.filterMap_cons, lineData?_of_not_prefix hline.no_mark, ih]

theorem isInner_of_mixed (h : Mixed texts lines) (htexts : ∀ text ∈ texts, '\n' ∉ text ∧ '\r' ∉ text) :
    ∀ line ∈ lines, IsInner line := by
  induction h with
  | nil => simp
  | data text _ ih =>
      obtain ⟨⟨hfeed, hreturn⟩, hrest⟩ := List.forall_mem_cons.mp htexts
      refine List.forall_mem_cons.mpr ⟨⟨by simp [dataLine], ?_, ?_⟩, ih hrest⟩
      · simpa [dataLine] using hfeed
      · simpa [dataLine] using hreturn
  | other hline _ ih =>
      exact List.forall_mem_cons.mpr ⟨hline.toIsInner, ih htexts⟩

theorem IsBlock.isInner (h : IsBlock carried lines) (hreturn : ∀ payload ∈ carried, '\r' ∉ payload.toList) :
    ∀ line ∈ lines, IsInner line := by
  cases h with
  | event h =>
      refine isInner_of_mixed h fun text htext => ⟨not_mem_of_mem_splitOn htext, ?_⟩
      exact fun hmem => hreturn _ rfl (mem_of_mem_splitOn htext hmem)
  | keepAlive h => exact isInner_of_mixed h (by simp)

/-- Lines, each with a line feed at its end. -/
def unlines (lines : List (List Char)) : List Char := lines.flatMap fun line => line ++ ['\n']

theorem unlines_cons (line : List Char) (lines : List (List Char)) :
    unlines (line :: lines) = line ++ '\n' :: unlines lines := by
  simp [unlines]

theorem unlines_concat (lines : List (List Char)) (line : List Char) :
    unlines (lines ++ [line]) = unlines lines ++ line ++ ['\n'] := by
  simp [unlines]

theorem filter_return_eq_self {line : List Char} (h : '\r' ∉ line) : line.filter (· != '\r') = line := by
  rw [List.filter_eq_self]
  intro c hc
  exact bne_iff_ne.mpr fun he => h (he ▸ hc)

theorem filter_of_ended (h : Ended lines text) (hreturn : ∀ line ∈ lines, '\r' ∉ line) :
    text.filter (· != '\r') = unlines lines := by
  induction h with
  | nil => rfl
  | feed line _ ih | returnFeed line _ ih =>
      obtain ⟨hline, hrest⟩ := List.forall_mem_cons.mp hreturn
      rw [List.filter_append, filter_return_eq_self hline, unlines_cons, ← ih hrest]
      rfl

theorem splitOn_unlines (h : ∀ line ∈ lines, IsInner line) (rest : List Char) :
    (unlines lines ++ rest).splitOn '\n' = lines ++ rest.splitOn '\n' := by
  induction lines with
  | nil => rfl
  | cons line lines ih =>
      obtain ⟨hline, hlines⟩ := List.forall_mem_cons.mp h
      rw [unlines_cons, List.append_assoc, List.cons_append, List.splitOn_append_cons_self_of_not_mem hline.no_feed, ih hlines,
        List.cons_append]

/-! ### Blocks -/

theorem encode_feed (cs : List Char) : encode ('\n' :: cs) = lineFeed :: encode cs := rfl

theorem lineFeeds_infix_append_iff {front : List UInt8} (h : lineFeed ∉ front) (bytes : List UInt8) :
    [lineFeed, lineFeed] <:+: front ++ bytes ↔ [lineFeed, lineFeed] <:+: bytes := by
  induction front with
  | nil => rfl
  | cons b front ih =>
      rw [List.mem_cons, not_or] at h
      rw [List.cons_append, lineFeeds_infix_cons, ih h.2]
      exact or_iff_right fun hb => h.1 hb.1.symm

theorem lineFeed_not_mem_encode {line : List Char} (h : IsInner line) : lineFeed ∉ encode line := fun hmem =>
  h.no_feed ((mem_encode_iff (d := '\n') (by decide)).mp hmem)

theorem head?_encode_unlines (h : ∀ line ∈ lines, IsInner line) :
    (encode (unlines lines)).head? ≠ some lineFeed := by
  cases lines with
  | nil => simp [unlines]
  | cons line lines =>
      have hline := h line List.mem_cons_self
      have hbytes := lineFeed_not_mem_encode hline
      obtain ⟨c, cs, rfl⟩ := List.exists_cons_of_ne_nil hline.ne_nil
      obtain ⟨b, tail, hencode, -⟩ := take_encodeChar c []
      rw [encode_cons, hencode] at hbytes
      rw [unlines_cons, encode_append, encode_cons, hencode]
      intro hhead
      exact hbytes (List.mem_cons.mpr (.inl (Option.some.inj hhead).symm))

/-- There is no empty line among the lines of a block. -/
theorem lineFeeds_not_infix_unlines (h : ∀ line ∈ lines, IsInner line) :
    ¬ [lineFeed, lineFeed] <:+: encode (unlines lines) := by
  induction lines with
  | nil => decide
  | cons line lines ih =>
      obtain ⟨hline, hlines⟩ := List.forall_mem_cons.mp h
      rw [unlines_cons, encode_append, lineFeeds_infix_append_iff (lineFeed_not_mem_encode hline), encode_feed,
        lineFeeds_infix_cons, not_or]
      exact ⟨fun hhead => head?_encode_unlines hlines hhead.2, ih hlines⟩

/-- What an empty block leaves before the next. -/
def IsPending (front : List Char) : Prop := front = [] ∨ front = ['\n']

theorem lineFeeds_not_infix_pending (hfront : IsPending front) (h : ∀ line ∈ lines, IsInner line) :
    ¬ [lineFeed, lineFeed] <:+: encode (front ++ unlines lines) := by
  rcases hfront with rfl | rfl
  · exact lineFeeds_not_infix_unlines h
  · rw [List.singleton_append, encode_feed, lineFeeds_infix_cons, not_or]
    exact ⟨fun hhead => head?_encode_unlines h hhead.2, lineFeeds_not_infix_unlines h⟩

theorem filterMap_splitOn_pending (hfront : IsPending front) (h : ∀ line ∈ lines, IsInner line)
    (rest : List Char) :
    ((front ++ unlines lines ++ rest).splitOn '\n').filterMap lineData?
      = lines.filterMap lineData? ++ (rest.splitOn '\n').filterMap lineData? := by
  rw [List.append_assoc, ← List.filterMap_append, ← splitOn_unlines h]
  rcases hfront with rfl | rfl
  · rfl
  · rw [List.singleton_append, splitOn_cons_self, List.filterMap_cons]
    rfl

theorem data?_of_isBlock (hblock : IsBlock carried lines) (hblank : ∀ payload ∈ carried, allBlank payload = false)
    (htext : (text.splitOn '\n').filterMap lineData? = lines.filterMap lineData?) :
    data? (encode text) = carried := by
  rw [data?, decodeLossy_encode, blockText, htext]
  cases hblock with
  | @event payload _ h =>
      have hpayload : payload.toList.all isBlank = false := hblank payload rfl
      simp only [filterMap_lineData?_of_mixed h, List.intercalate_splitOn, hpayload, String.ofList_toList]
      rfl
  | keepAlive h =>
      rw [filterMap_lineData?_of_mixed h]
      rfl

theorem exists_eq_concat_of_unlines (h : lines ≠ []) : ∃ start, unlines lines = start ++ ['\n'] := by
  rw [← List.dropLast_concat_getLast h, unlines_concat]
  exact ⟨_, rfl⟩

theorem IsBlock.eq_none_of_nil (h : IsBlock carried []) : carried = none := by
  cases h with
  | @event payload _ h =>
      exact absurd (filterMap_lineData?_of_mixed h).symm (List.splitOn_ne_nil '\n' payload.toList)
  | keepAlive => rfl

theorem filter_unlines_of_ended (h : Ended (lines ++ [[]]) text) (hinner : ∀ line ∈ lines, IsInner line) :
    text.filter (· != '\r') = unlines lines ++ ['\n'] := by
  have hreturn : ∀ line ∈ lines ++ [[]], '\r' ∉ line :=
    List.forall_mem_append.mpr ⟨fun line hline => (hinner line hline).no_return, by simp⟩
  rw [filter_of_ended h hreturn, unlines_concat, List.append_nil]

theorem filterMap_data?_cons {block : List UInt8} (h : data? block = carried) (blocks : List (List UInt8)) :
    (block :: blocks).filterMap data? = carried.toList ++ blocks.filterMap data? := by
  rw [List.filterMap_cons, h]
  cases carried <;> rfl

/-- Behind whatever an empty block left, the text is cut into pieces that carry the payloads. -/
def CutsInto (text : List Char) (payloads : List String) : Prop :=
  ∀ front, IsPending front → ∃ blocks rest, Cut (encode (front ++ text)) blocks rest ∧
    (blocks ++ [rest]).filterMap data? = payloads

theorem cutsInto_of_empty (hmore : CutsInto more payloads) : CutsInto ('\n' :: more) payloads := by
  intro front hfront
  -- The first empty line in a row is left for the next block, the second ends a piece of its own.
  rcases hfront with rfl | rfl
  · exact hmore ['\n'] (.inr rfl)
  · obtain ⟨blocks, rest, hcut, hdata⟩ := hmore [] (.inl rfl)
    have hbytes : encode (['\n'] ++ '\n' :: more) = [] ++ [lineFeed, lineFeed] ++ encode more := rfl
    have hpiece : data? ([] ++ [lineFeed, lineFeed]) = none :=
      data?_of_isBlock (.keepAlive .nil) (by simp) (rfl : (['\n', '\n'].splitOn '\n').filterMap lineData? = [])
    rw [hbytes]
    refine ⟨_, rest, .block (by decide) hcut, ?_⟩
    rw [List.cons_append, filterMap_data?_cons hpiece, hdata]
    rfl

theorem cutsInto_of_lines (hblock : IsBlock carried lines) (hlines : lines ≠ [])
    (hinner : ∀ line ∈ lines, IsInner line) (hblank : ∀ payload ∈ carried, allBlank payload = false)
    (hmore : CutsInto more payloads) : CutsInto (unlines lines ++ '\n' :: more) (carried.toList ++ payloads) := by
  intro front hfront
  obtain ⟨start, hstart⟩ := exists_eq_concat_of_unlines hlines
  obtain ⟨blocks, rest, hcut, hdata⟩ := hmore [] (.inl rfl)
  have hquiet := lineFeeds_not_infix_pending hfront hinner
  have hpiece := data?_of_isBlock hblock hblank ((filterMap_splitOn_pending hfront hinner ['\n']).trans
    (List.append_nil _))
  rw [hstart] at hquiet hpiece ⊢
  have hline : encode (front ++ (start ++ ['\n'])) = encode (front ++ start) ++ [lineFeed] := by
    rw [← List.append_assoc, encode_append]
    rfl
  have hbytes : encode (front ++ (start ++ ['\n'] ++ '\n' :: more))
      = encode (front ++ start) ++ [lineFeed, lineFeed] ++ encode more := by
    rw [← List.append_assoc, encode_append, hline, encode_feed]
    simp
  rw [hline] at hquiet
  rw [encode_append, hline, List.append_assoc] at hpiece
  rw [hbytes]
  refine ⟨_, rest, .block hquiet hcut, ?_⟩
  exact (filterMap_data?_cons hpiece _).trans (congrArg _ hdata)

theorem cutsInto_of_block (hblock : IsBlock carried lines) (hinner : ∀ line ∈ lines, IsInner line)
    (hblank : ∀ payload ∈ carried, allBlank payload = false) (hmore : CutsInto more payloads) :
    CutsInto (unlines lines ++ '\n' :: more) (carried.toList ++ payloads) := by
  by_cases hlines : lines = []
  · subst hlines
    obtain rfl := hblock.eq_none_of_nil
    exact cutsInto_of_empty hmore
  · exact cutsInto_of_lines hblock hlines hinner hblank hmore

/-- At the end of a body no empty line comes any more: the text is one piece. -/
theorem cutsInto_of_last (hblock : IsBlock carried lines) (hblank : ∀ payload ∈ carried, allBlank payload = false)
    (hquiet : ∀ front, IsPending front → ¬ [lineFeed, lineFeed] <:+: encode (front ++ text))
    (htext : ∀ front, IsPending front →
      ((front ++ text).splitOn '\n').filterMap lineData? = lines.filterMap lineData?) :
    CutsInto text carried.toList := by
  intro front hfront
  refine ⟨[], _, .rest (hquiet front hfront), ?_⟩
  rw [List.nil_append, filterMap_data?_cons (data?_of_isBlock hblock hblank (htext front hfront))]
  exact List.append_nil _

/-- Lines at the end of a body, the last of which is ended. -/
theorem cutsInto_unlines (hblock : IsBlock carried lines) (hinner : ∀ line ∈ lines, IsInner line)
    (hblank : ∀ payload ∈ carried, allBlank payload = false) :
    CutsInto (unlines lines) carried.toList := by
  refine cutsInto_of_last hblock hblank (fun front hfront => lineFeeds_not_infix_pending hfront hinner) ?_
  intro front hfront
  have hlines := filterMap_splitOn_pending hfront hinner []
  rw [List.append_nil] at hlines
  exact hlines.trans (List.append_nil _)

/-- Lines at the end of a body, the last of which is not ended. -/
theorem cutsInto_unlines_append {last : List Char} (hblock : IsBlock carried (lines ++ [last]))
    (hinner : ∀ line ∈ lines ++ [last], IsInner line)
    (hblank : ∀ payload ∈ carried, allBlank payload = false) :
    CutsInto (unlines lines ++ last) carried.toList := by
  obtain ⟨hlines, hlast⟩ := List.forall_mem_append.mp hinner
  rw [List.forall_mem_singleton] at hlast
  refine cutsInto_of_last hblock hblank ?_ ?_
  · intro front hfront
    have hquiet := lineFeeds_not_infix_pending hfront hinner
    rw [unlines_concat, ← List.append_assoc, encode_append] at hquiet
    exact fun hfeeds => hquiet (hfeeds.trans (List.prefix_append _ _).isInfix)
  · intro front hfront
    rw [← List.append_assoc, filterMap_splitOn_pending hfront hlines, List.splitOn_eq_singleton hlast.no_feed,
      List.filterMap_append]

/-- A body is cut where its blocks end, and the pieces carry its payloads. -/
theorem cutsInto_of_written (hwritten : Written payloads body)
    (hreturn : ∀ payload ∈ payloads, '\r' ∉ payload.toList)
    (hblank : ∀ payload ∈ payloads, allBlank payload = false) :
    CutsInto (body.filter (· != '\r')) payloads := by
  induction hwritten with
  | nil => exact cutsInto_unlines (.keepAlive .nil) (by simp) (by simp)
  | @block carried lines text more payloads hblock htext hmore ih =>
      simp only [List.forall_mem_append, Option.mem_toList] at hreturn hblank
      have hinner := hblock.isInner hreturn.1
      rw [List.filter_append, filter_unlines_of_ended htext hinner, List.append_assoc]
      exact cutsInto_of_block hblock hinner hblank.1 (ih hreturn.2 hblank.2)
  | @unclosed carried lines text hblock htext =>
      simp only [Option.mem_toList] at hreturn hblank
      have hinner := hblock.isInner hreturn
      rw [filter_of_ended htext fun line hline => (hinner line hline).no_return]
      exact cutsInto_unlines hblock hinner hblank
  | @unended carried lines last text hblock htext =>
      simp only [Option.mem_toList] at hreturn hblank
      have hinner := hblock.isInner hreturn
      obtain ⟨hlines, hlast⟩ := List.forall_mem_append.mp hinner
      rw [List.forall_mem_singleton] at hlast
      rw [List.filter_append, filter_of_ended htext fun line hline => (hlines line hline).no_return,
        filter_return_eq_self hlast.no_return]
      exact cutsInto_unlines_append hblock hinner hblank

theorem payloads_of_cut {response : Http.Response} (htype : isEventStream response.contentType = true)
    (hcomplete : response.complete = true) {blocks : List (List UInt8)} {rest : List UInt8}
    (hcut : Cut (response.chunks.flatten.filter (· != carriageReturn)) blocks rest) :
    EventStream.payloads response = ((blocks ++ [rest]).filterMap data?).map .ok := by
  have hread := readAll_eq_drain_flatten (rfl : blockEnd? [] = none) response.chunks
  rw [List.nil_append, hcut.eq_drain] at hread
  rw [EventStream.payloads, if_pos htype, hcomplete, ofPieces_complete, hread]

/-! ### Payloads of one line -/

/-- The simplest body: a line of data for each payload, and each event a piece of its own. -/
def lineStream (payloads : List String) : Http.Response where
  status := 200
  contentType := some "text/event-stream"
  chunks := payloads.map fun payload => encode (dataLine payload.toList ++ ['\n', '\n'])
  complete := true

theorem written_lines (h : ∀ payload ∈ payloads, '\n' ∉ payload.toList) :
    Written payloads (payloads.flatMap fun payload => dataLine payload.toList ++ ['\n', '\n']) := by
  induction payloads with
  | nil => exact .nil
  | cons payload rest ih =>
      obtain ⟨hpayload, hrest⟩ := List.forall_mem_cons.mp h
      have hblock : IsBlock (some payload) [dataLine payload.toList] := by
        refine .event ?_
        rw [List.splitOn_eq_singleton hpayload]
        exact .data _ .nil
      exact .block hblock (.feed _ (.feed _ .nil)) (ih hrest)

theorem payloads_lineStream (hfeed : ∀ payload ∈ payloads, '\n' ∉ payload.toList)
    (hreturn : ∀ payload ∈ payloads, '\r' ∉ payload.toList)
    (hblank : ∀ payload ∈ payloads, allBlank payload = false) :
    EventStream.payloads (lineStream payloads) = payloads.map .ok := by
  obtain ⟨blocks, rest, hcut, hdata⟩ := cutsInto_of_written (written_lines hfeed) hreturn hblank [] (.inl rfl)
  have hbody : (lineStream payloads).chunks.flatten
      = encode (payloads.flatMap fun payload => dataLine payload.toList ++ ['\n', '\n']) := by
    rw [encode, List.flatMap_assoc]
    rfl
  have htype : isEventStream (lineStream payloads).contentType = true :=
    (by decide +kernel : isEventStream (some "text/event-stream") = true)
  rw [List.nil_append, ← filter_encode (d := '\r') (by decide), ← hbody] at hcut
  rw [payloads_of_cut htype rfl hcut, hdata]

/-! ### Any payloads -/

/-- Reading undoes writing. Whatever way payloads were written as an event stream, and however the body was
torn on its way, a complete response carries exactly these payloads, in order. -/
theorem payloads_of_written (hwritten : Written payloads body)
    (hreturn : ∀ payload ∈ payloads, '\r' ∉ payload.toList)
    (hblank : ∀ payload ∈ payloads, allBlank payload = false) {response : Http.Response}
    (htype : isEventStream response.contentType = true) (hcomplete : response.complete = true)
    (hbody : response.chunks.flatten = encode body) :
    EventStream.payloads response = payloads.map .ok := by
  obtain ⟨blocks, rest, hcut, hdata⟩ := cutsInto_of_written hwritten hreturn hblank [] (.inl rfl)
  rw [List.nil_append, ← filter_encode (d := '\r') (by decide), ← hbody] at hcut
  rw [payloads_of_cut htype hcomplete hcut, hdata]

/-- A payload of three lines, of which the first and the last are empty, and another whose line is not ended.
Before them comes a block without data and between them an empty one; the bytes are torn inside a character. -/
def noted : Http.Response where
  status := 200
  contentType := some "text/event-stream"
  chunks :=
    [encode ": up\r\n\r\nevent: note\ndata: \r\ndata: caf".toList ++ [0xC3],
      0xA9 :: encode "\nid: 7\ndata: \r\n\n\ndata: b".toList]
  complete := true

theorem payloads_noted : isEventStream noted.contentType = true ∧ noted.complete = true ∧
    EventStream.payloads noted = [.ok "\ncafé\n", .ok "b"] := by
  have htype : isEventStream noted.contentType = true := by decide +kernel
  have hup : IsOther ": up".toList := ⟨⟨by decide, by decide, by decide⟩, by decide⟩
  have hevent : IsOther "event: note".toList := ⟨⟨by decide, by decide, by decide⟩, by decide⟩
  have hid : IsOther "id: 7".toList := ⟨⟨by decide, by decide, by decide⟩, by decide⟩
  have hlines : "\ncafé\n".toList.splitOn '\n' = [[], "café".toList, []] := by decide
  have hfirst : IsBlock (some "\ncafé\n")
      ["event: note".toList, dataLine [], dataLine "café".toList, "id: 7".toList, dataLine []] := by
    refine .event ?_
    rw [hlines]
    exact .other hevent (.data _ (.data _ (.other hid (.data _ .nil))))
  have hsecond : IsBlock (some "b") ([] ++ [dataLine "b".toList]) := .event (.data _ .nil)
  have hwritten : Written ["\ncafé\n", "b"] _ :=
    .block (.keepAlive (.other hup .nil)) (.returnFeed _ (.returnFeed _ .nil))
      (.block hfirst (.feed _ (.returnFeed _ (.feed _ (.feed _ (.returnFeed _ (.feed _ .nil))))))
        (.block (.keepAlive .nil) (.feed _ .nil) (.unended hsecond .nil)))
  exact ⟨htype, rfl, payloads_of_written hwritten (by decide) (by decide) htype rfl (by decide +kernel)⟩

end EventStream

end AgentDelegation
