import AgentDelegation.Text.Digits

/-!
# Quoted texts

A text stands between two quotation marks, in which a backslash begins an escape, or between two
apostrophes, in which it does not. Three marks in a row open a text of several lines: a line end right
after them does not count, every other line end is one line feed however it is written, and one or two
marks may stand in the text or right before the three that close it.

The readers take what follows the opening and give the text with what follows the closing. Every
character read makes the rest shorter, so they end, and `length_read_lt` says so to their callers.
-/

namespace AgentDelegation.Toml

/-- Spaces and tabs, which may stand between any two parts of a line. -/
def isGap (c : Char) : Bool := c == ' ' || c == '\t'

/-- Characters that may stand as they are: of the ASCII control characters only the tab. -/
def isPlain (c : Char) : Bool := c == '\t' || (decide (0x20 ≤ c.toNat) && c.toNat != 0x7F)

/-- What follows a line end: a line feed, or a carriage return and a line feed. -/
def newline? : List Char → Option (List Char)
  | '\n' :: rest => some rest
  | '\r' :: '\n' :: rest => some rest
  | _ => none

def skipLines : List Char → List Char
  | ' ' :: rest => skipLines rest
  | '\t' :: rest => skipLines rest
  | '\n' :: rest => skipLines rest
  | '\r' :: '\n' :: rest => skipLines rest
  | cs => cs

def nextText? (cs : List Char) : Option (List Char) := (newline? (cs.dropWhile isGap)).map skipLines

theorem length_newline?_lt {cs rest : List Char} (h : newline? cs = some rest) : rest.length < cs.length := by
  unfold newline? at h
  split at h
  · simp only [Option.some.injEq] at h
    simp [h]
  · simp only [Option.some.injEq] at h
    simp only [List.length_cons, h]
    omega
  · cases h

theorem length_skipLines_le (cs : List Char) : (skipLines cs).length ≤ cs.length := by
  fun_induction skipLines cs <;> simp <;> omega

theorem length_nextText?_lt {cs rest : List Char} (h : nextText? cs = some rest) : rest.length < cs.length := by
  obtain ⟨below, hbelow, rfl⟩ := Option.map_eq_some_iff.1 h
  have hgap := (List.dropWhile_sublist isGap (l := cs)).length_le
  exact Nat.lt_of_le_of_lt (length_skipLines_le below) (Nat.lt_of_lt_of_le (length_newline?_lt hbelow) hgap)

/-- The character whose number is spelt by the given count of hexadecimal digits. -/
def scalar? (count : Nat) (cs : List Char) : Option Char :=
  let digits := cs.take count
  if digits.length = count then
    (Text.number? 16 digits).bind fun n => if n.isValidChar then some (Char.ofNat n) else none
  else none

/-- The character of an escape with the given letter, and how many digits follow the letter. -/
def escape? (letter : Char) (rest : List Char) : Option (Char × Nat) :=
  if letter = 'b' then some ('\x08', 0)
  else if letter = 't' then some ('\t', 0)
  else if letter = 'n' then some ('\n', 0)
  else if letter = 'f' then some ('\x0c', 0)
  else if letter = 'r' then some ('\r', 0)
  else if letter = '\x22' then some ('\x22', 0)
  else if letter = '\\' then some ('\\', 0)
  else if letter = 'u' then (scalar? 4 rest).map (·, 4)
  else if letter = 'U' then (scalar? 8 rest).map (·, 8)
  else none

/-- The mark around a text, and whether a backslash begins an escape in it. -/
structure Quoting where
  mark : Char
  escapes : Bool
deriving DecidableEq, Repr, Inhabited

namespace Quoting

def basic : Quoting := ⟨'\x22', true⟩

def literal : Quoting := ⟨'\x27', false⟩

def ofMark? (c : Char) : Option Quoting :=
  if c = basic.mark then some basic else if c = literal.mark then some literal else none

/-- Reads a text on one line, of which the given characters have been read, in reverse. -/
def line (quoting : Quoting) (cs text : List Char) : Option (String × List Char) :=
  match cs with
  | [] => none
  | c :: rest =>
    if c = quoting.mark then some (String.ofList text.reverse, rest)
    else if c = '\\' ∧ quoting.escapes then
      match rest with
      | [] => none
      | letter :: rest =>
        match escape? letter rest with
        | none => none
        | some (c, digits) => line quoting (rest.drop digits) (c :: text)
    else if isPlain c then line quoting rest (c :: text)
    else none
termination_by cs.length
decreasing_by
  · simp only [List.length_cons, List.length_drop]; omega
  · simp

theorem length_line_lt {quoting : Quoting} {cs text rest : List Char} {s : String}
    (h : quoting.line cs text = some (s, rest)) : rest.length < cs.length := by
  fun_induction line quoting cs text <;> simp_all <;> omega

/-- Reads a text on several lines, of which the given characters have been read, in reverse. A backslash
at the end of a line takes the line end away, and all gaps and line ends after it. -/
def block (quoting : Quoting) (cs text : List Char) : Option (String × List Char) :=
  match cs with
  | [] => none
  | c :: rest =>
    if c = quoting.mark then
      let marks := (rest.takeWhile (· == quoting.mark)).length + 1
      if marks < 3 then block quoting rest (c :: text)
      else if marks ≤ 5 then some (String.ofList (List.replicate (marks - 3) c ++ text).reverse, rest.drop (marks - 1))
      else none
    else if c = '\\' ∧ quoting.escapes then
      match _ : nextText? rest with
      | some below => block quoting below text
      | none =>
        match rest with
        | [] => none
        | letter :: rest =>
          match escape? letter rest with
          | none => none
          | some (c, digits) => block quoting (rest.drop digits) (c :: text)
    else if isPlain c then block quoting rest (c :: text)
    else
      match _ : newline? (c :: rest) with
      | some below => block quoting below ('\n' :: text)
      | none => none
termination_by cs.length
decreasing_by
  · simp
  · exact Nat.lt_succ_of_lt (length_nextText?_lt ‹_›)
  · simp only [List.length_cons, List.length_drop]; omega
  · simp
  · exact length_newline?_lt ‹_›

theorem length_block_lt {quoting : Quoting} {cs text rest : List Char} {s : String}
    (h : quoting.block cs text = some (s, rest)) : rest.length < cs.length := by
  fun_induction block quoting cs text with
  | case2 _ _ _ _ ih => exact Nat.lt_succ_of_lt (ih h)
  | case3 =>
    simp only [Option.some.injEq, Prod.mk.injEq] at h
    rw [← h.2, List.length_drop, List.length_cons]; omega
  | case5 _ _ _ _ _ _ hbelow ih =>
    exact Nat.lt_succ_of_lt (Nat.lt_trans (ih h) (length_nextText?_lt hbelow))
  | case8 _ _ _ _ _ _ _ _ _ _ ih =>
    have := ih h
    simp only [List.length_cons, List.length_drop] at this ⊢; omega
  | case9 _ _ _ _ _ _ ih => exact Nat.lt_succ_of_lt (ih h)
  | case10 _ _ _ _ _ _ _ hbelow ih => exact Nat.lt_trans (ih h) (length_newline?_lt hbelow)
  | _ => simp at h

/-- Reads a text after its first mark. -/
def read (quoting : Quoting) (cs : List Char) : Option (String × List Char) :=
  match cs with
  | a :: b :: rest =>
    if a = quoting.mark ∧ b = quoting.mark then quoting.block ((newline? rest).getD rest) []
    else quoting.line cs []
  | _ => quoting.line cs []

theorem length_read_lt {quoting : Quoting} {cs rest : List Char} {s : String}
    (h : quoting.read cs = some (s, rest)) : rest.length < cs.length := by
  unfold read at h
  split at h
  · split at h
    · rename_i below _
      have hblock := length_block_lt h
      cases hline : newline? below with
      | none => simp only [hline, Option.getD_none] at hblock; simp only [List.length_cons]; omega
      | some after =>
        have := length_newline?_lt hline
        simp only [hline, Option.getD_some] at hblock; simp only [List.length_cons]; omega
    · exact length_line_lt h
  · exact length_line_lt h

end Quoting

end AgentDelegation.Toml
