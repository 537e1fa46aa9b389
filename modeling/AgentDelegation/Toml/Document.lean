import AgentDelegation.Toml.Reader

/-!
# TOML documents

A document is a list of statements, one a line: a header opens a table or the next table of an array, and
an assignment goes into the table opened last. Reading the text and filling the tables are two steps, so
that what a list of statements means can be said without the text.
-/

namespace AgentDelegation.Toml

/-- What one line of a document says. -/
inductive Statement where
  | assign (key : Key) (v : Value)
  | header (key : Key)
  | arrayHeader (key : Key)
deriving Repr, Inhabited

/-- A document as far as it is read: its tables, and the path of the one that assignments go into. -/
structure Draft where
  root : Table
  path : List String
deriving Repr, Inhabited

namespace Draft

def empty : Draft := ⟨[], []⟩

/-- Opens a table that is made by the given change of the table around it. -/
def enter (draft : Draft) (key : Key) (edit : String → Table → Option Table) : Option Draft :=
  (Table.within key.path (edit key.name) draft.root).map fun root => ⟨root, key.path ++ [key.name]⟩

/-- What a statement makes of a document, unless it contradicts an earlier one. -/
def extend (draft : Draft) : Statement → Option Draft
  | .assign key v =>
    (Table.within draft.path (Table.assign key.name v key.path) draft.root).map fun root => ⟨root, draft.path⟩
  | .header key => draft.enter key Table.declare
  | .arrayHeader key => draft.enter key Table.append

end Draft

namespace Statement

def toTable? (statements : List Statement) : Option Table :=
  (statements.foldlM Draft.extend .empty).map (·.root)

/-- Reads a header or an assignment, without the end of its line. -/
def readBare (cs : List Char) : Option (Statement × List Char) :=
  match cs with
  | '[' :: '[' :: rest =>
    match readKey rest [] with
    | some (key, ']' :: ']' :: rest) => some (.arrayHeader key, rest)
    | _ => none
  | '[' :: rest =>
    match readKey rest [] with
    | some (key, ']' :: rest) => some (.header key, rest)
    | _ => none
  | cs => ((Reader.value Reader.depthLimit).assignment.read cs).map fun ((key, v), rest) => (.assign key v, rest)

theorem length_readBare_lt {cs rest : List Char} {statement : Statement}
    (h : readBare cs = some (statement, rest)) : rest.length < cs.length := by
  unfold readBare at h
  split at h
  · split at h
    · rename_i hkey
      have := length_readKey_lt hkey
      simp only [Option.some.injEq, Prod.mk.injEq] at h
      simp only [List.length_cons, h.2] at this ⊢
      omega
    · simp at h
  · split at h
    · rename_i hkey
      have := length_readKey_lt hkey
      simp only [Option.some.injEq, Prod.mk.injEq] at h
      simp only [List.length_cons, h.2] at this ⊢
      omega
    · simp at h
  · obtain ⟨⟨⟨_, _⟩, _⟩, hread, heq⟩ := Option.map_eq_some_iff.1 h
    simp only [Prod.mk.injEq] at heq
    exact heq.2 ▸ Reader.shortens _ hread

def dropComment : List Char → List Char
  | '#' :: rest => rest.dropWhile isPlain
  | cs => cs

theorem length_dropComment_le (cs : List Char) : (dropComment cs).length ≤ cs.length := by
  unfold dropComment
  split
  · exact Nat.le_succ_of_le (List.dropWhile_sublist isPlain).length_le
  · exact Nat.le_refl _

/-- What follows the end of a line, if nothing but a comment comes before it. The text may end as well. -/
def endLine? (cs : List Char) : Option (List Char) :=
  let rest := dropComment (skipGaps cs)
  if rest.isEmpty then some [] else newline? rest

theorem length_endLine?_le {cs rest : List Char} (h : endLine? cs = some rest) : rest.length ≤ cs.length := by
  have hgaps := length_skipGaps_le cs
  have hcomment := length_dropComment_le (skipGaps cs)
  simp only [endLine?] at h
  split at h
  · simp only [Option.some.injEq] at h
    simp [← h]
  · have hline := length_newline?_lt h
    omega

/-- Reads the statements of a text, of which some have been read, in reverse. -/
def readAll (cs : List Char) (found : List Statement) : Option (List Statement) :=
  match _ : skipComments cs with
  | [] => some found.reverse
  | c :: rest =>
    match _ : readBare (c :: rest) with
    | none => none
    | some (statement, rest) =>
      match _ : endLine? rest with
      | none => none
      | some rest => readAll rest (statement :: found)
termination_by cs.length
decreasing_by
  have h1 := length_skipComments_le cs
  have h2 := length_readBare_lt ‹_›
  have h3 := length_endLine?_le ‹_›
  rw [‹skipComments cs = _›] at h1
  omega

end Statement

/-- Drops a mark of the byte order from the front of a text. -/
def dropByteOrderMark : List Char → List Char
  | [] => []
  | c :: rest => if c.toNat = 0xFEFF then rest else c :: rest

def parse? (cs : List Char) : Option Value :=
  ((Statement.readAll (dropByteOrderMark cs) []).bind Statement.toTable?).map (.table .header)

end AgentDelegation.Toml
