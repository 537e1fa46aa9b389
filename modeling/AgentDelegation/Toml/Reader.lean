import AgentDelegation.Toml.Literal
import AgentDelegation.Toml.Quoted
import AgentDelegation.Toml.Table

/-!
# Reading values

A reader takes something off the front of a text and always leaves less than it was given; that fact is
part of it, so that readers of lists can be made from readers of elements. Arrays may run over several
lines with comments between; inline tables stay on one line. Containers enclose one another only so deep,
and a key has only so many names, which makes the reader of values a function of the depth that is left.
-/

namespace AgentDelegation.Toml

/-- Takes a value off the front of a text. -/
structure Reader (α : Type) where
  read : List Char → Option (α × List Char)
  shortens : ∀ {cs rest : List Char} {x : α}, read cs = some (x, rest) → rest.length < cs.length

def skipGaps (cs : List Char) : List Char := cs.dropWhile isGap

theorem length_skipGaps_le (cs : List Char) : (skipGaps cs).length ≤ cs.length :=
  (List.dropWhile_sublist isGap).length_le

/-- Drops gaps, line ends and comments. -/
def skipComments (cs : List Char) : List Char :=
  match _ : skipLines cs with
  | '#' :: rest => skipComments (rest.dropWhile isPlain)
  | rest => rest
termination_by cs.length
decreasing_by
  rename_i h
  have hskip := length_skipLines_le cs
  have hdrop := (List.dropWhile_sublist isPlain (l := rest)).length_le
  rw [h, List.length_cons] at hskip
  omega

theorem length_skipComments_le (cs : List Char) : (skipComments cs).length ≤ cs.length := by
  fun_induction skipComments cs with
  | case1 cs rest h ih =>
    have hskip := length_skipLines_le cs
    have hdrop := (List.dropWhile_sublist isPlain (l := rest)).length_le
    rw [h, List.length_cons] at hskip
    omega
  | case2 cs => exact length_skipLines_le cs

/-! ### Keys -/

/-- Characters of a name without quotes. -/
def isBare (c : Char) : Bool := c.isAlphanum || c == '-' || c == '_'

def readName (cs : List Char) : Option (String × List Char) :=
  match cs with
  | [] => none
  | c :: rest =>
    match Quoting.ofMark? c with
    | some quoting => quoting.line rest []
    | none => if isBare c then some (String.ofList (c :: rest.takeWhile isBare), rest.dropWhile isBare) else none

theorem length_readName_lt {cs rest : List Char} {name : String} (h : readName cs = some (name, rest)) :
    rest.length < cs.length := by
  unfold readName at h
  split at h
  · simp at h
  · split at h
    · exact Nat.lt_succ_of_lt (Quoting.length_line_lt h)
    · split at h
      · simp only [Option.some.injEq, Prod.mk.injEq] at h
        rw [← h.2]
        exact Nat.lt_succ_of_le (List.dropWhile_sublist isBare).length_le
      · simp at h

def keyLimit : Nat := 80

/-- Reads a key, of which the given names have been read, in reverse, and the gaps after it. -/
def readKey (cs : List Char) (path : List String) : Option (Key × List Char) :=
  match _ : readName (skipGaps cs) with
  | none => none
  | some (name, rest) =>
    match _ : skipGaps rest with
    | '.' :: rest => readKey rest (name :: path)
    | rest => if path.length + 1 < keyLimit then some (⟨path.reverse, name⟩, rest) else none
termination_by cs.length
decreasing_by
  rename_i after hname hgaps
  have h1 := length_skipGaps_le cs
  have h2 := length_readName_lt hname
  have h3 := length_skipGaps_le after
  rw [hgaps, List.length_cons] at h3
  omega

theorem length_readKey_lt {cs rest : List Char} {path : List String} {key : Key}
    (h : readKey cs path = some (key, rest)) : rest.length < cs.length := by
  fun_induction readKey cs path with
  | case1 => simp at h
  | case2 cs _ _ after hname _ hgaps ih =>
    have h1 := length_skipGaps_le cs
    have h2 := length_readName_lt hname
    have h3 := length_skipGaps_le after
    rw [hgaps, List.length_cons] at h3
    have := ih h
    omega
  | case3 cs _ _ after hname _ _ =>
    have h1 := length_skipGaps_le cs
    have h2 := length_readName_lt hname
    have h3 := length_skipGaps_le after
    simp only [Option.some.injEq, Prod.mk.injEq] at h
    rw [← h.2]
    omega
  | case4 => simp at h

/-! ### Values -/

namespace Reader

theorem length_lt_of_read_cons {α : Type} (reader : Reader α) {cs rest : List Char} {x : α} {c : Char}
    (h : reader.read cs = some (x, c :: rest)) : rest.length < cs.length :=
  Nat.lt_of_succ_lt (reader.shortens h)

/-- Reads a text or a value without delimiters. -/
def readLeaf (cs : List Char) : Option (Value × List Char) :=
  match cs with
  | [] => none
  | c :: rest =>
    match Quoting.ofMark? c with
    | some quoting => (quoting.read rest).map fun (s, rest) => (.text s, rest)
    | none => Value.readRun cs

theorem length_readLeaf_lt {cs rest : List Char} {v : Value} (h : readLeaf cs = some (v, rest)) :
    rest.length < cs.length := by
  unfold readLeaf at h
  split at h
  · simp at h
  · split at h
    · obtain ⟨⟨s, rest⟩, hread, heq⟩ := Option.map_eq_some_iff.1 h
      simp only [Prod.mk.injEq] at heq
      rw [← heq.2]
      exact Nat.lt_succ_of_lt (Quoting.length_read_lt hread)
    · exact Value.length_readRun_lt h

def leaf : Reader Value := ⟨readLeaf, length_readLeaf_lt⟩

/-- Reads a value and what may stand on either side of it in an array. -/
def spaced {α : Type} (element : Reader α) : Reader α where
  read cs := (element.read (skipComments cs)).map fun (x, rest) => (x, skipComments rest)
  shortens := by
    intro cs rest x h
    obtain ⟨⟨y, below⟩, hread, heq⟩ := Option.map_eq_some_iff.1 h
    simp only [Prod.mk.injEq] at heq
    rw [← heq.2]
    exact Nat.lt_of_le_of_lt (length_skipComments_le below)
      (Nat.lt_of_lt_of_le (element.shortens hread) (length_skipComments_le cs))

/-- Reads a key, the sign after it and its value, and the gaps after that. -/
def readAssignment (element : Reader Value) (cs : List Char) : Option ((Key × Value) × List Char) :=
  match readKey cs [] with
  | some (key, '=' :: rest) => (element.read (skipGaps rest)).map fun (v, rest) => ((key, v), skipGaps rest)
  | _ => none

theorem length_readAssignment_lt {element : Reader Value} {cs rest : List Char} {assignment : Key × Value}
    (h : readAssignment element cs = some (assignment, rest)) : rest.length < cs.length := by
  unfold readAssignment at h
  split at h
  · rename_i key after hkey
    obtain ⟨⟨v, below⟩, hread, heq⟩ := Option.map_eq_some_iff.1 h
    simp only [Prod.mk.injEq] at heq
    have h1 := length_readKey_lt hkey
    have h2 := length_skipGaps_le after
    have h3 := element.shortens hread
    have h4 := length_skipGaps_le below
    rw [← heq.2]
    simp only [List.length_cons] at h1
    omega
  · simp at h

def assignment (element : Reader Value) : Reader (Key × Value) :=
  ⟨readAssignment element, length_readAssignment_lt⟩

/-- Reads the elements of an array after its opening bracket, of which some have been read, in reverse. A
comma may stand after the last. -/
def readItems {α : Type} (element : Reader α) (cs : List Char) (found : List α) : Option (List α × List Char) :=
  match skipComments cs with
  | ']' :: rest => some (found.reverse, rest)
  | _ =>
    match _ : element.spaced.read cs with
    | some (x, ',' :: rest) => readItems element rest (x :: found)
    | some (x, ']' :: rest) => some ((x :: found).reverse, rest)
    | _ => none
termination_by cs.length
decreasing_by exact element.spaced.length_lt_of_read_cons ‹_›

theorem length_readItems_lt {α : Type} {element : Reader α} {cs rest : List Char} {found items : List α}
    (h : readItems element cs found = some (items, rest)) : rest.length < cs.length := by
  fun_induction readItems element cs found with
  | case1 cs _ below hcs =>
    have hskip := length_skipComments_le cs
    simp only [Option.some.injEq, Prod.mk.injEq] at h
    simp only [hcs, List.length_cons, h.2] at hskip
    omega
  | case2 _ _ _ _ hread _ ih => exact Nat.lt_trans (ih h) (element.spaced.length_lt_of_read_cons hread)
  | case3 _ _ _ _ hread _ =>
    simp only [Option.some.injEq, Prod.mk.injEq] at h
    exact h.2 ▸ element.spaced.length_lt_of_read_cons hread
  | case4 => simp at h

/-- Reads the entries of an inline table, of which some have been read. -/
def readEntries (element : Reader Value) (cs : List Char) (entries : Table) : Option (Table × List Char) :=
  match _ : element.assignment.read cs with
  | some ((key, v), ',' :: rest) => (entries.assign key.name v key.path).bind (readEntries element rest)
  | some ((key, v), '\x7d' :: rest) => (entries.assign key.name v key.path).map (·, rest)
  | _ => none
termination_by cs.length
decreasing_by exact element.assignment.length_lt_of_read_cons ‹_›

theorem length_readEntries_lt {element : Reader Value} {cs rest : List Char} {entries all : Table}
    (h : readEntries element cs entries = some (all, rest)) : rest.length < cs.length := by
  fun_induction readEntries element cs entries with
  | case1 _ _ _ _ _ hread ih =>
    obtain ⟨_, _, h⟩ := Option.bind_eq_some_iff.1 h
    exact Nat.lt_trans (ih _ h) (element.assignment.length_lt_of_read_cons hread)
  | case2 _ _ _ _ _ hread =>
    obtain ⟨_, _, h⟩ := Option.map_eq_some_iff.1 h
    simp only [Prod.mk.injEq] at h
    exact h.2 ▸ element.assignment.length_lt_of_read_cons hread
  | case3 => simp at h

/-- Reads a container of elements, or a value that is none. -/
def readContainer (element : Reader Value) (cs : List Char) : Option (Value × List Char) :=
  match cs with
  | '[' :: rest => (readItems element rest []).map fun (items, rest) => (.array items, rest)
  | '\x7b' :: rest =>
    match skipGaps rest with
    | '\x7d' :: rest => some (.table .inlined [], rest)
    | _ => (readEntries element rest []).map fun (entries, rest) => (.table .inlined entries, rest)
  | cs => readLeaf cs

theorem length_readContainer_lt {element : Reader Value} {cs rest : List Char} {v : Value}
    (h : readContainer element cs = some (v, rest)) : rest.length < cs.length := by
  unfold readContainer at h
  split at h
  · obtain ⟨⟨_, _⟩, hread, heq⟩ := Option.map_eq_some_iff.1 h
    simp only [Prod.mk.injEq] at heq
    exact heq.2 ▸ Nat.lt_succ_of_lt (length_readItems_lt hread)
  · rename_i after
    split at h
    · rename_i hgaps
      have hskip := length_skipGaps_le after
      simp only [Option.some.injEq, Prod.mk.injEq] at h
      simp only [hgaps, List.length_cons, h.2] at hskip ⊢
      omega
    · obtain ⟨⟨_, _⟩, hread, heq⟩ := Option.map_eq_some_iff.1 h
      simp only [Prod.mk.injEq] at heq
      exact heq.2 ▸ Nat.lt_succ_of_lt (length_readEntries_lt hread)
  · exact length_readLeaf_lt h

def container (element : Reader Value) : Reader Value :=
  ⟨readContainer element, length_readContainer_lt⟩

/-- Reads values whose containers enclose one another at most so deep. -/
def value : Nat → Reader Value
  | 0 => leaf
  | depth + 1 => container (value depth)

def depthLimit : Nat := 79

end Reader

end AgentDelegation.Toml
