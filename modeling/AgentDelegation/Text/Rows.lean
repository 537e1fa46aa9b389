/-!
# Texts given row by row

A function from characters to texts that follows no rule is written down in rows. A row begins at some
character and gives the texts of the characters from there on, each as its code points; where it gives no code
points, the character has no text. Rows stand in increasing order.
-/

namespace AgentDelegation.Text

def rowText? (codePoints : List Nat) : Option (List Char) :=
  if codePoints.isEmpty then none else some (codePoints.map Char.ofNat)

/-- The text of a character, in the last row that begins at the character or before it. -/
def inRows? (rows : List (Nat × List (List Nat))) (c : Char) : Option (List Char) := do
  let (first, row) ← (rows.takeWhile (·.1 ≤ c.toNat)).getLast?
  rowText? (← row[c.toNat - first]?)

/-- All characters that have a text, with their texts. -/
def rowEntries (rows : List (Nat × List (List Nat))) : List (Char × List Char) :=
  rows.flatMap fun (first, row) =>
    (row.zipIdx first).filterMap fun (codePoints, n) => (rowText? codePoints).map (Char.ofNat n, ·)

end AgentDelegation.Text
