/-!
# Character classes as tables of ranges

A class of the Unicode character database, version 17.0, is given by the ranges of its code points, in
increasing order, both ends included. A correspondence between characters is given by runs: characters at
equal distances whose counterparts are all equally far away.
-/

namespace AgentDelegation.Text

def inRanges (table : List (Nat × Nat)) (c : Char) : Bool :=
  table.any fun range => range.1 ≤ c.toNat && c.toNat ≤ range.2

/-- The counterpart of a character by runs, each given by its first and last member, the distance between
members, and the offset of the counterparts. -/
def counterpart? (runs : List (Nat × Nat × Nat × Int)) (c : Char) : Option Char :=
  let run? := runs.find? fun (first, last, step, _) =>
    first ≤ c.toNat && c.toNat ≤ last && (c.toNat - first) % step == 0
  run?.map fun (_, _, _, offset) => Char.ofNat ((c.toNat : Int) + offset).toNat

end AgentDelegation.Text
