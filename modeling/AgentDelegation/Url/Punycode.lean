/-!
# Punycode

A label of a domain name that has characters outside ASCII is written in ASCII: first its ASCII
characters, then for the others, in the order of their code points, how far each is from the one before,
in digits of base thirty-six whose thresholds adapt to the distances seen so far.
-/

namespace AgentDelegation.Url.Punycode

def digitChar (d : Nat) : Char := if d < 26 then Char.ofNat (d + 97) else Char.ofNat (d + 22)

def digitValue? (c : Char) : Option Nat :=
  if 'a' ≤ c ∧ c ≤ 'z' then some (c.toNat - 97)
  else if '0' ≤ c ∧ c ≤ '9' then some (c.toNat - 22)
  else none

/-- The digit below which a number ends, at a place and under a bias. -/
def threshold (place bias : Nat) : Nat := min 26 (max 1 (place - bias))

theorem threshold_pos (place bias : Nat) : 0 < threshold place bias := by
  simp only [threshold]; omega

theorem threshold_le (place bias : Nat) : threshold place bias ≤ 26 := by
  simp only [threshold]; omega

/-- Divides by thirty-five until the distance is small; the places skipped on the way are counted. -/
def shrink (distance place : Nat) : Nat × Nat :=
  if 455 < distance then shrink (distance / 35) (place + 36) else (distance, place)
termination_by distance
decreasing_by exact Nat.div_lt_self (by omega) (by omega)

/-- The bias after a distance, given how many characters are placed and whether it is the first one. -/
def adapt (distance count : Nat) (first : Bool) : Nat :=
  let damped := if first then distance / 700 else distance / 2
  let (small, place) := shrink (damped + damped / count) 0
  place + 36 * small / (small + 38)

def digits (bias place distance : Nat) : List Char :=
  let t := threshold place bias
  if distance < t then [digitChar distance]
  else digitChar (t + (distance - t) % (36 - t)) :: digits bias (place + 36) ((distance - t) / (36 - t))
termination_by distance
decreasing_by
  have := threshold_pos place bias
  have := Nat.div_le_self (distance - threshold place bias) (36 - threshold place bias)
  omega

/-- What the writer has written, the distance since the last character, the bias, and the number of
characters placed. -/
structure Writing where
  text : List Char
  distance : Nat
  bias : Nat
  count : Nat

/-- Passes one character while those of a code point are being placed. -/
def Writing.pass (basic codePoint : Nat) (w : Writing) (c : Char) : Writing :=
  if c.toNat < codePoint then { w with distance := w.distance + 1 }
  else if c.toNat = codePoint then
    { text := w.text ++ digits w.bias 36 w.distance
      distance := 0
      bias := adapt w.distance (w.count + 1) (w.count == basic)
      count := w.count + 1 }
  else w

/-- Places the characters of each code point in turn, the first not yet passed being `next`. -/
def place (cs : List Char) (basic : Nat) : List Nat → Nat → Writing → Writing
  | [], _, w => w
  | codePoint :: rest, next, w =>
    let start := { w with distance := w.distance + (codePoint - next) * (w.count + 1) }
    let passed := cs.foldl (Writing.pass basic codePoint) start
    place cs basic rest (codePoint + 1) { passed with distance := passed.distance + 1 }

def insertDistinct (n : Nat) : List Nat → List Nat
  | [] => [n]
  | m :: rest => if n < m then n :: m :: rest else if n = m then m :: rest else m :: insertDistinct n rest

def isBasic (c : Char) : Bool := c.toNat < 128

def encode (cs : List Char) : List Char :=
  let basic := cs.filter isBasic
  let others := ((cs.filter (!isBasic ·)).map Char.toNat).foldr insertDistinct []
  basic ++ (if basic.isEmpty then [] else ['-'])
    ++ (place cs basic.length others 128 ⟨[], 0, 72, basic.length⟩).text

/-- What the reader has placed so far, and where it stands: the last code point, the position, the bias,
and for the number being read its start, weight and place. -/
structure Reading where
  text : List Char
  codePoint : Nat
  position : Nat
  bias : Nat
  start : Nat
  weight : Nat
  place : Nat

/-- Places the next character: the code points are passed round after round, one place for each position. -/
def Reading.placed (r : Reading) (position : Nat) : Reading :=
  let count := r.text.length + 1
  let codePoint := r.codePoint + position / count
  let index := position % count
  { text := r.text.take index ++ Char.ofNat codePoint :: r.text.drop index
    codePoint := codePoint
    position := index + 1
    bias := adapt (position - r.start) count (r.start == 0)
    start := index + 1
    weight := 1
    place := 36 }

/-- Reads one digit; the digit that ends a number places a character. Weights have thirty-two bits. -/
def Reading.next? (r : Reading) (c : Char) : Option Reading := do
  let d ← digitValue? c
  let position := r.position + d * r.weight
  let t := threshold r.place r.bias
  if d < t then
    let next := r.placed position
    if next.codePoint.isValidChar then some next else none
  else if r.weight * (36 - t) < 4294967296 then
    some { r with position := position, weight := r.weight * (36 - t), place := r.place + 36 }
  else none

/-- What stands before the last hyphen, and what after it. A hyphen with nothing before it divides
nothing; as it is no digit, such a label cannot be read. -/
def cut (cs : List Char) : List Char × List Char :=
  let tail := (cs.reverse.takeWhile (· != '-')).reverse
  let basic := cs.take (cs.length - tail.length - 1)
  if basic.isEmpty then ([], cs) else (basic, tail)

def decode? (cs : List Char) : Option (List Char) := do
  let (basic, tail) := cut cs
  let r ← tail.foldlM Reading.next? ⟨basic, 128, 0, 72, 0, 1, 36⟩
  if r.place = 36 then some r.text else none

end AgentDelegation.Url.Punycode
