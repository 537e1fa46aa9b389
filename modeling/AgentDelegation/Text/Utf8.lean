/-!
# UTF-8

Bodies arrive as bytes. Reading them as text either demands well-formed UTF-8 or puts one replacement
character for each stretch of bytes that begins a character and does not end it, the longest such stretch
each time. Both readings share one step, `Utf8.take`, which says how many bytes the first character uses.
-/

namespace AgentDelegation.Text.Utf8

/-- For a byte that begins a character of several bytes: how many follow, and the range of the first of
them. The ranges leave out overlong forms, surrogates and code points beyond the last. -/
def lead (b : UInt8) : Option (Nat × UInt8 × UInt8) :=
  if 0xC2 ≤ b && b ≤ 0xDF then some (1, 0x80, 0xBF)
  else if b = 0xE0 then some (2, 0xA0, 0xBF)
  else if b = 0xED then some (2, 0x80, 0x9F)
  else if 0xE1 ≤ b && b ≤ 0xEF then some (2, 0x80, 0xBF)
  else if b = 0xF0 then some (3, 0x90, 0xBF)
  else if 0xF1 ≤ b && b ≤ 0xF3 then some (3, 0x80, 0xBF)
  else if b = 0xF4 then some (3, 0x80, 0x8F)
  else none

/-- How many of the first `n` bytes continue a character whose next byte lies in the given range. -/
def continuation : Nat → UInt8 → UInt8 → List UInt8 → Nat
  | 0, _, _, _ => 0
  | _, _, _, [] => 0
  | n + 1, low, high, b :: rest =>
    if low ≤ b && b ≤ high then 1 + continuation n 0x80 0xBF rest else 0

/-- The code point spelt by a first byte and its continuation. -/
def codePoint (b : UInt8) (tail : List UInt8) : Nat :=
  let head := if tail.length = 1 then b.toNat % 32 else if tail.length = 2 then b.toNat % 16 else b.toNat % 8
  tail.foldl (fun n t => n * 64 + t.toNat % 64) head

/-- The character that a byte begins, if the bytes after it complete it, and how many of them it uses
either way. -/
def take (b : UInt8) (rest : List UInt8) : Option Char × Nat :=
  if b < 0x80 then (some (Char.ofNat b.toNat), 0)
  else
    match lead b with
    | none => (none, 0)
    | some (n, low, high) =>
      let used := continuation n low high rest
      (if used = n then some (Char.ofNat (codePoint b (rest.take n))) else none, used)

def replacement : Char := Char.ofNat 0xFFFD

/-- The characters of any bytes, ill-formed stretches replaced. -/
def decodeLossy : List UInt8 → List Char
  | [] => []
  | b :: rest => ((take b rest).1.getD replacement) :: decodeLossy (rest.drop (take b rest).2)
termination_by bytes => bytes.length
decreasing_by simp only [List.length_drop, List.length_cons]; omega

def decode? : List UInt8 → Option (List Char)
  | [] => some []
  | b :: rest =>
    match (take b rest).1 with
    | none => none
    | some c => (decode? (rest.drop (take b rest).2)).map (c :: ·)
termination_by bytes => bytes.length
decreasing_by simp only [List.length_drop, List.length_cons]; omega

def encode (cs : List Char) : List UInt8 := cs.flatMap String.utf8EncodeChar

end AgentDelegation.Text.Utf8
