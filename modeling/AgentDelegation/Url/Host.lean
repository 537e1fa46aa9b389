import AgentDelegation.Url.Domain.Name
import AgentDelegation.Url.Percent

/-!
# Hosts

A host is a name, a version 4 address or a version 6 address. In a well-known scheme a name is a domain
name in ASCII; if its last label is a number, it is a version 4 address in one of the old notations, or
nothing.
-/

namespace AgentDelegation.Url

open Text

/-- Why a text is no address. -/
inductive Fault where
  | relative
  | emptyHost
  | invalidPort
  | invalidIpv4
  | invalidIpv6
  | invalidName
  | invalidCharacter
deriving DecidableEq, Repr, Inhabited

namespace Fault

def message : Fault → String
  | .relative => "relative URL without a base"
  | .emptyHost => "empty host"
  | .invalidPort => "invalid port number"
  | .invalidIpv4 => "invalid IPv4 address"
  | .invalidIpv6 => "invalid IPv6 address"
  | .invalidName => "invalid international domain name"
  | .invalidCharacter => "invalid domain character"

end Fault

inductive Host where
  | name (name : String)
  | ipv4 (address : Nat)
  /-- The eight pieces of sixteen bits. -/
  | ipv6 (pieces : List Nat)
deriving DecidableEq, Repr, Inhabited

/-! ## Version 4 -/

/-- A number of a version 4 address: octal after a zero, hexadecimal after `0x`, else decimal. -/
def ipv4Number? (cs : List Char) : Option Nat :=
  match cs with
  | [] => none
  | '0' :: 'x' :: digits => Text.number? 16 digits
  | '0' :: 'X' :: digits => Text.number? 16 digits
  | '0' :: d :: digits => Text.number? 8 (d :: digits)
  | digits => Text.number? 10 digits

/-- Whether the last label of a name, not counting an empty one at the end, is a number. -/
def endsInNumber (cs : List Char) : Bool :=
  let isNumber (label : List Char) : Bool :=
    (!label.isEmpty && label.all Char.isDigit) || (ipv4Number? label).isSome
  match (cs.splitOn '.').reverse with
  | [] :: label :: _ => isNumber label
  | label :: _ => isNumber label
  | [] => false

/-- The address that numbers give: one byte each, and what is left for the last. -/
def ipv4OfNumbers? : List Nat → Option Nat
  | [] => none
  | numbers =>
    let leading := numbers.dropLast
    let last := numbers.getLastD 0
    if numbers.length ≤ 4 && leading.all (· < 256) && last < Nat.pow 256 (4 - leading.length) then
      some (leading.foldr (fun n rest => n * 16777216 + rest / 256) 0 + last)
    else none

def ipv4? (cs : List Char) : Option Nat := do
  let labels := cs.splitOn '.'
  let labels := if labels.getLastD [] = [] then labels.dropLast else labels
  ipv4OfNumbers? (← labels.mapM ipv4Number?)

def ipv4Text (n : Nat) : String :=
  ".".intercalate ([n / 16777216, n / 65536 % 256, n / 256 % 256, n % 256].map toString)

/-! ## Version 6 -/

/-- A decimal number below 256 without a leading zero. -/
def byte? (digits : List Char) : Option Nat :=
  let n := Text.number 10 digits
  if !digits.isEmpty && digits.all Char.isDigit && n < 256 && (digits.length == 1 || digits.head? != some '0') then
    some n
  else none

def embeddedIpv4? (cs : List Char) : Option (List Nat) := do
  match ← (cs.splitOn '.').mapM byte? with
  | [a, b, c, d] => some [a * 256 + b, c * 256 + d]
  | _ => none

def piece? (cs : List Char) : Option Nat :=
  if !cs.isEmpty && cs.length ≤ 4 then Text.number? 16 cs else none

/-- The pieces of a text without a double colon; the last one may be a version 4 address. -/
def pieces? : List (List Char) → Option (List Nat)
  | [] => some []
  | [label] => ((piece? label).map ([·])).or (embeddedIpv4? label)
  | label :: rest => do
    let piece ← piece? label
    some (piece :: (← pieces? rest))

/-- The parts before and after the first double colon. -/
def splitDoubleColon? : List Char → Option (List Char × List Char)
  | ':' :: ':' :: rest => some ([], rest)
  | c :: rest => (splitDoubleColon? rest).map fun (before, after) => (c :: before, after)
  | [] => none

/-- The labels between colons; an empty text has none. -/
def colonLabels (cs : List Char) : List (List Char) := if cs.isEmpty then [] else cs.splitOn ':'

def isPlainPiece (label : List Char) : Bool := (piece? label).isSome

/-- A double colon stands for at least one zero piece if pieces follow it. -/
def ipv6? (cs : List Char) : Option (List Nat) :=
  match splitDoubleColon? cs with
  | none => do
    let pieces ← pieces? (colonLabels cs)
    if pieces.length = 8 then some pieces else none
  | some (before, after) => do
    if !(colonLabels before).all isPlainPiece then none
    let first ← pieces? (colonLabels before)
    let last ← pieces? (colonLabels after)
    if first.length + last.length ≤ 7 then
      some (first ++ List.replicate (8 - first.length - last.length) 0 ++ last)
    else none

def zeros (pieces : List Nat) : Nat := (pieces.takeWhile (· == 0)).length

/-- Where the first longest run of zeros begins and how long it is. -/
def longestZeros : Nat → List Nat → Nat × Nat
  | _, [] => (0, 0)
  | i, n :: rest =>
    let (start, length) := longestZeros (i + 1) rest
    if length ≤ zeros (n :: rest) then (i, zeros (n :: rest)) else (start, length)

def pieceText (n : Nat) : String := String.ofList (Nat.toDigits 16 n)

/-- The text of the pieces; the first longest run of at least two zeros is left out. -/
def ipv6Text (pieces : List Nat) : String :=
  let (start, length) := longestZeros 0 pieces
  if length < 2 then ":".intercalate (pieces.map pieceText)
  else ":".intercalate ((pieces.take start).map pieceText) ++ "::"
    ++ ":".intercalate ((pieces.drop (start + length)).map pieceText)

/-! ## Hosts -/

namespace Host

def text : Host → String
  | .name text => text
  | .ipv4 address => ipv4Text address
  | .ipv6 pieces => "[" ++ ipv6Text pieces ++ "]"

def bracketed (cs : List Char) : Except Fault Host :=
  if cs.getLast? = some ']' then
    match ipv6? cs.dropLast with
    | some pieces => .ok (.ipv6 pieces)
    | none => .error .invalidIpv6
  else .error .invalidIpv6

def ofName (cs : List Char) : Except Fault Host :=
  if cs.isEmpty then .error .emptyHost
  else if endsInNumber cs then
    match ipv4? cs with
    | some address => .ok (.ipv4 address)
    | none => .error .invalidIpv4
  else .ok (.name (String.ofList cs))

def parse (cs : List Char) : Except Fault Host :=
  match cs with
  | '[' :: rest => bracketed rest
  | cs =>
    match Utf8.decode? (percentDecode cs) >>= Domain.ascii? with
    | some ascii => ofName ascii
    | none => .error .invalidName

/-- Characters that no host of any scheme holds. -/
def isReserved (c : Char) : Bool :=
  c.toNat = 0 || ['\t', '\n', '\r', ' ', '#', '/', ':', '<', '>', '?', '@', '[', '\\', ']', '^', '|'].contains c

/-- Reads the host of any other scheme, which is kept as it is. -/
def parsePlain (cs : List Char) : Except Fault Host :=
  match cs with
  | '[' :: rest => bracketed rest
  | cs =>
    if cs.any isReserved then .error .invalidCharacter
    else .ok (.name (String.ofList (percentEncode isControl cs)))

end Host

end AgentDelegation.Url
