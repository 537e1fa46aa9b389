import AgentDelegation.Json.Fault
import AgentDelegation.Text.Digits

/-!
# The tokens of a JSON text

A text is cut into tokens from left to right. A piece that is not a token ends the list as a breakage,
which says what is wrong with it for each of the things that may be wanted there: a value or a name, to be
read or to be passed over. Two pieces are tokens only to be passed over, a number beyond the doubles and a
string with half a surrogate pair.

`Token.scan` ends because each token uses up at least one character; the scanners below return what is
left, which is never longer than what they were given.
-/

namespace AgentDelegation.Json

open AgentDelegation.Decimal

/-- What is wrong with a piece of text when a value is wanted, when a value is passed over, when a name is
wanted, and when a name is passed over. -/
structure Breakage where
  asValue : Fault
  asSkipped : Fault
  asName : Fault
  asSkippedName : Fault
deriving DecidableEq, Repr, Inhabited

namespace Breakage

def malformed : Breakage := ⟨.malformed, .malformed, .malformed, .malformed⟩

def ended : Breakage := ⟨.truncated, .truncated, .truncated, .truncated⟩

def cutLiteral : Breakage := ⟨.truncated, .truncated, .malformed, .malformed⟩

def cutNumber : Breakage := ⟨.truncated, .malformed, .malformed, .malformed⟩

end Breakage

inductive Token where
  | openArray
  | closeArray
  | openObject
  | closeObject
  | comma
  | colon
  | null
  | bool (b : Bool)
  | num (n : Number)
  | str (s : String)
  /-- A number beyond the doubles. -/
  | vast
  /-- A string with half a surrogate pair. -/
  | unpaired
  | broken (b : Breakage)
deriving DecidableEq, Repr, Inhabited

namespace Token

/-- What is wrong with a token that stands in place of the name of a variant. -/
def asVariantName : Token → Fault
  | .null => .wrongType .null "variant identifier"
  | .bool b => .wrongType (.bool b) "variant identifier"
  | .num n => .wrongType (.num n) "variant identifier"
  | .openArray => .wrongType .sequence "variant identifier"
  | .openObject => .wrongType .map "variant identifier"
  | .broken b => b.asValue
  | _ => .malformed

/-! ### Strings -/

/-- The part of a string that has been read: its characters in reverse, the first half of a surrogate
pair that waits for its second half, and whether all halves so far met. -/
structure Draft where
  chars : List Char
  half : Option Nat
  paired : Bool

namespace Draft

def empty : Draft := ⟨[], none, true⟩

def push (draft : Draft) (c : Char) : Draft :=
  ⟨c :: draft.chars, none, draft.paired && draft.half.isNone⟩

/-- Adds the unit given by a `\u` escape. -/
def pushUnit (draft : Draft) (n : Nat) : Draft :=
  let second := decide (0xDC00 ≤ n ∧ n ≤ 0xDFFF)
  match draft.half, second with
  | some half, true =>
    ⟨Char.ofNat (0x10000 + (half - 0xD800) * 0x400 + (n - 0xDC00)) :: draft.chars, none, draft.paired⟩
  | none, true => { draft with paired := false }
  | half, false =>
    let paired := draft.paired && half.isNone
    if 0xD800 ≤ n ∧ n ≤ 0xDBFF then ⟨draft.chars, some n, paired⟩
    else ⟨Char.ofNat n :: draft.chars, none, paired⟩

def close (draft : Draft) : Token :=
  if draft.paired && draft.half.isNone then .str (String.ofList draft.chars.reverse)
  else .unpaired

def cut (draft : Draft) : Token :=
  .broken (if draft.paired then .ended else ⟨.malformed, .truncated, .malformed, .truncated⟩)

end Draft

def escape? (c : Char) : Option Char :=
  if c = '\x22' then some '\x22'
  else if c = '\\' then some '\\'
  else if c = '/' then some '/'
  else if c = 'b' then some '\x08'
  else if c = 'f' then some '\x0c'
  else if c = 'n' then some '\n'
  else if c = 'r' then some '\r'
  else if c = 't' then some '\t'
  else none

/-- A `\u` escape with fewer than four digits: the text ended if there is no room for four bytes. -/
def shortEscape (draft : Draft) (cs : List Char) : Token :=
  if (String.ofList cs).utf8ByteSize < 4 then draft.cut else .broken .malformed

def scanString : List Char → Draft → Token × List Char
  | [], draft => (draft.cut, [])
  | c :: rest, draft =>
    if c = '\x22' then (draft.close, rest)
    else if c = '\\' then
      match rest with
      | [] => (draft.cut, [])
      | e :: rest =>
        if e = 'u' then
          match rest with
          | a :: b :: c :: d :: rest =>
            match Text.number? 16 [a, b, c, d] with
            | some n => scanString rest (draft.pushUnit n)
            | none => (.broken .malformed, [])
          | few => (shortEscape draft few, [])
        else
          match escape? e with
          | some c => scanString rest (draft.push c)
          | none => (.broken .malformed, [])
    else if c.toNat < 0x20 then (.broken .malformed, [])
    else scanString rest (draft.push c)

theorem length_scanString_le (cs : List Char) (draft : Draft) :
    (scanString cs draft).2.length ≤ cs.length := by
  fun_induction scanString cs draft <;> simp_all <;> omega

/-! ### Numbers -/

/-- Takes up digits while the number stays within sixty-four bits; gives the number and how many digits
were left over. -/
def absorb : Nat → List Char → Nat × Nat
  | n, [] => (n, 0)
  | n, d :: rest =>
    let m := n * 10 + (d.toNat - 48)
    if m < twoTo 64 then absorb m rest else (n, rest.length + 1)

/-- The number with the given sign, digits before and after the point, and exponent. Only a number
without point and exponent that fits into sixty-four bits is an integer, and negative zero is not. -/
def number? (negative : Bool) (whole : List Char) (fraction : Option (List Char)) (exponent : Option Int) :
    Option Number :=
  let (n, left) := absorb 0 whole
  let double (digits : Nat) (power : Int) := (Double.ofScientific? negative digits power).map Number.float
  match fraction, exponent, left with
  | none, none, 0 =>
    if negative then (if n = 0 ∨ twoTo 63 < n then double n 0 else some (.int (-n)))
    else some (.int n)
  | _, _, _ =>
    let digits := fraction.getD []
    let (m, dropped) := absorb n digits
    double m (left - (digits.length - dropped : Nat) + exponent.getD 0)

def numberToken (n : Option Number) : Token :=
  match n with
  | some n => .num n
  | none => .vast

def missingDigit (rest : List Char) : Token :=
  .broken (if rest.isEmpty then .cutNumber else .malformed)

def isExponentMark (c : Char) : Bool := c == 'e' || c == 'E'

/-- The digits of an exponent without their sign. -/
def dropSign : List Char → List Char
  | [] => []
  | s :: rest => if s = '+' ∨ s = '-' then rest else s :: rest

/-- Reads the exponent of a number, if it has one. -/
def scanExponent (negative : Bool) (whole : List Char) (fraction : Option (List Char)) (cs : List Char) :
    Token × List Char :=
  match cs with
  | [] => (numberToken (number? negative whole fraction none), [])
  | c :: rest =>
    if isExponentMark c then
      let unsigned := dropSign rest
      let digits := unsigned.takeWhile Char.isDigit
      if digits.isEmpty then (missingDigit unsigned, [])
      else
        let power : Int := if rest.head? = some '-' then -Text.number 10 digits else Text.number 10 digits
        (numberToken (number? negative whole fraction (some power)), unsigned.dropWhile Char.isDigit)
    else (numberToken (number? negative whole fraction none), cs)

def scanNumber (negative : Bool) (whole cs : List Char) : Token × List Char :=
  if whole.isEmpty then (missingDigit cs, [])
  else if whole.head? = some '0' ∧ 1 < whole.length then (.broken .malformed, [])
  else
    match cs with
    | [] => scanExponent negative whole none []
    | c :: rest =>
      if c = '.' then
        let fraction := rest.takeWhile Char.isDigit
        let rest := rest.dropWhile Char.isDigit
        if fraction.isEmpty then (missingDigit rest, []) else scanExponent negative whole (some fraction) rest
      else scanExponent negative whole none (c :: rest)

theorem length_dropSign_le (cs : List Char) : (dropSign cs).length ≤ cs.length := by
  unfold dropSign
  split
  · simp
  · split <;> simp

theorem length_scanExponent_le (negative : Bool) (whole : List Char) (fraction : Option (List Char))
    (cs : List Char) : (scanExponent negative whole fraction cs).2.length ≤ cs.length := by
  unfold scanExponent
  split
  · simp
  · dsimp only
    split
    · split
      · simp
      · exact Nat.le_succ_of_le (Nat.le_trans (List.dropWhile_sublist _).length_le (length_dropSign_le _))
    · simp

theorem length_scanNumber_le (negative : Bool) (whole cs : List Char) :
    (scanNumber negative whole cs).2.length ≤ cs.length := by
  unfold scanNumber
  split
  · simp
  · split
    · simp
    · split
      · exact length_scanExponent_le ..
      · split
        · dsimp only
          split
          · simp
          · refine Nat.le_trans (length_scanExponent_le ..) ?_
            exact Nat.le_succ_of_le (List.dropWhile_sublist _).length_le
        · exact length_scanExponent_le ..

/-! ### All tokens -/

def scanLiteral (token : Token) : List Char → List Char → Token × List Char
  | [], rest => (token, rest)
  | _ :: _, [] => (.broken .cutLiteral, [])
  | w :: wanted, c :: rest =>
    if c = w then scanLiteral token wanted rest else (.broken .malformed, [])

theorem length_scanLiteral_le (token : Token) (wanted cs : List Char) :
    (scanLiteral token wanted cs).2.length ≤ cs.length := by
  fun_induction scanLiteral token wanted cs <;> simp_all
  omega

def isSpace (c : Char) : Bool := c == ' ' || c == '\n' || c == '\t' || c == '\r'

def punctuation? (c : Char) : Option Token :=
  if c = '[' then some .openArray
  else if c = ']' then some .closeArray
  else if c = '\x7b' then some .openObject
  else if c = '\x7d' then some .closeObject
  else if c = ',' then some .comma
  else if c = ':' then some .colon
  else none

def next (c : Char) (rest : List Char) : Token × List Char :=
  match punctuation? c with
  | some token => (token, rest)
  | none =>
    if c = '\x22' then scanString rest .empty
    else if c = 'n' then scanLiteral .null ['u', 'l', 'l'] rest
    else if c = 't' then scanLiteral (.bool true) ['r', 'u', 'e'] rest
    else if c = 'f' then scanLiteral (.bool false) ['a', 'l', 's', 'e'] rest
    else if c = '-' then scanNumber true (rest.takeWhile Char.isDigit) (rest.dropWhile Char.isDigit)
    else if c.isDigit then scanNumber false (c :: rest.takeWhile Char.isDigit) (rest.dropWhile Char.isDigit)
    else (.broken .malformed, [])

theorem length_next_le (c : Char) (rest : List Char) : (next c rest).2.length ≤ rest.length := by
  have hnumber (negative : Bool) (whole : List Char) :
      (scanNumber negative whole (rest.dropWhile Char.isDigit)).2.length ≤ rest.length :=
    Nat.le_trans (length_scanNumber_le ..) (List.dropWhile_sublist _).length_le
  rw [next]
  split
  · exact Nat.le_refl _
  · by_cases hquote : c = '\x22'
    · rw [if_pos hquote]; exact length_scanString_le ..
    rw [if_neg hquote]
    by_cases hnull : c = 'n'
    · rw [if_pos hnull]; exact length_scanLiteral_le ..
    rw [if_neg hnull]
    by_cases htrue : c = 't'
    · rw [if_pos htrue]; exact length_scanLiteral_le ..
    rw [if_neg htrue]
    by_cases hfalse : c = 'f'
    · rw [if_pos hfalse]; exact length_scanLiteral_le ..
    rw [if_neg hfalse]
    by_cases hminus : c = '-'
    · rw [if_pos hminus]; exact hnumber ..
    rw [if_neg hminus]
    by_cases hdigit : c.isDigit = true
    · rw [if_pos hdigit]; exact hnumber ..
    rw [if_neg hdigit]
    exact Nat.zero_le _

/-- The tokens of a text, up to the first breakage. -/
def scan : List Char → List Token
  | [] => []
  | c :: rest => if isSpace c then scan rest else (next c rest).1 :: scan (next c rest).2
termination_by cs => cs.length
decreasing_by
  · simp
  · exact Nat.lt_succ_of_le (length_next_le c rest)

end Token

end AgentDelegation.Json
