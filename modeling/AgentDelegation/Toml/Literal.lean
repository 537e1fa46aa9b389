import AgentDelegation.Toml.Moment
import AgentDelegation.Toml.Value

/-!
# Values without delimiters

Booleans, numbers and moments are runs of letters, digits and a few marks, so a run is cut out first and
then asked what it is; no run is two of them. Digits may be grouped by single underscores. Integers have
sixty-four bits with a sign, and only those in base ten may be written with it. A decimal beyond the
largest double is refused unless it is negative.
-/

namespace AgentDelegation.Toml

open Decimal

/-- The digits of a base without the underscores between them. -/
def ungroup? (base : Nat) : List Char → Option (List Char)
  | [] => none
  | [c] => if Text.isDigitOf base c then some [c] else none
  | c :: '_' :: rest => if Text.isDigitOf base c then (ungroup? base rest).map (c :: ·) else none
  | c :: d :: rest => if Text.isDigitOf base c then (ungroup? base (d :: rest)).map (c :: ·) else none

/-- The digits of a whole number in base ten, which starts with a zero only if that is all of it. -/
def wholeDigits? (cs : List Char) : Option (List Char) :=
  if cs.head? = some '0' ∧ 1 < cs.length then none else ungroup? 10 cs

/-- Whether there is a minus sign, and what follows the sign. -/
def unsign : List Char → Bool × List Char
  | '-' :: rest => (true, rest)
  | '+' :: rest => (false, rest)
  | cs => (false, cs)

/-- The base that a run of digits announces, and the digits. -/
def radix? : List Char → Option (Nat × List Char)
  | '0' :: 'x' :: rest => some (16, rest)
  | '0' :: 'o' :: rest => some (8, rest)
  | '0' :: 'b' :: rest => some (2, rest)
  | _ => none

def integer? (run : List Char) : Option Int :=
  let n : Option Int :=
    match radix? run with
    | some (base, digits) => (ungroup? base digits).map fun digits => (Text.number base digits : Int)
    | none =>
      let (negative, digits) := unsign run
      (wholeDigits? digits).map fun digits =>
        if negative then -(Text.number 10 digits : Int) else Text.number 10 digits
  n.bind fun n => if -9223372036854775808 ≤ n ∧ n ≤ 9223372036854775807 then some n else none

def isGrouped (c : Char) : Bool := c.isDigit || c == '_'

def isExponentMark (c : Char) : Bool := c == 'e' || c == 'E'

/-- The digits after the point, and what follows them; without a point there are none. -/
def fraction? : List Char → Option (List Char × List Char)
  | '.' :: rest => (ungroup? 10 (rest.takeWhile isGrouped)).map (·, rest.dropWhile isGrouped)
  | cs => some ([], cs)

def exponent? : List Char → Option Int
  | [] => some 0
  | c :: rest =>
    if isExponentMark c then
      let (negative, digits) := unsign rest
      (ungroup? 10 digits).map fun digits =>
        if negative then -(Text.number 10 digits : Int) else Text.number 10 digits
    else none

def infinity : Double := ⟨0x7FF0000000000000⟩

def notANumber : Double := ⟨0x7FF8000000000000⟩

/-- The decimal that a run spells; it has a point, an exponent or both. -/
def decimal? (run : List Char) : Option Double := do
  let (negative, unsigned) := unsign run
  if unsigned = ['i', 'n', 'f'] then some (if negative then infinity.neg else infinity)
  else if unsigned = ['n', 'a', 'n'] then some (if negative then notANumber.neg else notANumber)
  else
    let rest := unsigned.dropWhile isGrouped
    let whole ← wholeDigits? (unsigned.takeWhile isGrouped)
    let (fraction, power) ← fraction? rest
    let exponent ← exponent? power
    let x := Double.ofDecimal negative (Text.number 10 (whole ++ fraction)) (exponent - fraction.length)
    if rest.isEmpty ∨ x = infinity then none else some x

def isRun (c : Char) : Bool := c.isAlphanum || c == '+' || c == '-' || c == '.' || c == '_' || c == ':'

def Value.ofRun? (run : List Char) : Option Value :=
  if run = ['t', 'r', 'u', 'e'] then some (.flag true)
  else if run = ['f', 'a', 'l', 's', 'e'] then some (.flag false)
  else if Moment.isDate run || Moment.isTime run || Moment.isDateTime run then some (.moment (String.ofList run))
  else ((integer? run).map .integer).or ((decimal? run).map .float)

/-- Reads a value without delimiters. A date takes a time with it that follows after one space. -/
def Value.readRun (cs : List Char) : Option (Value × List Char) :=
  let run := cs.takeWhile isRun
  let rest := cs.dropWhile isRun
  let time := (rest.drop 1).takeWhile isRun
  if run.isEmpty then none
  else if Moment.isDate run ∧ rest.head? = some ' ' ∧ Moment.isOffsetTime time then
    some (.moment (String.ofList (run ++ ' ' :: time)), (rest.drop 1).dropWhile isRun)
  else (Value.ofRun? run).map (·, rest)

theorem Value.length_readRun_lt {cs rest : List Char} {v : Value} (h : Value.readRun cs = some (v, rest)) :
    rest.length < cs.length := by
  have hsplit : (cs.takeWhile isRun).length + (cs.dropWhile isRun).length = cs.length := by
    rw [← List.length_append, List.takeWhile_append_dropWhile]
  simp only [Value.readRun] at h
  split at h
  · simp at h
  · rename_i hrun
    have hpos : 0 < (cs.takeWhile isRun).length := by
      rw [List.isEmpty_iff] at hrun
      exact List.length_pos_iff.2 hrun
    split at h
    · simp only [Option.some.injEq, Prod.mk.injEq] at h
      have hdrop := (List.dropWhile_sublist isRun (l := (cs.dropWhile isRun).drop 1)).length_le
      rw [h.2, List.length_drop] at hdrop
      omega
    · obtain ⟨_, _, heq⟩ := Option.map_eq_some_iff.1 h
      simp only [Prod.mk.injEq] at heq
      rw [← heq.2]
      omega

end AgentDelegation.Toml
