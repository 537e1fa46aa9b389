/-!
# Digits

Numbers are spelt in base ten in most texts and in base two, eight or sixteen in some. A digit has one
value whatever the base, and belongs to the bases above that value.
-/

namespace AgentDelegation.Text

/-- The value of a digit of any base up to sixteen; letters count in either case. -/
def digitValue? (c : Char) : Option Nat :=
  if c.isDigit then some (c.toNat - 48)
  else if 'a' ≤ c ∧ c ≤ 'f' then some (c.toNat - 87)
  else if 'A' ≤ c ∧ c ≤ 'F' then some (c.toNat - 55)
  else none

def isDigitOf (base : Nat) (c : Char) : Bool := (digitValue? c).any (· < base)

/-- The number that digits spell, the most significant one first. -/
def number (base : Nat) (digits : List Char) : Nat :=
  digits.foldl (fun n c => n * base + (digitValue? c).getD 0) 0

/-- The number that characters spell, if all of them are digits of the base. -/
def number? (base : Nat) (cs : List Char) : Option Nat :=
  if cs.all (isDigitOf base) then some (number base cs) else none

@[simp] theorem number_nil (base : Nat) : number base [] = 0 := rfl

theorem number_concat (base : Nat) (digits : List Char) (c : Char) :
    number base (digits ++ [c]) = number base digits * base + (digitValue? c).getD 0 := by
  simp [number]

theorem number?_eq_some_iff {base n : Nat} {cs : List Char} :
    number? base cs = some n ↔ (∀ c ∈ cs, isDigitOf base c = true) ∧ number base cs = n := by
  simp [number?]

end AgentDelegation.Text
