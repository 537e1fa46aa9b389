import AgentDelegation.Text.Digits

/-!
# Dates and times of day

A moment is a date, a time of day, or a date and a time joined by the letter T, the latter with or without
an offset from universal time. Fields have fixed widths; a day must exist in its month, and a minute may
have a leap second. Each reader gives what follows, so that a moment is one with nothing after it.
-/

namespace AgentDelegation.Toml.Moment

/-- The number of a field with the given count of digits, and what follows it. -/
def field? (count : Nat) (cs : List Char) : Option (Nat × List Char) :=
  let digits := cs.take count
  if digits.length = count ∧ digits.all Char.isDigit then some (Text.number 10 digits, cs.drop count) else none

def mark? (mark : Char) : List Char → Option (List Char)
  | [] => none
  | c :: rest => if c = mark then some rest else none

def isLeap (year : Nat) : Bool := year % 4 == 0 && (year % 100 != 0 || year % 400 == 0)

def daysIn (year month : Nat) : Nat :=
  if month = 2 then (if isLeap year then 29 else 28)
  else if month = 4 ∨ month = 6 ∨ month = 9 ∨ month = 11 then 30
  else 31

def afterDate? (cs : List Char) : Option (List Char) := do
  let (year, cs) ← field? 4 cs
  let (month, cs) ← field? 2 (← mark? '-' cs)
  let (day, cs) ← field? 2 (← mark? '-' cs)
  if 1 ≤ month ∧ month ≤ 12 ∧ 1 ≤ day ∧ day ≤ daysIn year month then some cs else none

def afterMinutes? (cs : List Char) : Option (List Char) := do
  let (hour, cs) ← field? 2 cs
  let (minute, cs) ← field? 2 (← mark? ':' cs)
  if hour ≤ 23 ∧ minute ≤ 59 then some cs else none

/-- Reads a fraction of a second, if there is one. -/
def afterFraction? : List Char → Option (List Char)
  | '.' :: rest => if (rest.takeWhile Char.isDigit).isEmpty then none else some (rest.dropWhile Char.isDigit)
  | cs => some cs

def afterTime? (cs : List Char) : Option (List Char) := do
  let cs ← afterMinutes? cs
  let (second, cs) ← field? 2 (← mark? ':' cs)
  if second ≤ 60 then afterFraction? cs else none

/-- Reads an offset from universal time, if there is one. -/
def afterOffset? : List Char → Option (List Char)
  | [] => some []
  | c :: rest =>
    if c = 'Z' ∨ c = 'z' then some rest
    else if c = '+' ∨ c = '-' then afterMinutes? rest
    else none

def isDate (cs : List Char) : Bool := afterDate? cs == some []

def isTime (cs : List Char) : Bool := afterTime? cs == some []

/-- A time of day that may have an offset, as it follows a date. -/
def isOffsetTime (cs : List Char) : Bool := (afterTime? cs >>= afterOffset?) == some []

def isDateTime (cs : List Char) : Bool :=
  match afterDate? cs with
  | some ('T' :: rest) => isOffsetTime rest
  | some ('t' :: rest) => isOffsetTime rest
  | _ => false

end AgentDelegation.Toml.Moment
