import AgentDelegation.Json.Fault

/-!
# Writing JSON

Two layouts: compact, for bodies and lines, and indented by two spaces, for reading. Both escape the
double quote, the backslash and the control characters, and nothing else.
-/

namespace AgentDelegation.Json

def hexDigit (n : Nat) : Char := Nat.digitChar n

def escapedChar (c : Char) : List Char :=
  if c = '\x22' then ['\\', '\x22']
  else if c = '\\' then ['\\', '\\']
  else if c = '\n' then ['\\', 'n']
  else if c = '\r' then ['\\', 'r']
  else if c = '\t' then ['\\', 't']
  else if c = '\x08' then ['\\', 'b']
  else if c = '\x0c' then ['\\', 'f']
  else if c.toNat < 0x20 then ['\\', 'u', '0', '0', hexDigit (c.toNat / 16), hexDigit (c.toNat % 16)]
  else [c]

def stringChars (s : String) : List Char :=
  '\x22' :: (s.toList.flatMap escapedChar ++ ['\x22'])

def stringText (s : String) : String := String.ofList (stringChars s)

namespace Value

mutual

def compactChars : Value → List Char
  | .null => "null".toList
  | .bool b => (toString b).toList
  | .num n => n.text.toList
  | .str s => stringChars s
  | .arr items => '[' :: (compactItems items ++ [']'])
  | .obj members => '\x7b' :: (compactMembers members ++ ['\x7d'])

def compactItems : List Value → List Char
  | [] => []
  | [v] => v.compactChars
  | v :: rest => v.compactChars ++ ',' :: compactItems rest

def compactMembers : List (String × Value) → List Char
  | [] => []
  | [(name, v)] => stringChars name ++ ':' :: v.compactChars
  | (name, v) :: rest => stringChars name ++ ':' :: (v.compactChars ++ ',' :: compactMembers rest)

end

def compact (v : Value) : String := String.ofList v.compactChars

def newLine (level : Nat) : List Char := '\n' :: List.replicate (2 * level) ' '

mutual

/-- The indented text of a value at a level; empty containers stay on their line. -/
def prettyChars (level : Nat) : Value → List Char
  | .arr [] => ['[', ']']
  | .obj [] => ['\x7b', '\x7d']
  | .arr items => '[' :: (prettyItems (level + 1) items ++ newLine level ++ [']'])
  | .obj members => '\x7b' :: (prettyMembers (level + 1) members ++ newLine level ++ ['\x7d'])
  | .null => "null".toList
  | .bool b => (toString b).toList
  | .num n => n.text.toList
  | .str s => stringChars s

def prettyItems (level : Nat) : List Value → List Char
  | [] => []
  | [v] => newLine level ++ v.prettyChars level
  | v :: rest => newLine level ++ v.prettyChars level ++ ',' :: prettyItems level rest

def prettyMembers (level : Nat) : List (String × Value) → List Char
  | [] => []
  | [(name, v)] => newLine level ++ stringChars name ++ [':', ' '] ++ v.prettyChars level
  | (name, v) :: rest =>
    newLine level ++ stringChars name ++ [':', ' '] ++ v.prettyChars level ++ ',' :: prettyMembers level rest

end

def pretty (v : Value) : String := String.ofList (v.prettyChars 0)

end Value

end AgentDelegation.Json
