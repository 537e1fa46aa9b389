import AgentDelegation.Text.Digits
import AgentDelegation.Text.Utf8

/-!
# Percent-encoding

A character that may not stand in a part of an address is written as the bytes of its UTF-8 form, each as
a percent sign and two hexadecimal digits. Which characters those are depends on the part; control
characters and characters outside ASCII are always among them.
-/

namespace AgentDelegation.Url

open Text

def upperHexDigit (n : Nat) : Char := (Nat.digitChar n).toUpper

def encodedByte (b : UInt8) : List Char :=
  ['%', upperHexDigit (b.toNat / 16), upperHexDigit (b.toNat % 16)]

/-- The characters that no part of an address holds as they are. -/
def isControl (c : Char) : Bool := c.toNat < 0x20 || 0x7F ≤ c.toNat

def percentEncode (encoded : Char → Bool) (cs : List Char) : List Char :=
  cs.flatMap fun c => if encoded c then (Utf8.encode [c]).flatMap encodedByte else [c]

def inFragment (c : Char) : Bool := isControl c || [' ', '\x22', '<', '>', '`'].contains c

def inPath (c : Char) : Bool := inFragment c || ['#', '?', '\x7b', '\x7d'].contains c

def inUserInfo (c : Char) : Bool :=
  inPath c || ['/', ':', ';', '=', '@', '[', '\\', ']', '^', '|'].contains c

def inQuery (c : Char) : Bool := isControl c || [' ', '\x22', '#', '<', '>'].contains c

def inSpecialQuery (c : Char) : Bool := inQuery c || c == '\''

/-- Text without characters of the set is its own encoding. -/
theorem percentEncode_of_forall {encoded : Char → Bool} {cs : List Char}
    (h : ∀ c ∈ cs, encoded c = false) : percentEncode encoded cs = cs := by
  induction cs with
  | nil => rfl
  | cons c rest ih =>
      rw [percentEncode, List.flatMap_cons, if_neg (by simp [h c (by simp)])]
      exact congrArg (c :: ·) (ih fun x hx => h x (by simp [hx]))

def encodedByte? : List Char → Option UInt8
  | a :: b :: _ => (Text.number? 16 [a, b]).map UInt8.ofNat
  | _ => none

/-- The bytes that a text stands for; a percent sign without two digits stands for itself. -/
def percentDecode : List Char → List UInt8
  | [] => []
  | c :: rest =>
    match if c = '%' then encodedByte? rest else none with
    | some b => b :: percentDecode (rest.drop 2)
    | none => Utf8.encode [c] ++ percentDecode rest
termination_by cs => cs.length
decreasing_by all_goals simp only [List.length_drop, List.length_cons]; omega

end AgentDelegation.Url
