import AgentDelegation.Text.Ranges

/-!
# White space

Names, modes, bindings and endpoints are blank when they hold nothing but white space in the sense of
the Unicode property `White_Space`, which has twenty-five characters and not the zero-width space.
-/

namespace AgentDelegation.Text

/-- The characters with the property `White_Space`. -/
def blanks : List (Nat × Nat) :=
  [(0x9, 0xD), (0x20, 0x20), (0x85, 0x85), (0xA0, 0xA0), (0x1680, 0x1680), (0x2000, 0x200A),
   (0x2028, 0x2029), (0x202F, 0x202F), (0x205F, 0x205F), (0x3000, 0x3000)]

def isBlank (c : Char) : Bool := inRanges blanks c

/-- The characters without the white space at either end. -/
def trimChars (cs : List Char) : List Char :=
  ((cs.dropWhile isBlank).reverse.dropWhile isBlank).reverse

/-- The text without the white space at either end. -/
def trim (s : String) : String := String.ofList (trimChars s.toList)

def allBlank (s : String) : Bool := s.toList.all isBlank

end AgentDelegation.Text
