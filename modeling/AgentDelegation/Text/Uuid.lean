/-!
# Random identifiers

Messages and requests carry version-4 identifiers: sixteen random bytes in hexadecimal, in groups of
eight, four, four, four and twelve digits, with the version and the variant fixed.
-/

namespace AgentDelegation.Text.Uuid

def hexPair (b : UInt8) : List Char := [Nat.digitChar (b.toNat / 16), Nat.digitChar (b.toNat % 16)]

def marked : List UInt8 → List UInt8
  | a :: b :: c :: d :: e :: f :: g :: h :: i :: rest =>
    a :: b :: c :: d :: e :: f :: (g &&& 0x0F ||| 0x40) :: h :: (i &&& 0x3F ||| 0x80) :: rest
  | bytes => bytes

/-- Digits in groups of the given sizes, and what is left over as a last group. -/
def groups : List Nat → List Char → List (List Char)
  | [], digits => [digits]
  | size :: sizes, digits => digits.take size :: groups sizes (digits.drop size)

def ofBytes (bytes : List UInt8) : String :=
  String.ofList (['-'].intercalate (groups [8, 4, 4, 4] ((marked bytes).flatMap hexPair)))

end AgentDelegation.Text.Uuid
