import AgentDelegation.Url.Domain.Composed
import AgentDelegation.Url.Domain.Direction
import AgentDelegation.Url.Domain.Joiner
import AgentDelegation.Url.Domain.Mapping
import AgentDelegation.Url.Punycode

/-!
# Domain names

A domain name is a row of labels with points between them. People write it in letters of any script; it is
looked up in ASCII, each label with other characters being written in Punycode behind `xn--`. Two names are
the same if their forms in ASCII are, so the text is first put into the form in which names are compared,
and a label that is already in Punycode must be what its own letters would be written as.

Names that could not be told from others, or not be shown, have no form in ASCII.
-/

namespace AgentDelegation.Url.Domain

open Text

def isAscii (cs : List Char) : Bool := cs.all fun c => c.toNat < 128

/-- Characters in ASCII that no name holds. -/
def isDenied (c : Char) : Bool :=
  c.toNat < 0x20 || c.toNat = 0x7F
    || [' ', '#', '/', ':', '<', '>', '?', '@', '[', '\\', ']', '^', '|', '%'].contains c

def folded? (cs : List Char) : Option (List Char) := do
  some (composed (← cs.mapM form?).flatten)

/-- What stands before a label in Punycode. -/
def encodedMark : List Char := ['x', 'n', '-', '-']

/-- The letters of a label in Punycode. They are the form in which names are compared, so each label is
encoded in one way only. -/
def decoded? (encoded : List Char) : Option (List Char) := do
  if encoded.getLast?.all (· == '-') || 2000 < encoded.length || !isAscii encoded then none
  let letters ← Punycode.decode? encoded
  if folded? letters = some letters && !letters.contains '.' then some letters else none

def letters? (label : List Char) : Option (List Char) :=
  if encodedMark.isPrefixOf label then decoded? (label.drop encodedMark.length) else some label

/-- Whether letters make a label: nothing in them is denied, they do not begin with a mark that belongs to
a character before it, and their joiners show. -/
def isLabel (letters : List Char) : Bool :=
  !letters.any isDenied && !letters.head?.any isMark && joinersShow [] letters
    && (isAscii letters || letters.length ≤ 1000)

/-- A label in ASCII, from its letters. -/
def asciiLabel (letters : List Char) : List Char :=
  if isAscii letters then letters else encodedMark ++ Punycode.encode letters

/-- A name in ASCII. If one of its labels is shown from right to left, all of them keep to one direction. -/
def ascii? (cs : List Char) : Option (List Char) := do
  let labels ← ((← folded? cs).splitOn '.').mapM letters?
  if labels.all isLabel && (labels.all isOrderly || !labels.any (·.any turns)) then
    some (['.'].intercalate (labels.map asciiLabel))
  else none

end AgentDelegation.Url.Domain
