import AgentDelegation.Json.Source
import AgentDelegation.Json.Format

/-!
# Decoding whole texts

A text is decoded by decoding its tree; what follows the tree is looked at last, so a fault inside the
tree is reported before anything that trails it.
-/

namespace AgentDelegation.Json

/-- A text as a document: its tree, and whether anything follows it. -/
structure Document where
  root : Source
  trailing : Bool

namespace Document

def ofChars (cs : List Char) : Document :=
  let (root, trailing) := Source.build .value [] (Token.scan cs)
  ⟨root, trailing⟩

def ofText (text : String) : Document := ofChars text.toList

end Document

namespace Format

def readChars {α : Type} (format : Format α) (cs : List Char) : Except Fault α := do
  let document := Document.ofChars cs
  let x ← format.read document.root
  if document.trailing then .error .malformed else .ok x

def readText {α : Type} (format : Format α) (text : String) : Except Fault α :=
  format.readChars text.toList

end Format

def parse (text : String) : Except Fault Value := Format.any.readText text

end AgentDelegation.Json
