import AgentDelegation.Json.Token
import AgentDelegation.Json.Readable

/-!
# JSON texts as documents

A text is read into a tree that keeps what a value forgets: repeated members, the order of members, and
the point at which the text breaks off. A decoder walks the tree in document order, so whether it meets
the breakage or a member of the wrong type first is decided by the text, as it would be for a reader that
decodes while it reads.

The tree is built by a machine over the tokens with a stack of the containers that are still open; a
breakage closes them all. Containers nested deeper than `depthLimit` can be passed over but not read.
-/

namespace AgentDelegation.Json

/-- What is wrong where a container breaks off, when it is read, when it is passed over, and when it is
read as a variant. -/
structure Stop where
  asRead : Fault
  asSkipped : Fault
  asVariant : Fault
deriving Inhabited

namespace Stop

def malformed : Stop := ⟨.malformed, .malformed, .malformed⟩

def ended : Stop := ⟨.truncated, .truncated, .truncated⟩

/-- The end of the text where another member is wanted; a variant has only one. -/
def endedAfterComma : Stop := ⟨.truncated, .truncated, .malformed⟩

/-- A token in place of a name, in the first member of an object or in a later one. -/
def atName (first : Bool) (token : Token) : Stop :=
  let asVariant := if first then token.asVariantName else .malformed
  match token with
  | .broken b => ⟨b.asName, b.asSkippedName, asVariant⟩
  | _ => ⟨.malformed, .malformed, asVariant⟩

end Stop

inductive Source where
  | null
  | bool (b : Bool)
  | num (n : Number)
  | str (s : String)
  | arr (items : List Source) (stop : Option Stop)
  | obj (members : List (String × Source)) (stop : Option Stop)
  | broken (b : Breakage)
  /-- A number or string that can be passed over and not read. -/
  | valueless
  /-- A container nested too deep. -/
  | buried (inner : Source)
  /-- The value of a member whose name cannot be read. -/
  | misnamed (inner : Source)
deriving Inhabited

namespace Source

def depthLimit : Nat := 127

/-- A container that is still open: what it holds so far, in reverse, and for an object the name of the
member whose value is being read, and whether that name can be read. -/
inductive Frame where
  | arr (items : List Source)
  | obj (members : List (String × Source)) (name : String) (readable : Bool)

/-- What the machine waits for. -/
inductive Want where
  | value
  /-- The first element, or the end of the array. -/
  | firstItem
  /-- The first name, or the end of the object. -/
  | firstName
  | nextName
  | colon
  /-- A comma or the end of the container. -/
  | next

def bury (outer : List Frame) (container : Source) : Source :=
  if outer.length = depthLimit then .buried container else container

def member (name : String) (readable : Bool) (v : Source) : String × Source :=
  (name, if readable then v else .misnamed v)

/-- Closes all open containers around a value that is the last to be read. -/
def collapse : Source → List Frame → Source
  | v, [] => v
  | v, .arr items :: outer => collapse (bury outer (.arr (v :: items).reverse none)) outer
  | v, .obj members name readable :: outer =>
    collapse (bury outer (.obj (member name readable v :: members).reverse none)) outer

def halt (stop : Stop) : List Frame → Source
  | [] => .broken .malformed
  | .arr items :: outer => collapse (bury outer (.arr items.reverse (some stop))) outer
  | .obj members _ _ :: outer => collapse (bury outer (.obj members.reverse (some stop))) outer

/-- What the machine does with one token. -/
inductive Step where
  | wait (want : Want) (stack : List Frame)
  | done (root : Source)

/-- A value is complete: it is the root, or goes into the innermost container. -/
def complete (v : Source) : List Frame → Step
  | [] => .done v
  | .arr items :: outer => .wait .next (.arr (v :: items) :: outer)
  | .obj members name readable :: outer =>
    .wait .next (.obj (member name readable v :: members) "" true :: outer)

def begin (stack : List Frame) : Token → Step
  | .openArray => .wait .firstItem (.arr [] :: stack)
  | .openObject => .wait .firstName (.obj [] "" true :: stack)
  | .null => complete .null stack
  | .bool b => complete (.bool b) stack
  | .num n => complete (.num n) stack
  | .str s => complete (.str s) stack
  | .vast | .unpaired => complete .valueless stack
  | .broken b => .done (collapse (.broken b) stack)
  | .closeArray | .closeObject | .comma | .colon => .done (collapse (.broken .malformed) stack)

def readName (stack : List Frame) (token : Token) : Step :=
  match stack, token with
  | .obj members _ _ :: outer, .str s => .wait .colon (.obj members s true :: outer)
  | .obj members _ _ :: outer, .unpaired => .wait .colon (.obj members "" false :: outer)
  | .obj members name readable :: outer, token =>
    .done (halt (.atName members.isEmpty token) (.obj members name readable :: outer))
  | stack, _ => .done (halt .malformed stack)

def proceed (stack : List Frame) (token : Token) : Step :=
  match stack, token with
  | .arr _ :: _, .comma => .wait .value stack
  | .obj _ _ _ :: _, .comma => .wait .nextName stack
  | .arr items :: outer, .closeArray => complete (bury outer (.arr items.reverse none)) outer
  | .obj members _ _ :: outer, .closeObject => complete (bury outer (.obj members.reverse none)) outer
  | stack, _ => .done (halt .malformed stack)

def step (want : Want) (stack : List Frame) (token : Token) : Step :=
  match want, token with
  | .value, token => begin stack token
  | .firstItem, .closeArray => proceed stack .closeArray
  | .firstItem, token => begin stack token
  | .firstName, .closeObject => proceed stack .closeObject
  | .firstName, token => readName stack token
  | .nextName, token => readName stack token
  | .colon, .colon => .wait .value stack
  | .colon, _ => .done (collapse (.broken .malformed) stack)
  | .next, token => proceed stack token

def finish (stack : List Frame) : Want → Source
  | .value | .colon => collapse (.broken .ended) stack
  | .nextName => halt .endedAfterComma stack
  | .firstItem | .firstName | .next => halt .ended stack

/-- The tree of a list of tokens, and whether tokens follow it. -/
def build : Want → List Frame → List Token → Source × Bool
  | want, stack, [] => (finish stack want, false)
  | want, stack, token :: rest =>
    match step want stack token with
    | .wait want stack => build want stack rest
    | .done root => (root, !rest.isEmpty)

mutual

/-- The first thing wrong with a tree whose contents do not matter: neither depth nor the range of a
number nor the pairing of surrogates. -/
def skip : Source → Option Fault
  | .arr items stop => skipItems items stop
  | .obj members stop => skipMembers members stop
  | .broken b => some b.asSkipped
  | .buried inner => inner.skip
  | .misnamed inner => inner.skip
  | .null | .bool _ | .num _ | .str _ | .valueless => none

def skipItems : List Source → Option Stop → Option Fault
  | [], stop => stop.map (·.asSkipped)
  | v :: rest, stop => v.skip.or (skipItems rest stop)

def skipMembers : List (String × Source) → Option Stop → Option Fault
  | [], stop => stop.map (·.asSkipped)
  | (_, v) :: rest, stop => v.skip.or (skipMembers rest stop)

end

mutual

def buffer : Source → Except Fault Value
  | .null => .ok .null
  | .bool b => .ok (.bool b)
  | .num n => .ok (.num n)
  | .str s => .ok (.str s)
  | .arr items stop => (bufferItems items stop).map .arr
  | .obj members stop => (bufferMembers members stop).map .obj
  | .broken b => .error b.asValue
  | .valueless | .buried _ | .misnamed _ => .error .malformed

def bufferItems : List Source → Option Stop → Except Fault (List Value)
  | [], none => .ok []
  | [], some stop => .error stop.asRead
  | v :: rest, stop =>
    match v.buffer with
    | .error fault => .error fault
    | .ok x => (bufferItems rest stop).map (x :: ·)

def bufferMembers : List (String × Source) → Option Stop → Except Fault Members
  | [], none => .ok []
  | [], some stop => .error stop.asRead
  | (name, v) :: rest, stop =>
    match v.buffer with
    | .error fault => .error fault
    | .ok x => (bufferMembers rest stop).map ((name, x) :: ·)

end

def view : Source → View Source
  | .null => .null
  | .bool b => .bool b
  | .num n => .num n
  | .str s => .str s
  | .arr items stop => .arr items (stop.map (·.asRead)) (some .malformed)
  | .obj members stop => .obj members (stop.map (·.asRead))
  | .broken b => .unreadable b.asValue
  | .valueless | .buried _ | .misnamed _ => .unreadable .malformed

/-- A variant's name must begin here; any other sort of token is no JSON for it. -/
def variant : Source → VariantView Source
  | .str s => .named s
  | .obj ((_, .misnamed _) :: _) _ => .unreadable .malformed
  | .obj ((name, contents) :: rest) stop =>
    .keyed name contents (if rest.isEmpty then stop.map (·.asVariant) else some .malformed)
  | .obj [] stop => .unreadable ((stop.map (·.asVariant)).getD .malformed)
  | .broken b => .unreadable b.asName
  | _ => .unreadable .malformed

/-- What is passed over at the top of a member must have a name that can be read. -/
def skipMember : Source → Option Fault
  | .misnamed _ => some .malformed
  | v => v.skip

/-- Free-form values are kept in name order, the last of repeated members. -/
instance : Readable Source where
  view := Source.view
  variant := Source.variant
  skip := Source.skipMember
  buffer := Source.buffer
  keep := Value.settled

end Source

end AgentDelegation.Json
