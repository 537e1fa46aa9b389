import AgentDelegation.Json.Record

/-!
# Messages and their parts

A message is said by the user or the agent and holds parts. A part is a text, a file, a piece of data, or
something of unknown shape that is carried along unread, so that a new kind of part never makes the rest
of a message unreadable. Which of the four an object is follows from its members and not from what it
says about its own kind.
-/

namespace AgentDelegation

open Json

inductive Role where
  | user
  | agent
deriving DecidableEq, Repr, Inhabited

namespace Role

def name : Role → String
  | .user => "user"
  | .agent => "agent"

/-- The spellings of the roles, in the order messages list them. -/
def spellings : List (String × Role) :=
  [("ROLE_USER", .user), ("user", .user), ("ROLE_AGENT", .agent), ("agent", .agent)]

def format : Format Role := .variants spellings name

end Role

structure FileContent where
  name : Option String
  mimeType : Option String
  bytes : Option String
  uri : Option String
deriving DecidableEq, Repr, Inhabited

namespace FileContent

def record : Record FileContent FileContent :=
  mk <$> .placed "name" .text name
    <*> .placed "mimeType" .text mimeType
    <*> .placed "bytes" .text bytes
    <*> .placed "uri" .text uri

def format : Format FileContent := record.format "FileContent"

end FileContent

inductive Part where
  | text (text : String) (metadata : Option Members)
  | file (file : FileContent) (metadata : Option Members)
  | data (data : Value) (metadata : Option Members)
  /-- A part of unknown shape, with all its members. -/
  | other (members : Members)
deriving DecidableEq, Repr, Inhabited

namespace Part

/-- A text part without metadata. -/
def ofText (s : String) : Part := .text s none

def text? : Part → Option String
  | .text s _ => some s
  | _ => none

/-- What an object has under a name: nothing, one value, or several. -/
inductive Lookup where
  | absent
  | sole (v : Value)
  | repeated
deriving DecidableEq, Repr

def lookup (name : String) (members : Members) : Lookup :=
  match members.filter fun member => member.1 == name with
  | [] => .absent
  | [(_, v)] => .sole v
  | _ => .repeated

/-- The metadata of a part, or `none` if the part cannot be anything but unknown. -/
def metadata? (keep : Value → Value) (members : Members) : Option (Option Members) :=
  match lookup "metadata" members with
  | .absent => some none
  | .sole .null => some none
  | .sole (.obj metadata) =>
    match keep (.obj metadata) with
    | .obj kept => some (some kept)
    | _ => none
  | _ => none

def asText? (members : Members) (metadata : Option Members) : Option Part :=
  match lookup "text" members with
  | .sole (.str s) => some (.text s metadata)
  | _ => none

def asFile? (members : Members) (metadata : Option Members) : Option Part :=
  match lookup "file" members with
  | .sole v => (FileContent.format.readValue? v).map fun content => .file content metadata
  | _ => none

def asData? (keep : Value → Value) (members : Members) (metadata : Option Members) : Option Part :=
  match lookup "data" members with
  | .sole v => some (.data (keep v) metadata)
  | _ => none

/-- The part an object is: the first of text, file and data that its members allow, and else unknown.
`keep` says what becomes of a free-form value that is kept. -/
def ofMembers (keep : Value → Value) (members : Members) : Part :=
  let known := do
    let metadata ← metadata? keep members
    asText? members metadata <|> asFile? members metadata <|> asData? keep members metadata
  known.getD <|
    match keep (.obj members) with
    | .obj kept => .other kept
    | _ => .other members

def metadataMembers (metadata : Option Members) : Members :=
  match metadata with
  | none => []
  | some members => [("metadata", .obj members)]

/-- A known part says its kind; an unknown one is written as it came. -/
def write : Part → Value
  | .text s metadata => .obj ([("kind", .str "text"), ("text", .str s)] ++ metadataMembers metadata)
  | .file content metadata =>
    .obj ([("kind", .str "file"), ("file", FileContent.format.write content)] ++ metadataMembers metadata)
  | .data v metadata => .obj ([("kind", .str "data"), ("data", v)] ++ metadataMembers metadata)
  | .other members => .obj members

/-- A part is read whole before its kind is chosen. -/
def format : Format Part where
  read {ν} _ n := do
    match ← Readable.buffer n with
    | .obj members => .ok (ofMembers (@Readable.keep ν _) members)
    | _ => .error (.unmatched "Part")
  write := write

end Part

structure Message where
  role : Role
  parts : List Part
  metadata : Option Members
  messageId : String
  taskId : Option String
  contextId : Option String
deriving DecidableEq, Repr, Inhabited

namespace Message

def record : Record Message Message :=
  mk <$> .required "role" Role.format role
    <*> .required "parts" (.list Part.format) parts
    <*> .optional "metadata" .members metadata
    <*> .defaulted "messageId" .text "" messageId
    <*> .optional "taskId" .text taskId
    <*> .optional "contextId" .text contextId

def format : Format Message := record.format "Message"

def empty : Message := ⟨.user, [], none, "", none, none⟩

def ofUser (id text : String) : Message := { empty with parts := [.ofText text], messageId := id }

/-- The texts of the text parts, joined. -/
def text (message : Message) : String := String.join (message.parts.filterMap Part.text?)

end Message

end AgentDelegation
