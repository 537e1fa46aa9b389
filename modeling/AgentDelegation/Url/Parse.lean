import AgentDelegation.Url.Basic

/-!
# Reading addresses

An absolute address is read in one pass over its characters: scheme, authority, path, query, fragment.
White space and control characters at the ends do not count, nor do tabs and line ends anywhere. Dot
segments of the path are resolved while it is read, and characters that may not stand where they do are
percent-encoded, so the text of what was read is a normal form.
-/

namespace AgentDelegation.Url

open Text

def isEdge (c : Char) : Bool := c.toNat ≤ 0x20

def isLineOrTab (c : Char) : Bool := c == '\t' || c == '\n' || c == '\r'

def significant (cs : List Char) : List Char :=
  ((cs.dropWhile isEdge).reverse.dropWhile isEdge).reverse.filter (!isLineOrTab ·)

def isSchemeChar (c : Char) : Bool := c.isAlphanum || c == '+' || c == '-' || c == '.'

/-- The scheme in lower case, and what follows its colon. -/
def scheme? (cs : List Char) : Option (String × List Char) :=
  if cs.head?.any Char.isAlpha then
    match cs.dropWhile isSchemeChar with
    | ':' :: rest => some (String.ofList ((cs.takeWhile isSchemeChar).map Char.toLower), rest)
    | _ => none
  else none

def isSlash (kind : SchemeKind) (c : Char) : Bool := c == '/' || (kind.isKnown && c == '\\')

def endsAuthority (kind : SchemeKind) (c : Char) : Bool := isSlash kind c || c == '?' || c == '#'

/-! ## User and password -/

/-- The characters before and after the last at sign of an authority. -/
def splitUserInfo (kind : SchemeKind) (cs : List Char) : Option (List Char) × List Char :=
  let authority := cs.takeWhile (!endsAuthority kind ·)
  let rest := cs.dropWhile (!endsAuthority kind ·)
  let host := (authority.reverse.takeWhile (· != '@')).reverse
  if authority.contains '@' then (some (authority.take (authority.length - host.length - 1)), host ++ rest)
  else (none, cs)

def encodeUserInfo (cs : List Char) : String := String.ofList (percentEncode inUserInfo cs)

/-- User and password; what stands before the first colon is the user. -/
def readUserInfo (cs : List Char) : String × Option String :=
  let user := encodeUserInfo (cs.takeWhile (· != ':'))
  match cs.dropWhile (· != ':') with
  | _ :: c :: password => (user, some (encodeUserInfo (c :: password)))
  | _ => (user, none)

/-! ## Host and port -/

/-- The characters of a host: up to a colon outside brackets or the end of the authority. -/
def hostChars (kind : SchemeKind) : Bool → List Char → List Char
  | _, [] => []
  | inside, c :: rest =>
    if endsAuthority kind c || (c == ':' && !inside) then []
    else c :: hostChars kind (if c == '[' then true else if c == ']' then false else inside) rest

/-- Reads a port; none is given if there are no digits. -/
def readPort : Option Nat → List Char → Except Fault (Option Nat × List Char)
  | port, [] => .ok (port, [])
  | port, c :: rest =>
    if c.isDigit then
      let n := port.getD 0 * 10 + (c.toNat - 48)
      if 65535 < n then .error .invalidPort else readPort (some n) rest
    else if ['/', '\\', '?', '#'].contains c then .ok (port, c :: rest)
    else .error .invalidPort

def readHost (kind : SchemeKind) (cs : List Char) : Except Fault Host :=
  match kind with
  | .network => if cs.isEmpty then .error .emptyHost else Host.parse cs
  | .file => Host.parse cs
  | .other => Host.parsePlain cs

def readHostAndPort (scheme : String) (cs : List Char) : Except Fault (Host × Option Nat × List Char) := do
  let name := hostChars (.of scheme) false cs
  let host ← readHost (.of scheme) name
  match cs.drop name.length with
  | ':' :: rest =>
    if host = .name "" then .error .emptyHost
    let (port, rest) ← readPort none rest
    .ok (host, if port = defaultPort? scheme then none else port, rest)
  | rest => .ok (host, none, rest)

def readAuthority (scheme : String) (cs : List Char) : Except Fault (Authority × List Char) := do
  let (info, rest) := splitUserInfo (.of scheme) cs
  if info = some [] && rest.head?.any (endsAuthority (.of scheme)) then .error .emptyHost
  let (user, password) := readUserInfo (info.getD [])
  let (host, port, rest) ← readHostAndPort scheme rest
  if host = .name "" && !(user.isEmpty && password.isNone) then .error .emptyHost
  .ok (⟨user, password, host, port⟩, rest)

/-! ## Path, query and fragment -/

def splitPath (kind : SchemeKind) (cs : List Char) : List (List Char) :=
  (cs.map fun c => if isSlash kind c then '/' else c).splitOn '/'

/-- A segment with encoded points read as points, if it is nothing but one or two of them. -/
def dots? (segment : List Char) : Option Nat :=
  match segment.map Char.toLower with
  | ['.'] => some 1
  | ['%', '2', 'e'] => some 1
  | ['.', '.'] => some 2
  | ['.', '%', '2', 'e'] => some 2
  | ['%', '2', 'e', '.'] => some 2
  | ['%', '2', 'e', '%', '2', 'e'] => some 2
  | _ => none

/-- Whether a segment is a drive, or a drive and what follows a backslash. -/
def isOnDrive (segment : List Char) : Bool := Path.isDrive (segment.takeWhile (· != '\\'))

/-- Leaves the last segment; a drive is not left. -/
def leave : List String → List String
  | [] => []
  | last :: segments => if isOnDrive last.toList then last :: segments else segments

/-- The segments of a path, given those read so far in reverse: a point stays where it is, two points
leave the last segment, and either one at the end leaves an empty segment. -/
def resolve : List String → List (List Char) → List String
  | read, [] => read.reverse
  | read, piece :: rest =>
    let segment := percentEncode inPath piece
    match dots? segment with
    | some 1 => resolve (if rest.isEmpty then "" :: read else read) rest
    | some _ => resolve (if rest.isEmpty then "" :: leave read else leave read) rest
    | none => resolve (String.ofList segment :: read) rest

/-- What stands before the query and the fragment, the query, and the fragment. -/
def splitTail (cs : List Char) : List Char × Option (List Char) × Option (List Char) :=
  let before := cs.takeWhile (· != '#')
  let fragment := (cs.dropWhile (· != '#')).tail?
  (before.takeWhile (· != '?'), (before.dropWhile (· != '?')).tail?, fragment)

def encodeQuery (kind : SchemeKind) (cs : List Char) : String :=
  String.ofList (percentEncode (if kind.isKnown then inSpecialQuery else inQuery) cs)

def encodeFragment (cs : List Char) : String := String.ofList (percentEncode inFragment cs)

/-- An address from its parts, the path being given up to its query. -/
def assemble (scheme : String) (authority : Option Authority) (path : List Char → Path) (cs : List Char) : Url :=
  let (before, query, fragment) := splitTail cs
  { scheme := scheme
    authority := authority
    isApart := authority.isNone && (path before).text.startsWith "//"
    path := path before
    query := query.map (encodeQuery (.of scheme))
    fragment := fragment.map encodeFragment }

/-- The segments after an authority; in a known scheme there is at least one. -/
def rootedSegments (kind : SchemeKind) (cs : List Char) : List String :=
  match cs with
  | [] => if kind.isKnown then [""] else []
  | c :: rest => resolve [] (splitPath kind (if isSlash kind c then rest else c :: rest))

def rootedPath (kind : SchemeKind) (cs : List Char) : Path := .segments (rootedSegments kind cs)

/-- The address with another path, which is read as one that stands after an authority. The drive of a file has
a colon then. -/
def withPath (url : Url) (path : String) : Url :=
  let segments := rootedSegments url.kind path.toList
  { url with path := .segments (if url.kind = .file then Path.colonDrive segments else segments) }

/-- Files have no empty segments at the front of their path. -/
def dropEmpty : List String → List String
  | "" :: segment :: rest => dropEmpty (segment :: rest)
  | segments => segments

def noHost : Host := .name ""

/-- The address of a file on a host; the host of a drive is left out. -/
def fileUrl (host : Host) (cs : List Char) : Url :=
  let segments := rootedSegments .file (splitTail cs).1
  if host ≠ noHost && Path.beginsWithDrive segments then
    assemble "file" (some (.ofHost noHost)) (fun _ => .segments (Path.colonDrive segments)) cs
  else assemble "file" (some (.ofHost host)) (fun _ => .segments (dropEmpty segments)) cs

/-- The host of a file; the local one is left out. -/
def fileHost (name : List Char) : Except Fault Host :=
  if name.isEmpty then .ok noHost
  else do
    let host ← Host.parse name
    .ok (if host = .name "localhost" then noHost else host)

/-- Reads the address of a file after its scheme. A drive is no host. -/
def readFile (cs : List Char) : Except Fault Url :=
  match cs with
  | a :: b :: rest =>
    if isSlash .file a && isSlash .file b then do
      let name := rest.takeWhile (!endsAuthority .file ·)
      if Path.isDrive name then .ok (fileUrl noHost rest)
      else .ok (fileUrl (← fileHost name) (rest.drop name.length))
    else .ok (fileUrl noHost cs)
  | cs => .ok (fileUrl noHost cs)

def readHierarchical (scheme : String) (cs : List Char) : Except Fault Url := do
  let (authority, rest) ← readAuthority scheme cs
  .ok (assemble scheme (some authority) (rootedPath (.of scheme)) rest)

def rootlessPath (cs : List Char) : Path := .rootless (String.ofList (percentEncode isControl cs))

/-- Reads an address of a scheme without rules of its own. -/
def readOther (scheme : String) (cs : List Char) : Except Fault Url :=
  match cs with
  | '/' :: '/' :: rest => readHierarchical scheme rest
  | '/' :: _ => .ok (assemble scheme none (rootedPath .other) cs)
  | _ => .ok (assemble scheme none rootlessPath cs)

def parseChars (cs : List Char) : Except Fault Url :=
  match scheme? (significant cs) with
  | none => .error .relative
  | some (scheme, rest) =>
    match SchemeKind.of scheme with
    | .network => readHierarchical scheme (rest.dropWhile (isSlash .network))
    | .file => readFile rest
    | .other => readOther scheme rest

def parse (text : String) : Except Fault Url := parseChars text.toList

end AgentDelegation.Url
