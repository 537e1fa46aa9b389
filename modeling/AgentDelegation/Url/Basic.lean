import AgentDelegation.Url.Host

/-!
# Addresses

The parts of an absolute address and its text. The path is a list of segments, or, where the scheme is
followed by neither a slash nor an authority, a plain text that nothing can be appended to.
-/

namespace AgentDelegation

namespace Url

/-- The schemes with rules of their own: those with an authority, and files. -/
inductive SchemeKind where
  | network
  | file
  | other
deriving DecidableEq, Repr, Inhabited

namespace SchemeKind

def of (scheme : String) : SchemeKind :=
  if ["http", "https", "ws", "wss", "ftp"].contains scheme then .network
  else if scheme = "file" then .file
  else .other

/-- Backslashes are slashes in the addresses of a known scheme. -/
def isKnown (kind : SchemeKind) : Bool := kind != .other

end SchemeKind

/-- The port that need not be written. -/
def defaultPort? : String → Option Nat
  | "http" => some 80
  | "https" => some 443
  | "ws" => some 80
  | "wss" => some 443
  | "ftp" => some 21
  | _ => none

inductive Path where
  | segments (segments : List String)
  | rootless (text : String)
deriving DecidableEq, Repr, Inhabited

namespace Path

def text : Path → String
  | .segments list => String.join (list.map ("/" ++ ·))
  | .rootless plain => plain

/-- Whether something can be put below the path. -/
def isRooted : Path → Bool
  | .segments _ => true
  | .rootless _ => false

/-- A letter and a colon or a bar name a drive. -/
def isDrive : List Char → Bool
  | [letter, mark] => letter.isAlpha && (mark == ':' || mark == '|')
  | _ => false

def beginsWithDrive (segments : List String) : Bool := segments.head?.any (isDrive ·.toList)

def colonDrive (segments : List String) : List String :=
  match segments with
  | [] => []
  | first :: rest => (if isDrive first.toList then String.ofList (first.toList.take 1 ++ [':']) else first) :: rest

end Path

/-- Who is asked and where; a password is never empty. -/
structure Authority where
  user : String
  password : Option String
  host : Host
  port : Option Nat
deriving DecidableEq, Repr, Inhabited

namespace Authority

def ofHost (host : Host) : Authority := ⟨"", none, host, none⟩

def userInfo (authority : Authority) : String :=
  let password := (authority.password.map (":" ++ ·)).getD ""
  if authority.user.isEmpty && authority.password.isNone then "" else authority.user ++ password ++ "@"

def text (authority : Authority) : String :=
  authority.userInfo ++ authority.host.text ++ ((authority.port.map fun n => ":" ++ toString n).getD "")

end Authority

end Url

/-- An absolute address. If it has no authority and its path began with two slashes when it was read, a mark
keeps the path apart, so that it is not read as an authority. -/
structure Url where
  scheme : String
  authority : Option Url.Authority
  isApart : Bool
  path : Url.Path
  query : Option String
  fragment : Option String
deriving DecidableEq, Repr, Inhabited

namespace Url

def kind (url : Url) : SchemeKind := .of url.scheme

/-- The authority after its slashes, or the mark in its place. -/
def authorityText (url : Url) : String :=
  match url.authority with
  | some authority => "//" ++ authority.text
  | none => if url.isApart then "/." else ""

def text (url : Url) : String :=
  url.scheme ++ ":" ++ url.authorityText ++ url.path.text ++ ((url.query.map ("?" ++ ·)).getD "")
    ++ ((url.fragment.map ("#" ++ ·)).getD "")

/-- A text without the slashes at its end. -/
def trimSlashes (text : String) : String := String.ofList (text.toList.reverse.dropWhile (· == '/')).reverse

/-- The address without user and password. -/
def withoutUser (url : Url) : Url :=
  { url with authority := url.authority.map fun authority => { authority with user := "", password := none } }

end Url

end AgentDelegation
