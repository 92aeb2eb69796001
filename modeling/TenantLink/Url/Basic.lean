import TenantLink.Url.Host

/-!
# URLs

A URL is kept as its parts, each in the form in which it is printed. `Url.text` prints it.
-/

namespace TenantLink

namespace Url

/-- The path of a URL: text without structure, or segments each of which a slash precedes. -/
inductive Path
  | text (chars : List Char)
  | segments (segments : List (List Char))
  deriving DecidableEq, Repr

/-- How a scheme is treated. -/
inductive SchemeKind
  | file
  | special
  | plain
  deriving DecidableEq, Repr

/-- The schemes with a host and a default port. -/
def defaultPorts : List (String × Nat) :=
  [("http", 80), ("https", 443), ("ws", 80), ("wss", 443), ("ftp", 21)]

def SchemeKind.ofScheme (scheme : String) : SchemeKind :=
  if scheme = "file" then .file
  else if (defaultPorts.lookup scheme).isSome then .special
  else .plain

/-- Whether backslashes separate segments. -/
def SchemeKind.isSpecial : SchemeKind → Bool
  | .plain => false
  | _ => true

def Path.chars : Path → List Char
  | .text cs => cs
  | .segments ss => ss.flatMap ('/' :: ·)

end Url

structure Url where
  scheme : String
  username : String := ""
  password : Option String := none
  host : Option Host := none
  /-- Left out when it is the default one of the scheme. -/
  port : Option Nat := none
  path : Url.Path
  query : Option String := none
  fragment : Option String := none
  deriving DecidableEq, Repr

namespace Url

def kind (u : Url) : SchemeKind := SchemeKind.ofScheme u.scheme

/-- Whether no other URL can be relative to this one. -/
def isOpaque (u : Url) : Bool :=
  match u.path with
  | .text _ => true
  | .segments _ => false

def pathText (u : Url) : String := String.ofList u.path.chars

def effectivePort (u : Url) : Option Nat :=
  match u.port with
  | some p => some p
  | none => defaultPorts.lookup u.scheme

/-- The user and the password, with the mark behind them. -/
def credentials (u : Url) : String :=
  match u.password with
  | some p => u.username ++ ":" ++ p ++ "@"
  | none => if u.username = "" then "" else u.username ++ "@"

/-- What stands between the scheme and the path. A path that starts with two slashes is kept apart
from a host that is not there. -/
def authority (u : Url) : String :=
  match u.host with
  | some h =>
    "//" ++ u.credentials ++ h.text ++
      match u.port with
      | some p => ":" ++ toString p
      | none => ""
  | none =>
    if u.scheme = "file" then "//"
    else
      match u.path with
      | .segments ([] :: _ :: _) => "/."
      | _ => ""

def target (u : Url) : String :=
  u.pathText ++
    match u.query with
    | some q => "?" ++ q
    | none => ""

def text (u : Url) : String :=
  u.scheme ++ ":" ++ u.authority ++ u.target ++
    match u.fragment with
    | some f => "#" ++ f
    | none => ""

def SameOrigin (u v : Url) : Prop :=
  u.scheme = v.scheme ∧ u.host = v.host ∧ u.effectivePort = v.effectivePort

instance (u v : Url) : Decidable (u.SameOrigin v) := by
  unfold SameOrigin
  infer_instance

end Url

end TenantLink
