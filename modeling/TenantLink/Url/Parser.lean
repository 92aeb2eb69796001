import TenantLink.Text.Blank
import TenantLink.Url.Basic

/-!
# Reading URLs

`Url.parse` reads a URL and `Url.join` reads a reference against a base. Control characters and
spaces around the text do not count, nor do tabs and line ends inside it, but for one that stands
behind the drive of a file. Dot segments are resolved while a path is read.
-/

namespace TenantLink.Url

/-- The text of a URL: its tabs and line ends still have to be dropped. -/
def trimmedChars (text : String) : List Char :=
  Text.dropAround (·.toNat ≤ 0x20) text.toList

/-- The characters that do not count inside a URL. -/
def isBreak (c : Char) : Bool := c = '\t' || c = '\n' || c = '\r'

def cleaned (chars : List Char) : List Char := chars.filter fun c => !isBreak c

/-- The first character that counts, and what follows it. -/
def next? (chars : List Char) : Option (Char × List Char) :=
  match chars.dropWhile isBreak with
  | c :: rest => some (c, rest)
  | [] => none

def isSchemeChar (c : Char) : Bool := c.isAlphanum || c = '+' || c = '-' || c = '.'

/-- The scheme at the start of a text, in lower case: a colon follows it. -/
def scheme? (chars : List Char) : Option String :=
  match chars with
  | c :: _ =>
    if c.isAlpha ∧ (chars.dropWhile isSchemeChar).head? = some ':' then
      some (String.ofList ((chars.takeWhile isSchemeChar).map Char.toLower))
    else none
  | [] => none

/-- Whether `c` ends a segment. -/
def isSlash (kind : SchemeKind) (c : Char) : Bool := c = '/' || (kind.isSpecial && c = '\\')

/-- Whether `c` ends the host, with its user and port. -/
def endsAuthority (kind : SchemeKind) (c : Char) : Bool :=
  isSlash kind c || c = '?' || c = '#'

/-- A letter and a colon or bar. -/
def isDrive (segment : List Char) : Bool :=
  match segment with
  | [c, d] => c.isAlpha && (d = ':' || d = '|')
  | _ => false

/-- A drive whose mark is a colon. -/
def isNormalDrive (segment : List Char) : Bool :=
  match segment with
  | [c, d] => c.isAlpha && d = ':'
  | _ => false

def startsWithDrive (chars : List Char) : Bool :=
  isDrive (chars.takeWhile fun c => c ≠ '/' && c ≠ '\\' && c ≠ '?' && c ≠ '#')

/-- A dot, plain or encoded, at the start of a segment, and what follows. -/
def dot? : List Char → Option (List Char)
  | '.' :: rest => some rest
  | '%' :: '2' :: 'e' :: rest => some rest
  | '%' :: '2' :: 'E' :: rest => some rest
  | _ => none

def isDot (segment : List Char) : Bool := dot? segment = some []

def isDotDot (segment : List Char) : Bool := (dot? segment).bind dot? = some []

/-- Whether a segment looks like a drive from its start. -/
def hasDriveStart (segment : List Char) : Bool :=
  match segment with
  | c :: d :: rest => isDrive [c, d] && (rest = [] || rest.head? = some '\\')
  | _ => false

/-- The segments `done`, last first, without the last of them. A drive is never left. -/
def climb (done : List (List Char)) : List (List Char) :=
  match done with
  | [] => []
  | last :: rest => if hasDriveStart last then last :: rest else rest

structure Walk where
  /-- The segments, last first. -/
  done : List (List Char)
  /-- Whether the path started with a drive: the file is then on no host. -/
  onDrive : Bool := false

namespace Walk

/-- Adds a segment; `more` tells whether a slash follows it. -/
def add (w : Walk) (kind : SchemeKind) (segment : List Char) (more : Bool) : Walk :=
  if isDotDot segment then { w with done := if more then climb w.done else [] :: climb w.done }
  else if isDot segment then { w with done := if more then w.done else [] :: w.done }
  else if kind = .file ∧ w.done = [] ∧ isDrive segment then
    { done := [segment.take 1 ++ [':']], onDrive := true }
  else { w with done := percentEncode EncodeSet.path segment :: w.done }

def addVerbatim (w : Walk) (segment : List Char) : Walk :=
  { w with done := percentEncode EncodeSet.path segment :: w.done }

/-- A file path does not start with empty segments. -/
def dropEmptyStart : List (List Char) → List (List Char)
  | [] :: s :: rest => dropEmptyStart (s :: rest)
  | ss => ss

def path (w : Walk) (kind : SchemeKind) : Path :=
  .segments (if kind = .file then dropEmptyStart w.done.reverse else w.done.reverse)

end Walk

inductive SegmentState
  | usual
  /-- A drive behind which a tab or a line end stood. -/
  | cutOff
  /-- What follows such a drive without a slash: neither dots nor drives mean anything in it. -/
  | verbatim
  deriving DecidableEq

/-- Reads the rest of a path, up to its query or fragment. `current` is the segment being read,
last character first. A drive at the start of a file path is a segment of its own when a tab or a
line end sets it apart from what follows. -/
def readSegments (kind : SchemeKind) (w : Walk) (state : SegmentState) (current : List Char) :
    List Char → Walk × List Char
  | [] => (finish w state current false, [])
  | c :: rest =>
    if isSlash kind c then readSegments kind (finish w state current true) .usual [] rest
    else if c = '?' ∨ c = '#' then (finish w state current false, c :: rest)
    else if isBreak c then
      if kind = .file ∧ w.done = [] ∧ isNormalDrive current.reverse then
        readSegments kind w .cutOff current rest
      else readSegments kind w state current rest
    else if state = .cutOff then
      readSegments kind (w.addVerbatim current.reverse) .verbatim [c] rest
    else readSegments kind w state (c :: current) rest
where
  finish (w : Walk) (state : SegmentState) (current : List Char) (more : Bool) : Walk :=
    if state = .verbatim then w.addVerbatim current.reverse
    else w.add kind current.reverse more

/-- Reads a path behind the segments `before`, and what follows it. -/
def readPath (kind : SchemeKind) (before : List (List Char)) (chars : List Char) :
    Walk × List Char :=
  readSegments kind { done := before.reverse } .usual [] chars

def pathAfterHost (kind : SchemeKind) (chars : List Char) : Walk × List Char :=
  match next? chars with
  | none => if kind.isSpecial then ({ done := [[]] }, []) else ({ done := [] }, [])
  | some (c, rest) =>
    if isSlash kind c then readPath kind [] rest
    else if kind.isSpecial then readPath kind [] chars
    else if c = '?' ∨ c = '#' then ({ done := [] }, chars)
    else readPath kind [] chars

def queryAndFragment (kind : SchemeKind) (chars : List Char) : Option String × Option String :=
  let fragment (cs : List Char) := String.ofList (percentEncode EncodeSet.fragment cs)
  let set := if kind.isSpecial then EncodeSet.specialQuery else EncodeSet.query
  match chars with
  | '?' :: rest =>
    let query := String.ofList (percentEncode set (rest.takeWhile (· ≠ '#')))
    match rest.dropWhile (· ≠ '#') with
    | '#' :: cs => (some query, some (fragment cs))
    | _ => (some query, none)
  | '#' :: cs => (none, some (fragment cs))
  | _ => (none, none)

def withQueryAndFragment (u : Url) (chars : List Char) : Url :=
  let (query, fragment) := queryAndFragment u.kind (cleaned chars)
  { u with query := query, fragment := fragment }

def withRest (u : Url) (read : Walk × List Char) : Url :=
  { u with path := read.1.path u.kind }.withQueryAndFragment read.2

def cutAtLast? (sep : Char) (chars : List Char) : Option (List Char × List Char) :=
  (Text.cutAt? sep chars.reverse).map fun (after, before) => (before.reverse, after.reverse)

/-- The user and the password in front of a host. -/
def userinfo (chars : List Char) : String × Option String :=
  let encode (cs : List Char) := String.ofList (percentEncode EncodeSet.userinfo cs)
  match Text.cutAt? ':' chars with
  | none => (encode chars, none)
  | some (user, []) => (encode user, none)
  | some (user, password) => (encode user, some (encode password))

/-- The text of a host and what follows it: a colon ends it, unless it stands in brackets. -/
def hostChars (kind : SchemeKind) (inside : Bool) (seen : List Char) :
    List Char → List Char × List Char
  | [] => (seen.reverse, [])
  | c :: rest =>
    if (c = ':' ∧ inside = false) ∨ endsAuthority kind c then (seen.reverse, c :: rest)
    else
      let inside := if c = '[' then true else if c = ']' then false else inside
      hostChars kind inside (c :: seen) rest

/-- Reads a port up to the path: its number, if there is one, and what follows. -/
def readPort (n : Nat) (any : Bool) : List Char → Except UrlError (Option Nat × List Char)
  | [] => .ok (if any then some n else none, [])
  | c :: rest =>
    if c.isDigit then
      let n' := n * 10 + (c.toNat - 0x30)
      if n' < 0x10000 then readPort n' true rest else .error .port
    else if c = '/' ∨ c = '\\' ∨ c = '?' ∨ c = '#' then
      .ok (if any then some n else none, c :: rest)
    else .error .port

/-- The host of a URL that is no file. An empty text is no host of a special scheme. -/
def hostOf (kind : SchemeKind) (chars : List Char) : Except UrlError Host :=
  if kind.isSpecial then if chars = [] then .error .emptyHost else Host.ofChars chars
  else Host.opaqueOfChars chars

/-- Reads host, port and everything after them. -/
def fromHost (scheme : String) (user : String × Option String) (chars : List Char) :
    Except UrlError Url :=
  let kind := SchemeKind.ofScheme scheme
  let (name, rest) := hostChars kind false [] chars
  match hostOf kind name with
  | .error e => .error e
  | .ok host =>
    if host = .empty ∧ (rest.head? = some ':' ∨ user ≠ ("", none)) then .error .emptyHost
    else
      let read := match rest with
        | ':' :: digits => readPort 0 false digits
        | _ => .ok (none, rest)
      match read with
      | .error e => .error e
      | .ok (port, after) =>
        let shown := if port = defaultPorts.lookup scheme then none else port
        let u : Url := ⟨scheme, user.1, user.2, some host, shown, .segments [], none, none⟩
        .ok (u.withRest (pathAfterHost kind after))

/-- Reads everything behind two slashes. -/
def fromAuthority (scheme : String) (chars : List Char) : Except UrlError Url :=
  let kind := SchemeKind.ofScheme scheme
  let front := chars.takeWhile fun c => !endsAuthority kind c
  let back := chars.dropWhile fun c => !endsAuthority kind c
  match cutAtLast? '@' front with
  | none => fromHost scheme ("", none) chars
  | some ([], host) =>
    if host = [] ∧ back ≠ [] then .error .emptyHost
    else fromHost scheme ("", none) (host ++ back)
  | some (user, host) => fromHost scheme (userinfo user) (host ++ back)

/-- Reads a URL of a scheme that is not special, behind its colon. -/
def fromPlain (scheme : String) (chars : List Char) : Except UrlError Url :=
  match chars with
  | '/' :: '/' :: rest => fromAuthority scheme rest
  | '/' :: rest =>
    let u : Url := ⟨scheme, "", none, none, none, .segments [], none, none⟩
    .ok (u.withRest (readPath .plain [] rest))
  | _ =>
    let front := chars.takeWhile fun c => c ≠ '?' && c ≠ '#'
    let back := chars.dropWhile fun c => c ≠ '?' && c ≠ '#'
    let u : Url :=
      ⟨scheme, "", none, none, none, .text (percentEncode EncodeSet.controls front), none, none⟩
    .ok (u.withQueryAndFragment back)

/-- The host of a file, and what follows it. A drive is no host, and neither is this machine. -/
def fileHost (chars : List Char) : Except UrlError (Option Host × List Char) :=
  let ends := fun c => c = '/' || c = '\\' || c = '?' || c = '#'
  let name := cleaned (chars.takeWhile fun c => !ends c)
  let rest := chars.dropWhile fun c => !ends c
  if isDrive name then .ok (none, chars)
  else if name = [] then .ok (none, rest)
  else
    match Host.ofChars name with
    | .error e => .error e
    | .ok (.domain "localhost") => .ok (none, rest)
    | .ok host => .ok (some host, rest)

def localFile : Url := ⟨"file", "", none, none, none, .segments [], none, none⟩

/-- The file whose path from the root `chars` spell, behind the segments `before`. -/
def localPath (before : List (List Char)) (chars : List Char) : Url :=
  localFile.withRest (readPath .file before chars)

def segmentList (u : Url) : List (List Char) :=
  match u.path with
  | .segments ss => ss
  | .text _ => []

/-- The segments in whose directory `u` is. -/
def directory (u : Url) : List (List Char) :=
  if u.scheme = "file" ∧ u.segmentList.getLast?.any isNormalDrive then u.segmentList
  else u.segmentList.dropLast

def withFragment (u : Url) (chars : List Char) : Url :=
  { u with fragment := some (String.ofList (percentEncode EncodeSet.fragment (cleaned chars))) }

/-- Reads a file URL behind its two slashes. Without a host, a slash in front of the path is a
segment of its own, and is dropped only at the end. -/
def fromFileHost (chars : List Char) : Except UrlError Url :=
  match fileHost chars with
  | .error e => .error e
  | .ok (none, after) => .ok (localPath [] after)
  | .ok (some host, after) =>
    let read := pathAfterHost .file after
    let kept := if read.1.onDrive then none else some host
    .ok ({ localFile with host := kept }.withRest read)

/-- Reads a file path from the root, on the drive or the host of the base. -/
def fromFileRoot (base : Option Url) (chars : List Char) : Url :=
  match base with
  | none => localPath [] chars
  | some u =>
    if startsWithDrive (cleaned chars) then localPath [] chars
    else if u.segmentList.head?.any isNormalDrive then localPath (u.segmentList.take 1) chars
    else { localFile with host := u.host }.withRest (readPath .file [] chars)

/-- Reads a file URL behind its colon, or a reference against a file. Tabs and line ends are still
in the text: in a path they can set a drive apart. -/
def fromFile (base : Option Url) (chars : List Char) : Except UrlError Url :=
  match next? chars with
  | none =>
    match base with
    | none => .ok (localPath [] [])
    | some u => .ok { u with fragment := none }
  | some (a, rest) =>
    if isSlash .file a then
      match next? rest with
      | some (b, after) =>
        if isSlash .file b then fromFileHost after else .ok (fromFileRoot base rest)
      | none => .ok (fromFileRoot base rest)
    else
      match base with
      | none => .ok (localPath [] chars)
      | some u =>
        if a = '?' then .ok (u.withQueryAndFragment chars)
        else if a = '#' then .ok (u.withFragment rest)
        else if startsWithDrive (cleaned chars) then .ok (localPath [] chars)
        else .ok (u.withRest (readPath .file u.directory chars))

/-- Reads a reference without a scheme against a base that is no file. -/
def fromRelative (base : Url) (chars : List Char) : Except UrlError Url :=
  let kind := base.kind
  match chars with
  | [] => .ok { base with fragment := none }
  | c :: rest =>
    if c = '?' then .ok (base.withQueryAndFragment chars)
    else if c = '#' then .ok (base.withFragment rest)
    else if c = '/' ∨ c = '\\' then
      match chars, rest with
      | '/' :: '/' :: after, _ => fromAuthority base.scheme after
      | _, d :: _ =>
        if d = '/' ∨ d = '\\' then
          fromAuthority base.scheme (chars.dropWhile fun c => c = '/' || c = '\\')
        else .ok (base.withRest (readPath kind [] rest))
      | _, [] => .ok (base.withRest (readPath kind [] rest))
    else .ok (base.withRest (readPath kind base.directory chars))

/-- Reads a URL behind its scheme and colon. -/
def fromScheme (base : Option Url) (scheme : String) (chars : List Char) : Except UrlError Url :=
  match SchemeKind.ofScheme scheme with
  | .file =>
    fromFile (match base with
      | some u => if u.scheme = "file" then some u else none
      | none => none) chars
  | .plain => fromPlain scheme (cleaned chars)
  | .special =>
    let chars := cleaned chars
    let isSlash := fun c => c = '/' || c = '\\'
    let slashes := (chars.takeWhile isSlash).length
    match base with
    | some u =>
      if slashes < 2 ∧ u.scheme = scheme then fromRelative u chars
      else fromAuthority scheme (chars.dropWhile isSlash)
    | none => fromAuthority scheme (chars.dropWhile isSlash)

/-- Reads a text against a base, if there is one. -/
def read (base : Option Url) (text : String) : Except UrlError Url :=
  let raw := trimmedChars text
  let chars := cleaned raw
  match scheme? chars with
  | some scheme => fromScheme base scheme ((raw.dropWhile (· ≠ ':')).drop 1)
  | none =>
    match base with
    | none => .error .noBase
    | some u =>
      match u.path, chars with
      | _, '#' :: rest => .ok (u.withFragment rest)
      | .text _, _ => .error .opaqueBase
      | .segments _, _ => if u.kind = .file then fromFile base raw else fromRelative u chars

def parse (text : String) : Except UrlError Url := read none text

def join (u : Url) (text : String) : Except UrlError Url := read (some u) text

end TenantLink.Url
