import LlamaGateway.Text.Basic
import LlamaGateway.Url.Host

/-!
# Addresses

An absolute address has parts in a normal form, and a text that they make up. It is read leniently:
white space around it does not count, web addresses may use backslashes, dot segments are resolved
and everything that may not stand where it does is percent encoded.
-/

namespace LlamaGateway

/-- The path of an address. -/
inductive Url.Path where
  | segments (items : List (List Char))
  | plain (text : List Char)
deriving DecidableEq, Repr

/-- An absolute address. -/
structure Url where
  /-- The scheme. -/
  scheme : List Char
  /-- The user name, empty if there is none. -/
  username : List Char
  /-- The password, empty if there is none. -/
  password : List Char
  /-- The host. -/
  host : Option (List Char)
  /-- The port, unless it is the usual one of the scheme. -/
  port : Option Nat
  /-- The path. -/
  path : Url.Path
  /-- The query. -/
  query : Option (List Char)
  /-- The fragment. -/
  fragment : Option (List Char)
deriving DecidableEq, Repr

namespace Url

/-- The text of user name and password. -/
def userInfoText (url : Url) : List Char :=
  if url.username.isEmpty ∧ url.password.isEmpty then []
  else url.username ++ (if url.password.isEmpty then [] else ':' :: url.password) ++ ['@']

/-- The text of the port. -/
def portText (url : Url) : List Char :=
  match url.port with
  | some port => ':' :: Nat.toDigits 10 port
  | none => []

/-- The text between scheme and path. Without a host, a path that starts with two slashes needs a
dot in front. -/
def authorityText (url : Url) : List Char :=
  match url.host, url.path with
  | some host, _ => ['/', '/'] ++ url.userInfoText ++ host ++ url.portText
  | none, .segments ([] :: _ :: _) => ['/', '.']
  | none, _ => []

/-- The text of a path. -/
def Path.text : Path → List Char
  | .segments items => items.flatMap ('/' :: ·)
  | .plain body => body

/-- A part behind its mark, empty if there is none. -/
def markedText (mark : Char) : Option (List Char) → List Char
  | some part => mark :: part
  | none => []

/-- The text of an address. -/
def toText (url : Url) : String :=
  String.ofList (url.scheme ++ ':' :: url.authorityText ++ url.path.text ++
    markedText '?' url.query ++ markedText '#' url.fragment)

/-- The address can be reached by the protocol of the web. -/
def isHttp (url : Url) : Bool :=
  url.scheme = "http".toList || url.scheme = "https".toList

/-- The protocol takes the character in a host. -/
def isHostChar (c : Char) : Bool :=
  c.isAlphanum || "!$&'()*+,-.:;=[]_~".toList.contains c

/-- The protocol takes the host, which is not empty. -/
def hasRequestHost (url : Url) : Bool :=
  match url.host with
  | some host => !host.isEmpty && host.all isHostChar
  | none => false

/-- The longest address that can be requested, in bytes. -/
def longestRequest : Nat := 65534

/-- The text of a request address is not too long. -/
def isRequestText (text : String) : Bool :=
  (Utf8.encode text.toList).length ≤ longestRequest

/-- The address without user name and password, which a request carries in a header. -/
def withoutUser (url : Url) : Url :=
  { url with username := [], password := [] }

/-- A web address with a host that the protocol takes. -/
def isRequestable (url : Url) : Bool :=
  url.isHttp && url.hasRequestHost

/-- A segment that stands for the directory itself. -/
def isSingleDot (segment : List Char) : Bool :=
  [".", "%2e"].contains (String.ofList (segment.map Char.toLower))

/-- A segment that stands for the directory above. -/
def isDoubleDot (segment : List Char) : Bool :=
  ["..", ".%2e", "%2e.", "%2e%2e"].contains (String.ofList (segment.map Char.toLower))

/-- A letter and a colon or bar, alone or before a backslash, which names a drive. -/
def isDriveName : List Char → Bool
  | letter :: mark :: rest =>
    letter.isAlpha && (mark = ':' || mark = '|') && (rest.isEmpty || rest.head? = some '\\')
  | _ => false

/-- A path as far as it is walked. -/
structure Walk where
  /-- The segments. -/
  segments : List (List Char)
  /-- The path of a file entered a drive of this machine. -/
  onDrive : Bool
deriving DecidableEq, Repr

namespace Walk

/-- A walk before its first segment. -/
def start : Walk := ⟨[], false⟩

/-- The walk after it left the last directory, unless that is a drive. -/
def leave (walk : Walk) : Walk :=
  if walk.segments.getLast?.any isDriveName then walk
  else { walk with segments := walk.segments.dropLast }

/-- The walk after a slash at the end of a path. -/
def close (isLast : Bool) (walk : Walk) : Walk :=
  if isLast then { walk with segments := walk.segments ++ [[]] } else walk

/-- The walk after it entered a directory. -/
def enter (isFile : Bool) (segment : List Char) (walk : Walk) : Walk :=
  if isFile && walk.segments.isEmpty && isDriveName segment then ⟨[segment.take 1 ++ [':']], true⟩
  else { walk with segments := walk.segments ++ [percentEncode encodesInPath segment] }

/-- The walk after one more segment. A dot segment at the end leaves a slash behind. -/
def step (isFile isLast : Bool) (walk : Walk) (segment : List Char) : Walk :=
  if isDoubleDot segment then walk.leave.close isLast
  else if isSingleDot segment then walk.close isLast
  else walk.enter isFile segment

/-- The walk after all of some segments. -/
def follow (isFile : Bool) (walk : Walk) : List (List Char) → Walk
  | [] => walk
  | segment :: rest => follow isFile (walk.step isFile rest.isEmpty segment) rest

end Walk

/-- The walk along a text, which may go without the slash in front. -/
def walkOf (isFile : Bool) (text : List Char) : Walk :=
  let text :=
    match text with
    | '/' :: rest => rest
    | _ => text
  Walk.start.follow isFile (Text.splitOn '/' text)

/-- The path of the text after an authority or a colon. Only a web address has a path where there is
no text. -/
def pathOf (isWeb : Bool) (text : List Char) : Path :=
  if text.isEmpty then .segments (if isWeb then [[]] else [])
  else .segments (walkOf false (if isWeb then Text.replaceChar '\\' '/' text else text)).segments

/-- The path that a walk of a file leads to. It starts with a single slash. -/
def Walk.filePath (walk : Walk) : Path :=
  match walk.segments.dropWhile List.isEmpty with
  | [] => .segments [[]]
  | segments => .segments segments

/-- The usual port of a web scheme; `file` has none. -/
def usualPort? (scheme : List Char) : Option (Option Nat) :=
  match String.ofList scheme with
  | "http" | "ws" => some (some 80)
  | "https" | "wss" => some (some 443)
  | "ftp" => some (some 21)
  | "file" => some none
  | _ => none

/-- Addresses of the scheme follow the rules of the web. -/
def isWebScheme (scheme : List Char) : Bool :=
  (usualPort? scheme).isSome

/-- User name, password, host and port. -/
structure Authority where
  /-- The user name. -/
  username : List Char
  /-- The password. -/
  password : List Char
  /-- The host. -/
  host : List Char
  /-- The port. -/
  port : Option Nat

/-- A text before and after the first mark. -/
def splitMark (mark : Char) (text : List Char) : List Char × Option (List Char) :=
  match Text.breakOn? [mark] text with
  | some (before, after) => (before, some after)
  | none => (text, none)

/-- The parts of a text before and after the last occurrence of a character. -/
def breakOnLast? (mark : Char) (text : List Char) : Option (List Char × List Char) :=
  (Text.breakOn? [mark] text.reverse).map fun (after, before) => (before.reverse, after.reverse)

/-- Host and port of an authority; a colon inside brackets belongs to the host. -/
def hostAndPort (text : List Char) : List Char × Option (List Char) :=
  match text with
  | '[' :: _ =>
    match Text.breakOn? [']'] text with
    | some (inside, after) =>
      let (more, port) := splitMark ':' after
      (inside ++ ']' :: more, port)
    | none => (text, none)
  | _ => splitMark ':' text

/-- The port that digits name; `some none` for none at all or the usual one of the scheme. -/
def port? (scheme digits : List Char) : Option (Option Nat) :=
  if digits.isEmpty then some none
  else
    match Text.digitsValue? 10 digits with
    | some value =>
      if 65535 < value then none
      else if (usualPort? scheme).bind id = some value then some none
      else some (some value)
    | none => none

/-- The digits of a port, and the path that a backslash behind them starts. -/
def splitPort (port : List Char) : List Char × List Char :=
  (port.takeWhile (· ≠ '\\'), port.dropWhile (· ≠ '\\'))

/-- There may be no host: the address is no web address, and names neither a user nor a port. An
at sign with nothing before it needs a host only if a path, query or fragment follows. -/
def mayLackHost (isWeb followed : Bool) (userInfo : Option (List Char)) (hasPort : Bool) : Bool :=
  !isWeb && !hasPort &&
    match userInfo with
    | none => true
    | some [] => !followed
    | some userInfo => userInfo = [':']

/-- The authority of an address and the start of the path after its port, given whether anything
follows the authority. -/
def authority? (scheme : List Char) (followed : Bool) (text : List Char) :
    Option (Authority × List Char) := do
  let isWeb := isWebScheme scheme
  let (userInfo, rest) :=
    match breakOnLast? '@' text with
    | some (userInfo, rest) => (some userInfo, rest)
    | none => (none, text)
  let (username, password) := splitMark ':' (userInfo.getD [])
  let (hostText, portText) := hostAndPort rest
  let (digits, path) := splitPort (portText.getD [])
  let port ← port? scheme digits
  let host ←
    if hostText.isEmpty then
      if mayLackHost isWeb followed userInfo portText.isSome then some [] else none
    else host? isWeb hostText
  return (⟨percentEncode encodesInUserInfo username,
    percentEncode encodesInUserInfo (password.getD []), host, port⟩, path)

/-- The character may stand in a scheme. -/
def isSchemeChar (c : Char) : Bool :=
  c.isAlphanum || c = '+' || c = '-' || c = '.'

/-- The scheme of an address, in lower case, and what follows its colon. -/
def scheme? (text : List Char) : Option (List Char × List Char) :=
  match Text.breakOn? [':'] text with
  | some (first :: name, rest) =>
    if first.isAlpha ∧ name.all isSchemeChar then some ((first :: name).map Char.toLower, rest)
    else none
  | _ => none

/-- The parts of an address behind its path. -/
structure Tail where
  /-- The query. -/
  query : Option (List Char)
  /-- The fragment. -/
  fragment : Option (List Char)

/-- There is a query or a fragment. -/
def Tail.isPresent (tail : Tail) : Bool :=
  tail.query.isSome || tail.fragment.isSome

/-- A text before its query and fragment, and these in encoded form. -/
def splitTail (isWeb : Bool) (text : List Char) : List Char × Tail :=
  let (text, fragment) := splitMark '#' text
  let (text, query) := splitMark '?' text
  let encodesQuery := if isWeb then encodesInWebQuery else encodesInQuery
  (text, ⟨query.map (percentEncode encodesQuery), fragment.map (percentEncode encodesInFragment)⟩)

/-- A text up to the first slash, or backslash in a web address, and the rest. -/
def splitAuthority (isWeb : Bool) (text : List Char) : List Char × List Char :=
  let isSlash (c : Char) := c = '/' || (isWeb && c = '\\')
  (text.takeWhile (!isSlash ·), text.dropWhile (!isSlash ·))

/-- The address with an authority that starts a text. -/
def withAuthority? (scheme text : List Char) (tail : Tail) : Option Url := do
  let isWeb := isWebScheme scheme
  let (authorityPart, pathPart) := splitAuthority isWeb text
  let followed := !pathPart.isEmpty || tail.isPresent
  let (authority, lead) ← authority? scheme followed authorityPart
  return ⟨scheme, authority.username, authority.password, some authority.host, authority.port,
    pathOf isWeb (lead ++ pathPart), tail.query, tail.fragment⟩

/-- The host of a file, empty for this machine. -/
def fileHost? (text : List Char) : Option (List Char) :=
  if text.isEmpty then some []
  else (host? true text).map fun host => if host = "localhost".toList then [] else host

/-- The address of a file on a host. A path that enters a drive leads to this machine. -/
def fileAddress (host path : List Char) (tail : Tail) : Url :=
  let walk := walkOf true path
  ⟨"file".toList, [], [], some (if walk.onDrive then [] else host), none, walk.filePath, tail.query,
    tail.fragment⟩

/-- The address of a file. A drive in place of the host belongs to the path. Behind two slashes and
this machine the path starts with an empty segment, so that no drive comes first in it. -/
def file? (text : List Char) (tail : Tail) : Option Url :=
  match Text.replaceChar '\\' '/' text with
  | '/' :: '/' :: rest =>
    let (hostPart, pathPart) := splitAuthority true rest
    if isDriveName hostPart then some (fileAddress [] rest tail)
    else
      (fileHost? hostPart).map fun host =>
        fileAddress host (if host.isEmpty then '/' :: pathPart else pathPart) tail
  | path => some (fileAddress [] path tail)

/-- The address after its scheme. -/
def afterScheme? (scheme text : List Char) (tail : Tail) : Option Url :=
  if scheme = "file".toList then file? text tail
  else if isWebScheme scheme then
    withAuthority? scheme (text.dropWhile fun c => c = '/' || c = '\\') tail
  else
    match text with
    | '/' :: '/' :: rest => withAuthority? scheme rest tail
    | '/' :: _ =>
      some ⟨scheme, [], [], none, none, pathOf false text, tail.query, tail.fragment⟩
    | _ =>
      some ⟨scheme, [], [], none, none, .plain (percentEncode encodesControl text), tail.query,
        tail.fragment⟩

/-- Controls and blanks, which do not count around an address. -/
def isOuterBlank (c : Char) : Bool :=
  c.toNat ≤ 0x20

/-- Tabs and line breaks, which do not count anywhere in an address. -/
def isIgnored (c : Char) : Bool :=
  c = '\t' || c = '\n' || c = '\r'

/-- The absolute address of a text. -/
def parse? (text : String) : Option Url := do
  let text := (Text.trim isOuterBlank text.toList).filter (!isIgnored ·)
  let (scheme, rest) ← scheme? text
  let (rest, tail) := splitTail (isWebScheme scheme) rest
  afterScheme? scheme rest tail

end Url

end LlamaGateway
