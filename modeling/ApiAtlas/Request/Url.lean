import ApiAtlas.Request.Host

/-!
# URLs

Absolute URLs, read as the standard for the web asks. Only those of the web are kept whole: the
segments of their path, with the segments of dots resolved, and their query.
-/

namespace ApiAtlas.Request

structure WebUrl where
  isSecure : Bool
  host : String
  portNumber : Option Nat
  segments : List String
  query : Option String
  deriving DecidableEq, Repr

namespace WebUrl

def path (u : WebUrl) : String := "/" ++ "/".intercalate u.segments

/-- What is asked of the server: the path and the query. -/
def target (u : WebUrl) : String :=
  u.path ++ match u.query with
    | some query => "?" ++ query
    | none => ""

def addPairs (u : WebUrl) (pairs : List (String × String)) : WebUrl :=
  if pairs.isEmpty then u
  else
    let query := match u.query with
      | some query => if query.isEmpty then formPairs pairs else query ++ "&" ++ formPairs pairs
      | none => formPairs pairs
    { u with query := some query }

end WebUrl

/-! ## Paths and queries -/

def isPathChar (c : Char) : Bool :=
  '!' ≤ c && c ≤ '~' && !"\"#<>?\x60\x7b\x7d".toList.contains c

def isQueryChar (c : Char) : Bool := '!' ≤ c && c ≤ '~' && !"\"#<>'".toList.contains c

def isHere (segment : String) : Bool := [".", "%2e"].contains segment.toLower

def isUp (segment : String) : Bool :=
  ["..", ".%2e", "%2e.", "%2e%2e"].contains segment.toLower

/-- A segment that names a drive, which dots do not leave. -/
def isDrive (segment : String) : Bool :=
  match segment.toList with
  | [letter, mark] => letter.isAlpha && (mark == ':' || mark == '|')
  | _ => false

/-- Leaves the last of the segments, which come last first. -/
def leave : List String → List String
  | [] => []
  | segment :: rest => if isDrive segment then segment :: rest else rest

/-- Adds segments to those done, which come last first. Dots at the end leave an empty segment. -/
def resolveDots (done : List String) : List String → List String
  | [] => done.reverse
  | segment :: rest =>
    let ended (done : List String) : List String := if rest.isEmpty then "" :: done else done
    if isUp segment then resolveDots (ended (leave done)) rest
    else if isHere segment then resolveDots (ended done) rest
    else resolveDots (segment :: done) rest

/-- The segments of a path behind its first slash. -/
def segmentsOfPath (cs : List Char) : List String :=
  let pieces := (cs.map fun c => if c == '\\' then '/' else c).splitOn '/'
  resolveDots [] (pieces.map (percentText isPathChar))

/-- The segments of the path, and the query, of what stands behind a host. -/
def pathAndQuery (cs : List Char) : List String × Option String :=
  let cs := cs.takeWhile (· != '#')
  let path := match cs.takeWhile (· != '?') with
    | '/' :: path | '\\' :: path => path
    | path => path
  let query := match cs.dropWhile (· != '?') with
    | _ :: query => some (percentText isQueryChar query)
    | [] => none
  (segmentsOfPath path, query)

/-! ## Hosts and their numbers -/

/-- Splits in front of the first colon outside brackets. -/
def splitPort (inBrackets : Bool) : List Char → List Char × List Char
  | [] => ([], [])
  | c :: cs =>
    if c == ':' && !inBrackets then ([], c :: cs)
    else
      let (host, number) := splitPort (if c == '[' then true else inBrackets && c != ']') cs
      (c :: host, number)

/-- The number behind a host: digits, if there are any, behind a colon. A backslash ends it. -/
def portOf (cs : List Char) : Except UrlError (Option Nat) :=
  match (cs.drop 1).takeWhile (· != '\\') with
  | [] => .ok none
  | digits =>
    match Host.number? 10 digits with
    | some n => if n < 65536 then .ok (some n) else .error .invalidPort
    | none => .error .invalidPort

/-- The text behind the last mark of a user, and whether a user is named in front of it. -/
def splitUser (authority : List Char) : Bool × List Char :=
  let user := (authority.reverse.dropWhile (· != '@')).drop 1
  if authority.contains '@' then
    (user != [':'], (authority.reverse.takeWhile (· != '@')).reverse)
  else (false, authority)

/-- The host of the text between slashes and path, and the number behind it. Only a scheme of its
own kind may do without a host. -/
def hostAndPort (isSpecial : Bool) (authority : List Char) :
    Except UrlError (String × Option Nat) := do
  let (hasUser, rest) := splitUser authority
  let (host, number) := splitPort false rest
  if host.isEmpty && (isSpecial || hasUser || !number.isEmpty) then .error .emptyHost
  let host ← if isSpecial then Host.ofText host else Host.ofOpaque host
  return (host, ← portOf number)

/-! ## Whole URLs -/

/-- The characters that are dropped around a URL. -/
def isOuter (c : Char) : Bool := c.toNat ≤ 0x20

/-- The text that is read as a URL: nothing around it, and no breaks and tabs in it. -/
def cleaned (cs : List Char) : List Char :=
  (Text.dropEndWhile isOuter (cs.dropWhile isOuter)).filter fun c =>
    !(c == '\t' || c == '\n' || c == '\r')

/-- The scheme, in small letters, and what stands behind its colon. -/
def splitScheme? (cs : List Char) : Option (String × List Char) :=
  let isSchemeChar (c : Char) : Bool := c.isAlphanum || c == '+' || c == '-' || c == '.'
  let scheme := cs.takeWhile isSchemeChar
  match cs.dropWhile isSchemeChar with
  | ':' :: rest =>
    if scheme.head?.any Char.isAlpha then some ((String.ofList scheme).toLower, rest) else none
  | _ => none

/-- Splits what stands behind the slashes of a URL in front of the path. -/
def splitAuthority (isSpecial : Bool) (cs : List Char) : List Char × List Char :=
  let isEnd (c : Char) : Bool := "/?#".toList.contains c || (isSpecial && c == '\\')
  cs.span (!isEnd ·)

def isSlash (c : Char) : Bool := c == '/' || c == '\\'

/-- Checks the host of a file, which has no number behind it. -/
def checkFile (cs : List Char) : Except UrlError Unit :=
  let host := (splitAuthority true (cs.drop 2)).1
  if !(cs.take 2).all isSlash || cs.length < 2 || host.isEmpty || isDrive (String.ofList host) then
    .ok ()
  else (Host.ofText host).map fun _ => ()

/-- Reads an absolute URL; gives nothing if it is not one of the web. -/
def WebUrl.ofText (cs : List Char) : Except UrlError (Option WebUrl) := do
  let some (scheme, rest) := splitScheme? (cleaned cs) | .error .relative
  let isWeb := scheme == "http" || scheme == "https"
  if isWeb || ["ws", "wss", "ftp"].contains scheme then
    let (authority, rest) := splitAuthority true (rest.dropWhile isSlash)
    let (host, portNumber) ← hostAndPort true authority
    let (segments, query) := pathAndQuery rest
    return if isWeb then some ⟨scheme == "https", host, portNumber, segments, query⟩ else none
  else if scheme == "file" then
    checkFile rest
    return none
  else
    if "//".toList.isPrefixOf rest then
      let _ ← hostAndPort false (splitAuthority false (rest.drop 2)).1
    return none

/-! ## The URL of a resource -/

/-- Where the resources of a server are. -/
def resourceRoot : List Char := "api2/json".toList

/-- The text of a URL without slashes at its end. -/
def withoutSlashes (cs : List Char) : List Char := Text.dropEndWhile (· == '/') cs

/-- The base of a server: the text without the place of the resources and slashes at its end. -/
def serverBase (base : List Char) : List Char :=
  let base := withoutSlashes base
  if resourceRoot.isSuffixOf base then
    withoutSlashes (base.take (base.length - resourceRoot.length))
  else base

def resourceText (base path : String) : String :=
  String.ofList (serverBase base.toList ++ '/' :: resourceRoot ++ '/' ::
    path.toList.dropWhile (· == '/'))

end ApiAtlas.Request
