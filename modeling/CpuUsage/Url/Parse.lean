import CpuUsage.Url.Basic
import CpuUsage.Url.Form

/-! URLs from text, and paths resolved against a URL. -/
namespace CpuUsage.Url

/-- Control characters and blanks around a URL do not count, nor do tabs and line ends within it. -/
def clean (text : String) : List Char :=
  let isEdge (c : Char) : Bool := c.toNat ≤ 0x20
  let cs := ((text.toList.dropWhile isEdge).reverse.dropWhile isEdge).reverse
  cs.filter fun c => c ≠ '\x09' && c ≠ '\x0a' && c ≠ '\x0d'

/-- A letter, then letters, digits and three marks up to a colon; in lower case. -/
def readScheme? (cs : List Char) : Option (List Char × List Char) :=
  match splitFirst ':' cs with
  | (c :: scheme, some rest) =>
    let isMember (c : Char) : Bool := isLetterOrDigit c || c = '+' || c = '-' || c = '.'
    if isLetterOrDigit c && !isDigit c && scheme.all isMember then some ((c :: scheme).map asciiLower, rest) else none
  | _ => none

/-- The text before query and fragment, and those two in encoded form. -/
structure Parts where
  main : List Char
  query : Option (List Char)
  fragment : Option (List Char)

def splitTail (special : Bool) (cs : List Char) : Parts :=
  let (beforeFragment, fragment) := splitFirst '#' cs
  let (main, query) := splitFirst '?' beforeFragment
  ⟨main, query.map (percentEncode (inQuerySet special)), fragment.map (percentEncode inFragmentSet)⟩

def isSeparator (special : Bool) (c : Char) : Bool :=
  c = '/' || (special && c = '\x5c')

/-- A dot may be written percent-encoded. -/
def dots? (segment : List Char) : Option Nat :=
  match String.ofList (segment.map asciiLower) with
  | "." | "%2e" => some 1
  | ".." | ".%2e" | "%2e." | "%2e%2e" => some 2
  | _ => none

/-- A letter and a colon, or a bar in its place. -/
def drive? : List Char → Option (List Char)
  | [c, mark] =>
    if isLetterOrDigit c && !isDigit c && (mark = ':' || mark = '|') then some [c, ':'] else none
  | _ => none

/-- One segment up; a drive is never left. -/
def parentSegments (done : List (List Char)) : List (List Char) :=
  if (done.getLast?.bind drive?).isSome then done else done.dropLast

/-- A segment in encoded form; a drive in front of a file's path is written with a colon. -/
def settleSegment (file : Bool) (segment : List Char) : List Char :=
  let encoded := percentEncode inPathSet segment
  if file then (drive? encoded).getD encoded else encoded

/-- Puts segments behind those in `done`. One dot stays, two dots go up; either at the end leaves an empty
segment. -/
def resolveSegments (file : Bool) (done : List (List Char)) : List (List Char) → List (List Char)
  | [] => done
  | segment :: rest =>
    let last := if rest = [] then [[]] else []
    match dots? segment with
    | some 1 => resolveSegments file (done ++ last) rest
    | some _ => resolveSegments file (parentSegments done ++ last) rest
    | none => resolveSegments file (done ++ [settleSegment (file && done = []) segment]) rest

/-- The segments of a path text; one separator in front does not count. -/
def pathSegments (scheme : List Char) (done : List (List Char)) (cs : List Char) : List (List Char) :=
  let isSlash := isSeparator (isSpecialScheme scheme)
  let cs := match cs with
    | c :: rest => if isSlash c then rest else c :: rest
    | [] => []
  resolveSegments (isFileScheme scheme) done (splitParts isSlash cs)

/-- Digits only, at most 65535; no digits and the scheme's own port are the same as none. -/
def readPort (scheme : List Char) (cs : List Char) : Except Error (Option Nat) :=
  if cs = [] then .ok none
  else match readNat? cs with
    | some port =>
      if 65535 < port then .error .invalidPort
      else .ok (if some port = defaultPort? scheme then none else some port)
    | none => .error .invalidPort

/-- Splits a port off at the first colon that is not within brackets. -/
def splitPort : Bool → List Char → List Char × Option (List Char)
  | _, [] => ([], none)
  | inside, c :: rest =>
    if c = ':' ∧ !inside then ([], some rest)
    else
      let (host, port) := splitPort (c = '[' || (inside && c ≠ ']')) rest
      (c :: host, port)

def readCredentials (cs : List Char) : List Char × List Char :=
  let (username, password) := splitFirst ':' cs
  (percentEncode inUserinfoSet username, percentEncode inUserinfoSet (password.getD []))

/-- An authority: credentials before the last at sign, a host, and a port after a colon. `more` tells whether
anything follows it. -/
def readAuthority (scheme : List Char) (more : Bool) (cs : List Char) : Except Error Authority := do
  let (credentials, location) := splitLast '@' cs
  let (username, password) := readCredentials (credentials.getD [])
  let (hostText, portText) := splitPort false location
  let special := isSpecialScheme scheme
  if hostText = [] ∧ (special ∨ portText.isSome ∨ username ≠ [] ∨ password ≠ [] ∨ (credentials = some [] ∧ more)) then
    .error .emptyHost
  else
    let host ← if special then Host.parseDomain hostText else Host.parseName hostText
    let port ← readPort scheme (portText.getD [])
    return ⟨username, password, host, port⟩

/-- Leaves out the empty segments in front, though not the last segment. -/
def trimSegments : List (List Char) → List (List Char)
  | [] => [[]]
  | [] :: segment :: rest => trimSegments (segment :: rest)
  | segments => segments

/-- Host and path of a file. A drive in the place of a host belongs to the path. -/
def splitFileHost (main : List Char) : List Char × List Char :=
  let isSlash := isSeparator true
  match main with
  | a :: b :: rest =>
    if isSlash a && isSlash b then
      let host := rest.takeWhile (!isSlash ·)
      if (drive? host).isSome then ([], rest) else (host, rest.dropWhile (!isSlash ·))
    else ([], main)
  | _ => ([], main)

/-- A file: the host of this machine is the same as none, and one before a drive does not count. -/
def parseFile (scheme : List Char) (parts : Parts) : Except Error Url := do
  let (hostText, pathText) := splitFileHost parts.main
  let host ← if hostText = [] then .ok (.name []) else Host.parseDomain hostText
  let path := trimSegments (pathSegments scheme [] pathText)
  let ignored := host = .name "localhost".toList || (path.head?.bind drive?).isSome
  let authority := ⟨[], [], if ignored then .name [] else host, none⟩
  return ⟨scheme, some authority, .segments path, parts.query, parts.fragment⟩

/-- A web-like URL: any number of slashes may stand before its authority. -/
def parseWeb (scheme : List Char) (parts : Parts) : Except Error Url := do
  let isSlash := isSeparator true
  let main := parts.main.dropWhile isSlash
  let authority ← readAuthority scheme true (main.takeWhile (!isSlash ·))
  return ⟨scheme, some authority, .segments (pathSegments scheme [] (main.dropWhile (!isSlash ·))), parts.query,
    parts.fragment⟩

/-- A URL of any other scheme: an authority and a path, a path alone, or a text. -/
def parseOther (scheme : List Char) (parts : Parts) : Except Error Url :=
  match parts.main with
  | '/' :: '/' :: rest => do
    let path := rest.dropWhile (· ≠ '/')
    let more := path ≠ [] || parts.query.isSome || parts.fragment.isSome
    let authority ← readAuthority scheme more (rest.takeWhile (· ≠ '/'))
    return ⟨scheme, some authority, .segments (if path = [] then [] else pathSegments scheme [] path), parts.query,
      parts.fragment⟩
  | '/' :: rest => .ok ⟨scheme, none, .segments (pathSegments scheme [] ('/' :: rest)), parts.query, parts.fragment⟩
  | text => .ok ⟨scheme, none, .bare (percentEncode inControlSet text), parts.query, parts.fragment⟩

def parse (text : String) : Except Error Url :=
  match readScheme? (clean text) with
  | none => .error .noScheme
  | some (scheme, rest) =>
    let parts := splitTail (isSpecialScheme scheme) rest
    if isFileScheme scheme then parseFile scheme parts
    else if isSpecialScheme scheme then parseWeb scheme parts
    else parseOther scheme parts

/-- Resolves a relative path, with a query and a fragment if it has them, beside the last segment of `base`. -/
def resolve (base : Url) (path : String) : Except Error Url :=
  match base.path with
  | .bare _ => .error .baseWithoutHierarchy
  | .segments done =>
    let parts := splitTail base.isSpecial (clean path)
    .ok { base with
      path := .segments (pathSegments base.scheme done.dropLast parts.main)
      query := parts.query
      fragment := parts.fragment }

end CpuUsage.Url
