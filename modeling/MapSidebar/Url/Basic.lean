import MapSidebar.Url.Host

/-!
# URLs

A URL is a scheme, an authority, a path, a query and a fragment. `Url.parse` reads an absolute URL
and `Url.join` reads one that may be relative to another. Reading brings a URL to its normal form:
the scheme and the domain name become small, dot segments are carried out, a default port is left
out, and characters that would end their component are written with percent signs. Tabs and line
ends are passed over everywhere.
-/
namespace MapSidebar

/-- The schemes that differ in how their URLs are read. -/
inductive SchemeKind where
  | file
  /-- A known scheme other than `file`; its URLs have a host. -/
  | network
  | unknown
  deriving DecidableEq, Repr

/-- User, host and port. -/
structure Authority where
  username : List Char := []
  password : List Char := []
  host : Host := .name []
  port : Option Nat := none
  deriving DecidableEq, Repr

/-- A URL in its normal form. -/
structure Url where
  scheme : List Char
  authority : Option Authority := none
  /-- Whether the path is one text, which nothing can be relative to. -/
  isOpaque : Bool := false
  path : List Char := []
  query : Option (List Char) := none
  fragment : Option (List Char) := none
  deriving DecidableEq, Repr

namespace SchemeKind

def ofScheme (scheme : List Char) : SchemeKind :=
  if scheme = "file".toList then file
  else if ["http", "https", "ws", "wss", "ftp"].contains (String.ofList scheme) then network
  else unknown

def isSpecial (kind : SchemeKind) : Bool := kind ≠ unknown

end SchemeKind

namespace Url

/-- The port that goes without saying. -/
def defaultPort? (scheme : List Char) : Option Nat :=
  [("http", 80), ("https", 443), ("ws", 80), ("wss", 443), ("ftp", 21)].lookup (String.ofList scheme)

def kind (u : Url) : SchemeKind := SchemeKind.ofScheme u.scheme

def hasHost (u : Url) : Bool :=
  match u.authority with
  | some authority => !authority.host.isEmpty
  | none => false

/-! ## Characters -/

/-- Bytes written with percent signs in a query. -/
def inQuery (special : Bool) (b : UInt8) : Bool :=
  Host.isControl b || b = 0x20 || b = 0x22 || b = 0x23 || b = 0x3C || b = 0x3E
    || (special && b = 0x27)

def inFragment (b : UInt8) : Bool :=
  Host.isControl b || b = 0x20 || b = 0x22 || b = 0x3C || b = 0x3E || b = 0x60

def inPath (b : UInt8) : Bool :=
  inFragment b || b = 0x23 || b = 0x3F || b = 0x7B || b = 0x7D

/-- Bytes written with percent signs in a user name and a password. -/
def inUser (b : UInt8) : Bool :=
  inPath b || b = 0x2F || b = 0x3A || b = 0x3B || b = 0x3D || b = 0x40
    || (0x5B ≤ b && b ≤ 0x5E) || b = 0x7C

/-- Whether a character separates the segments of a path. -/
def isSlash (special : Bool) (c : Char) : Bool := c = '/' || (special && c = '\\')

def endsAuthority (special : Bool) (c : Char) : Bool := isSlash special c || c = '?' || c = '#'

def endsPath (c : Char) : Bool := c = '?' || c = '#'

/-! ## Paths -/

/-- Whether a segment stands for the place itself. -/
def isSingleDot (segment : List Char) : Bool :=
  [".", "%2e"].contains (String.ofList (segment.map Char.toLower))

/-- Whether a segment stands for the place above. -/
def isDoubleDot (segment : List Char) : Bool :=
  ["..", ".%2e", "%2e.", "%2e%2e"].contains (String.ofList (segment.map Char.toLower))

/-- Whether a segment is the letter of a drive. -/
def isDrive : List Char → Bool
  | [c, ':'] => c.isAlpha
  | [c, '|'] => c.isAlpha
  | _ => false

/-- The segments above the last one; the letter of a drive stays. -/
def above (segments : List (List Char)) : List (List Char) :=
  if segments.getLast?.any isDrive then segments else segments.dropLast

/-- Appends segments to those of a path, carrying out those that stand for places. -/
def walk (file : Bool) : List (List Char) → List (List Char) → List (List Char)
  | done, [] => done
  | done, segment :: rest =>
    let last := rest.isEmpty
    if isDoubleDot segment then
      let up := above done
      walk file (if last then up ++ [[]] else up) rest
    else if isSingleDot segment then walk file (if last then done ++ [[]] else done) rest
    else
      let segment := match segment with
        | [c, '|'] => if file && done.isEmpty && c.isAlpha then [c, ':'] else [c, '|']
        | segment => segment
      walk file (done ++ [segment]) rest

/-- Cuts the text of a path at its slashes. -/
def rawSegments (special : Bool) (text : List Char) : List (List Char) :=
  (Text.splitAt '/' (text.map fun c => if isSlash special c then '/' else c)).map
    (Host.percentEncode inPath)

def joinSegments (segments : List (List Char)) : List Char := segments.flatMap ('/' :: ·)

/-- The segments to which the text of a path leads from given ones; the first slash of the text has
been taken off. -/
def walkText (kind : SchemeKind) (start : List (List Char)) (text : List Char) :
    List (List Char) :=
  walk (kind = .file) start (rawSegments kind.isSpecial text)

/-- The path that leads from given segments on by the text of a path. -/
def walkPath (kind : SchemeKind) (start : List (List Char)) (text : List Char) : List Char :=
  let path := joinSegments (walkText kind start text)
  if kind = .file then '/' :: path.dropWhile (· = '/') else path

/-- The segments of a path in normal form. -/
def segmentsOf (path : List Char) : List (List Char) :=
  match path with
  | '/' :: rest => Text.splitAt '/' rest
  | [] => []
  | path => [path]

/-! ## What follows the path -/

/-- Cuts off the fragment: what stands before it, and the fragment in its written form. -/
def cutFragment (text : List Char) : List Char × Option (List Char) :=
  match Text.cutFirst '#' text with
  | some (before, fragment) => (before, some (Host.percentEncode inFragment fragment))
  | none => (text, none)

def cutQuery (special : Bool) (text : List Char) :
    List Char × Option (List Char) × Option (List Char) :=
  let (text, fragment) := cutFragment text
  match Text.cutFirst '?' text with
  | some (before, query) => (before, some (Host.percentEncode (inQuery special) query), fragment)
  | none => (text, none, fragment)

/-! ## Authorities -/

/-- Cuts a text at the last `@`, if there is one. -/
def cutUser (text : List Char) : Option (List Char × List Char) :=
  if text.contains '@' then
    let after := (text.reverse.takeWhile (· ≠ '@')).reverse
    some (text.take (text.length - after.length - 1), after)
  else none

/-- The text of a host: up to a colon outside brackets. -/
def takeHost : Bool → List Char → List Char × List Char
  | _, [] => ([], [])
  | inside, c :: rest =>
    if c = ':' && !inside then ([], c :: rest)
    else
      let (host, after) := takeHost (c = '[' || (inside && c ≠ ']')) rest
      (c :: host, after)

/-- Reads a port; one that goes without saying is left out. -/
def readPort (scheme digits : List Char) : Except UrlError (Option Nat) :=
  match Digits.read? 10 digits with
  | none => .error .invalidPort
  | some port =>
    if 65535 < port then .error .invalidPort
    else .ok (if digits.isEmpty || defaultPort? scheme = some port then none else some port)

def readUser (text : List Char) : List Char × List Char :=
  match Text.cutFirst ':' text with
  | some (name, password) =>
    (Host.percentEncode inUser name, Host.percentEncode inUser password)
  | none => (Host.percentEncode inUser text, [])

/-- Reads an authority; `last` says whether the URL ends with it. An `@` alone is no authority,
unless it is last. A port also ends before a backslash, and what is left belongs to the path. -/
def readAuthority (scheme text : List Char) (last : Bool) :
    Except UrlError (Authority × List Char) := do
  let special := (SchemeKind.ofScheme scheme).isSpecial
  let (user, hostAndPort) := (cutUser text).getD ([], text)
  let (username, password) := readUser user
  let (hostText, after) := takeHost false hostAndPort
  if hostText.isEmpty && (special || (text = ['@'] && !last)) then .error .emptyHost
  else
    let host ← if special then Host.read hostText else Host.readOpaque hostText
    if host.isEmpty && (!after.isEmpty || !username.isEmpty || !password.isEmpty) then
      .error .emptyHost
    else
      let port ← readPort scheme ((after.drop 1).takeWhile (· ≠ '\\'))
      .ok ({ username, password, host, port }, after.dropWhile (· ≠ '\\'))

/-- Reads what follows the two slashes of a URL that is not of a file. -/
def afterSlashes (scheme input : List Char) : Except UrlError Url := do
  let kind := SchemeKind.ofScheme scheme
  let text := input.takeWhile fun c => !endsAuthority kind.isSpecial c
  let rest := input.dropWhile fun c => !endsAuthority kind.isSpecial c
  let (authority, left) ← readAuthority scheme text rest.isEmpty
  let (path, query, fragment) := cutQuery kind.isSpecial rest
  let path := match left ++ path with
    | [] => if kind.isSpecial then ['/'] else []
    | c :: path => walkPath kind [] (if left.isEmpty then path else c :: path)
  .ok { scheme, authority := some authority, path, query, fragment }

/-! ## Files -/

/-- Whether a path begins with the letter of a drive. -/
def beginsWithDrive : List Char → Bool
  | c :: d :: rest =>
    isDrive [c, d] && (rest.head?.all fun e => isSlash true e || endsPath e)
  | _ => false

/-- Reads the host of a file; the host of the same machine is none. -/
def readFileHost (text : List Char) : Except UrlError Host :=
  if text.isEmpty then .ok (.name [])
  else do
    let host ← Host.read text
    .ok (if host = .name "localhost".toList then .name [] else host)

/-- The text of a path without its first slash. -/
def dropSlash : List Char → List Char
  | c :: path => if isSlash true c then path else c :: path
  | [] => []

/-- The host of a file at a path, which is none if the path begins with the letter of a drive. -/
def hostBeside (host : Host) (path : List Char) : Host :=
  if (walkText .file [] (dropSlash path)).head?.any isDrive then .name [] else host

/-- Reads what follows the scheme of a file, given the file that it may be relative to. -/
def readFile (base : Option Url) (input : List Char) : Except UrlError Url := do
  let scheme := "file".toList
  let absolute (host : Host) (start : List (List Char)) (rest : List Char) : Url :=
    let (path, query, fragment) := cutQuery true rest
    { scheme, authority := some { host }, path := walkPath .file start (dropSlash path), query,
      fragment }
  match input with
  | c :: d :: rest =>
    if isSlash true c && isSlash true d then
      let text := rest.takeWhile fun e => !endsAuthority true e
      if isDrive text then .ok (absolute (.name []) [] rest)
      else
        let host ← readFileHost text
        let after := rest.drop text.length
        .ok (absolute (hostBeside host (cutQuery true after).1) [] after)
    else if isSlash true c then .ok (rooted absolute (d :: rest))
    else .ok (relative absolute input)
  | [c] => .ok (if isSlash true c then rooted absolute [] else relative absolute [c])
  | [] => .ok (relative absolute [])
where
  /-- Reads a path from the root. -/
  rooted (absolute : Host → List (List Char) → List Char → Url) (rest : List Char) : Url :=
    match base with
    | none => absolute (.name []) [] ('/' :: rest)
    | some b =>
      if beginsWithDrive rest then absolute (.name []) [] ('/' :: rest)
      else
        match segmentsOf b.path with
        | first :: _ =>
          if isDrive first then absolute (.name []) [first] ('/' :: rest)
          else absolute ((b.authority.getD {}).host) [] ('/' :: rest)
        | [] => absolute ((b.authority.getD {}).host) [] ('/' :: rest)
  /-- Reads a path from the place of the base. -/
  relative (absolute : Host → List (List Char) → List Char → Url) (input : List Char) : Url :=
    match base with
    | none => absolute (.name []) [] input
    | some b =>
      match input with
      | [] => { b with fragment := none }
      | '?' :: _ =>
        let (_, query, fragment) := cutQuery true input
        { b with query, fragment }
      | '#' :: _ => { b with fragment := (cutFragment input).2 }
      | input =>
        if beginsWithDrive input then absolute (.name []) [] input
        else absolute ((b.authority.getD {}).host) (above (segmentsOf b.path)) input

/-! ## Whole URLs -/

/-- Characters passed over at both ends: controls and spaces. -/
def isOuter (c : Char) : Bool := c.toNat ≤ 0x20

def clean (text : List Char) : List Char :=
  (((text.dropWhile isOuter).reverse.dropWhile isOuter).reverse).filter
    fun c => !(c = '\t' || c = '\n' || c = '\r')

def isSchemeChar (c : Char) : Bool := c.isAlphanum || c = '+' || c = '-' || c = '.'

def cutScheme? (input : List Char) : Option (List Char × List Char) :=
  match Text.cutFirst ':' input with
  | some (scheme, rest) =>
    if scheme.head?.any Char.isAlpha && scheme.all isSchemeChar then
      some (scheme.map Char.toLower, rest)
    else none
  | none => none

/-- Reads a URL of an unknown scheme without an authority. -/
def readPlain (scheme rest : List Char) : Url :=
  let (path, query, fragment) := cutQuery false rest
  match path with
  | '/' :: text => { scheme, path := walkPath .unknown [] text, query, fragment }
  | text =>
    { scheme, isOpaque := true, path := Host.percentEncode Host.isControl text, query, fragment }

/-- Reads a URL that is relative to a base with segments. -/
def readRelative (base : Url) (input : List Char) : Except UrlError Url :=
  let special := base.kind.isSpecial
  let isBar (c : Char) : Bool := c = '/' || c = '\\'
  match input with
  | [] => .ok { base with fragment := none }
  | '#' :: _ => .ok { base with fragment := (cutFragment input).2 }
  | '?' :: _ =>
    let (_, query, fragment) := cutQuery special input
    .ok { base with query, fragment }
  | c :: rest =>
    if isBar c then
      match input with
      | '/' :: '/' :: rest => afterSlashes base.scheme rest
      | _ =>
        if rest.head?.any isBar then afterSlashes base.scheme (input.dropWhile isBar)
        else
          let (path, query, fragment) := cutQuery special rest
          .ok { base with path := walkPath base.kind [] path, query, fragment }
    else
      let (path, query, fragment) := cutQuery special input
      let start := (segmentsOf base.path).dropLast
      .ok { base with path := walkPath base.kind start path, query, fragment }

def readScheme (base : Option Url) (scheme rest : List Char) : Except UrlError Url :=
  match SchemeKind.ofScheme scheme with
  | .file => readFile (base.filter fun b => b.kind = .file) rest
  | .network =>
    let isBar (c : Char) : Bool := c = '/' || c = '\\'
    let bars := (rest.takeWhile isBar).length
    match base with
    | some b =>
      if bars < 2 && b.scheme = scheme then readRelative b rest
      else afterSlashes scheme (rest.dropWhile isBar)
    | none => afterSlashes scheme (rest.dropWhile isBar)
  | .unknown =>
    match rest with
    | '/' :: '/' :: rest => afterSlashes scheme rest
    | rest => .ok (readPlain scheme rest)

/-- Reads a URL, relative to a base if there is one. -/
def read (base : Option Url) (text : List Char) : Except UrlError Url :=
  let input := clean text
  match cutScheme? input with
  | some (scheme, rest) => readScheme base scheme rest
  | none =>
    match base with
    | none => .error .relativeWithoutBase
    | some b =>
      match input with
      | '#' :: _ => .ok { b with fragment := (cutFragment input).2 }
      | input =>
        if b.isOpaque then .error .relativeWithOpaqueBase
        else if b.kind = .file then readFile (some b) input
        else readRelative b input

/-- Reads an absolute URL. -/
def parse (text : String) : Except UrlError Url := read none text.toList

/-- Reads a URL that may be relative to another. -/
def join (base : Url) (text : String) : Except UrlError Url := read (some base) text.toList

def appendPairs (u : Url) (pairs : List (String × String)) : Url :=
  let written := Query.encodePairs pairs
  match u.query with
  | none => { u with query := some written }
  | some [] => { u with query := some written }
  | some query => { u with query := some (query ++ '&' :: written) }

/-! ## The written form -/

def userText (a : Authority) : List Char :=
  match a.username, a.password with
  | [], [] => []
  | username, [] => username ++ ['@']
  | username, password => username ++ ':' :: password ++ ['@']

def authorityText (a : Authority) : List Char :=
  '/' :: '/' :: (userText a ++ a.host.text
    ++ match a.port with
      | some port => ':' :: (toString port).toList
      | none => [])

/-- Path and query, which is what a server is sent. -/
def target (u : Url) : List Char :=
  u.path ++ match u.query with
    | some query => '?' :: query
    | none => []

def chars (u : Url) : List Char :=
  let authority := match u.authority with
    | some a => authorityText a
    | none => if "//".toList.isPrefixOf u.path then ['/', '.'] else []
  u.scheme ++ ':' :: (authority ++ u.target
    ++ match u.fragment with
      | some fragment => '#' :: fragment
      | none => [])

def text (u : Url) : String := String.ofList u.chars

end Url

end MapSidebar
