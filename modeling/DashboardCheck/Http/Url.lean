import DashboardCheck.Http.Host

/-!
Addresses on the web. An address is read leniently, as browsers do, and kept in normal form: scheme
and host in lower case, no default port, a path without dot segments.
-/
namespace DashboardCheck.Http

open Text

inductive Path where
  /-- Text that is no path of segments. -/
  | plain (cs : List Char)
  | segments (names : List (List Char))
  deriving DecidableEq, Repr

/-- Who asks, as it is written in an address. -/
structure Credentials where
  user : List Char
  password : Option (List Char)
  deriving DecidableEq, Repr

def Credentials.none : Credentials := ⟨[], Option.none⟩

/-- An address, in normal form. Behind an authority without a host the host is empty. -/
structure Url where
  scheme : List Char
  credentials : Credentials
  host : Option (List Char)
  port : Option Nat
  path : Path
  query : Option (List Char)
  fragment : Option (List Char)
  deriving DecidableEq, Repr

namespace Url

/-- The default ports of the schemes of the web; a file has none. -/
def webSchemes : List (List Char × Option Nat) :=
  [("http".toList, some 80), ("https".toList, some 443), ("ws".toList, some 80),
   ("wss".toList, some 443), ("ftp".toList, some 21), ("file".toList, none)]

def isWeb (scheme : List Char) : Bool := webSchemes.any fun entry => entry.1 == scheme

def defaultPort? (scheme : List Char) : Option Nat :=
  (webSchemes.find? fun entry => entry.1 == scheme).bind Prod.snd

def isLetter (c : Char) : Bool := c.isAlpha

def scheme? (cs : List Char) : Option (List Char × List Char) :=
  let isPart (c : Char) := isLetter c || Number.isDigit c || c == '+' || c == '-' || c == '.'
  let scheme := cs.takeWhile isPart
  match scheme, cs.drop scheme.length with
  | first :: _, ':' :: rest => if isLetter first then some (scheme.map Char.toLower, rest) else none
  | _, _ => none

def isSlash (web : Bool) (c : Char) : Bool := c == '/' || (web && c == '\\')

/-- The part before a query or a fragment, then these. -/
def cutTail (web : Bool) (cs : List Char) :
    List Char × Option (List Char) × Option (List Char) :=
  let (front, fragment) := match cutFirst '#' cs with
    | some (front, fragment) => (front, some (percentEncode [' ', '"', '<', '>', '\x60'] fragment))
    | none => (cs, none)
  let (front, query) := match cutFirst '?' front with
    | some (front, query) =>
      let reserved := [' ', '"', '#', '<', '>'] ++ if web then ['\''] else []
      (front, some (percentEncode reserved query))
    | none => (front, none)
  (front, query, fragment)

def segmentReserved : List Char := [' ', '"', '#', '<', '>', '?', '\x60', '\x7b', '\x7d']

/-- A segment with its encoded dots decoded, for comparison. -/
def plainDots : List Char → List Char
  | '%' :: '2' :: 'e' :: rest => '.' :: plainDots rest
  | '%' :: '2' :: 'E' :: rest => '.' :: plainDots rest
  | c :: rest => c :: plainDots rest
  | [] => []

def isDrive (signs : List Char) : List Char → Bool
  | [letter, sign] => isLetter letter && signs.contains sign
  | _ => false

/-- The segments without the last one. A drive is not left. -/
def leave (names : List (List Char)) : List (List Char) :=
  if names.getLast?.any (isDrive [':', '|']) then names else names.dropLast

/-- A segment as it is written. A drive at the start of the path of a file has a colon. -/
def segmentText (isStart : Bool) (segment : List Char) : List Char :=
  if isStart && isDrive [':', '|'] segment then segment.take 1 ++ [':']
  else percentEncode segmentReserved segment

/-- Adds the segments of a text to those before. Dot segments are resolved; one at the end leaves
an empty segment. -/
def addSegments (file : Bool) (names : List (List Char)) : List (List Char) → List (List Char)
  | [] => names
  | segment :: rest =>
    let dots := plainDots segment
    let names' :=
      if dots = ['.', '.'] then leave names ++ (if rest.isEmpty then [[]] else [])
      else if dots = ['.'] then names ++ (if rest.isEmpty then [[]] else [])
      else names ++ [segmentText (file && names.isEmpty) segment]
    addSegments file names' rest

def splitSegments (web : Bool) : List Char → List (List Char)
  | [] => [[]]
  | c :: rest =>
    match splitSegments web rest with
    | [] => [[c]]
    | piece :: more => if isSlash web c then [] :: piece :: more else (c :: piece) :: more

/-- An address without a path. -/
def bare (scheme : List Char) (host : Option (List Char)) : Url :=
  ⟨scheme, .none, host, none, .segments [], none, none⟩

/-- A path behind an authority or from the root, with its query and fragment. -/
def withPath (url : Url) (cs : List Char) : Url :=
  let web := isWeb url.scheme
  let (path, query, fragment) := cutTail web cs
  let names := match path with
    | [] => if web then [[]] else []
    | c :: rest => addSegments false [] (splitSegments web (if isSlash web c then rest else path))
  { url with path := .segments names, query, fragment }

def isEnd (web : Bool) (c : Char) : Bool := isSlash web c || c == '?' || c == '#'

def userReserved : List Char :=
  segmentReserved ++ ['/', ':', ';', '=', '@', '[', '\\', ']', '^', '|']

/-- Who asks, from the text before the host. -/
def readCredentials (cs : List Char) : Credentials :=
  match cutFirst ':' cs with
  | none => ⟨percentEncode userReserved cs, none⟩
  | some (user, password) =>
    ⟨percentEncode userReserved user,
      if password.isEmpty then none else some (percentEncode userReserved password)⟩

/-- The text of a host and what follows it. A colon in brackets belongs to the host. -/
def cutHost (web : Bool) : Bool → List Char → List Char × List Char
  | _, [] => ([], [])
  | inside, c :: rest =>
    if isEnd web c || (c == ':' && !inside) then ([], c :: rest)
    else
      let inside := if c = '[' then true else if c = ']' then false else inside
      let (host, behind) := cutHost web inside rest
      (c :: host, behind)

/-- A port, or none if it is the default or missing, and what follows it. The result is none for
a text that is no port. -/
def port? (scheme : List Char) : List Char → Option (Option Nat × List Char)
  | ':' :: rest =>
    let digits := rest.takeWhile Number.isDigit
    let behind := rest.dropWhile Number.isDigit
    let n := Number.foldDigits 0 digits
    if Number.max16 < n || !behind.head?.all (isEnd true) then none
    else some (if digits.isEmpty || defaultPort? scheme = some n then none else some n, behind)
  | cs => some (none, cs)

/-- The address behind the slashes of an authority. Only outside the web a host may be missing, and
then nobody is named and there is no port. -/
def ofAuthority? (scheme cs : List Char) : Option Url := do
  let web := isWeb scheme
  let (who, place) := match cutLast '@' (cs.takeWhile (!isEnd web ·)) with
    | some (front, _) => (some front, cs.drop (front.length + 1))
    | none => (none, cs)
  if who = some [] && place.head?.any (isEnd web) then none
  let named := (who.map readCredentials).getD .none
  let (hostText, behind) := cutHost web false place
  if hostText.isEmpty then
    if web || named ≠ .none || behind.head? = some ':' then none
    return withPath (bare scheme (some [])) behind
  let host ← if web then host? hostText else opaqueHost? hostText
  let (port, rest) ← port? scheme behind
  return withPath { bare scheme (some host) with credentials := named, port } rest

def fileScheme : List Char := ['f', 'i', 'l', 'e']

/-- The address of a file, with its path from behind the root. Empty segments at the start of a path
do not count, and there is no host before a path that starts with a drive. -/
def withFilePath (host cs : List Char) : Url :=
  let (path, query, fragment) := cutTail true cs
  let names := addSegments true [] (splitSegments true path)
  let kept := names.dropWhile List.isEmpty
  { bare fileScheme (some (if names.head?.any (isDrive [':']) then [] else host)) with
    path := .segments (if kept.isEmpty then [[]] else kept), query, fragment }

/-- A text without the slash that it may begin with. -/
def dropSlash : List Char → List Char
  | [] => []
  | c :: rest => if isSlash true c then rest else c :: rest

/-- The address of a file, from behind two slashes. A drive is no host. Behind no host the slash
belongs to the path, so that a drive there is not at its start. -/
def ofFileHost? (cs : List Char) : Option Url :=
  let hostText := cs.takeWhile (!isEnd true ·)
  if hostText.isEmpty || isDrive [':', '|'] hostText then some (withFilePath [] cs)
  else (host? hostText).map fun host =>
    let rest := cs.drop hostText.length
    if host = "localhost".toList then withFilePath [] rest else withFilePath host (dropSlash rest)

def ofFile? (cs : List Char) : Option Url :=
  if 2 ≤ cs.length && (cs.take 2).all (isSlash true) then ofFileHost? (cs.drop 2)
  else some (withFilePath [] (dropSlash cs))

/-- An address without an authority whose path is plain text. -/
def ofPlain (scheme cs : List Char) : Url :=
  let (path, query, fragment) := cutTail false cs
  { bare scheme none with path := .plain (percentEncode [] path), query, fragment }

/-- A reference without a scheme, seen from another address. -/
def ofRelative? (base : Url) (cs : List Char) : Option Url :=
  let web := isWeb base.scheme
  match cs with
  | [] => some { base with fragment := none }
  | c :: rest =>
    if isSlash web c then
      match rest with
      | d :: more =>
        if isSlash web d then
          ofAuthority? base.scheme (if web then more.dropWhile (isSlash web) else more)
        else some (withPath base cs)
      | [] => some (withPath base cs)
    else if c = '#' then some { base with fragment := (cutTail web cs).2.2 }
    else if c = '?' then
      let (_, query, fragment) := cutTail web cs
      some { base with query, fragment }
    else
      let (path, query, fragment) := cutTail web cs
      let names := match base.path with
        | .segments names => names.dropLast
        | .plain _ => []
      some { base with
        path := .segments (addSegments false names (splitSegments web path)), query, fragment }

/-- A text without the blanks and controls at its ends and without tabs and ends of lines. -/
def clean (cs : List Char) : List Char :=
  let isEdge (c : Char) := c.toNat ≤ 0x20
  let trimmed := ((cs.dropWhile isEdge).reverse.dropWhile isEdge).reverse
  trimmed.filter fun c => c != '\t' && c != '\n' && c != '\r'

/-- The address that a text writes, seen from another one if there is one. -/
def parseFrom? (base : Option Url) (text : String) : Option Url :=
  let cs := clean text.toList
  match scheme? cs with
  | some (scheme, rest) =>
    if scheme = fileScheme then ofFile? rest
    else if isWeb scheme then
      match base with
      | some base =>
        if base.scheme = scheme && (rest.take 2 != ['/', '/']) then ofRelative? base rest
        else ofAuthority? scheme (rest.dropWhile (isSlash true))
      | none => ofAuthority? scheme (rest.dropWhile (isSlash true))
    else
      match rest with
      | '/' :: '/' :: more => ofAuthority? scheme more
      | '/' :: _ => some (withPath (bare scheme none) rest)
      | _ => some (ofPlain scheme rest)
  | none =>
    match base with
    | none => none
    | some base =>
      match base.path, cs with
      | .plain _, '#' :: _ => ofRelative? base cs
      | .plain _, _ => none
      | .segments _, _ => ofRelative? base cs

def parse? (text : String) : Option Url := parseFrom? none text

def join? (url : Url) (reference : String) : Option Url := parseFrom? (some url) reference

def pathText : Path → List Char
  | .plain cs => cs
  | .segments names => names.flatMap ('/' :: ·)

/-- What stands before a host. -/
def credentialsText (c : Credentials) : List Char :=
  if c = .none then []
  else c.user ++ (match c.password with
    | some password => ':' :: password
    | none => []) ++ ['@']

/-- The authority as text. Without one, a path that begins with an empty segment is set off. -/
def authorityText (url : Url) : List Char :=
  match url.host with
  | none =>
    match url.path with
    | .segments ([] :: _ :: _) => ['/', '.']
    | _ => []
  | some host =>
    ['/', '/'] ++ credentialsText url.credentials ++ host ++ match url.port with
      | some n => ':' :: Number.digitsOf n
      | none => []

def tailText (mark : Char) : Option (List Char) → List Char
  | some cs => mark :: cs
  | none => []

def text (url : Url) : String :=
  String.ofList (url.scheme ++ ':' :: authorityText url ++ pathText url.path ++
    tailText '?' url.query ++ tailText '#' url.fragment)

def hasHost (url : Url) : Bool := url.host.any fun host => !host.isEmpty

/-- Whether a request can be sent there: the scheme is `http` or `https`. -/
def isHttp (url : Url) : Bool :=
  url.scheme == "http".toList || url.scheme == "https".toList

/-- The text behind percent signs, if there is one. -/
def readable? (cs : List Char) : Option String :=
  decode? (percentDecode (encode (String.ofList cs)))

/-- The address without the credentials, which go with a request apart from it. Those that cannot be
read stay; a password counts only behind a user that can be read. -/
def dropCredentials (url : Url) : Url :=
  match readable? url.credentials.user with
  | none => url
  | some user =>
    if user.isEmpty && (url.credentials.password.bind readable?).isNone then url
    else { url with credentials := .none }

def unsendable : List Char := ['"', '\x60', '\x7b', '\x7d']

/-- The longest address that a request can hold, in bytes. -/
def maxSendable : Nat := 65534

/-- Whether a request can hold the address. -/
def isSendable (url : Url) : Bool :=
  url.text.utf8ByteSize ≤ maxSendable && !url.host.any fun host => host.any (unsendable.contains ·)

end Url

end DashboardCheck.Http
