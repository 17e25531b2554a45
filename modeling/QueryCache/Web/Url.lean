import QueryCache.Web.Host
/-!
# Addresses

An address says how to reach a server (`scheme` and `authority`) and what to ask it for (`path`
and `query`).  A fragment names a place within the answer; it is never sent and so not kept.

`Url.read` takes a whole address, `Url.join` one that may leave out its beginning and takes
it from a base.  Both follow the URL standard.  Blanks and controls around the text and line
breaks inside it do not count.  The common schemes have rules of their own: a backslash is as
good as a slash, missing or surplus slashes before the host are forgiven, and there is always
a host and a path.

Relative to a base, a reference that names a scheme leaves the base altogether, two slashes
leave its host, one slash its path, and all else continues the path in place of its last
segment.  A segment of two dots takes one step back; at the top it has no effect.

What the standard says of the disks of file addresses is left out.  A letter and a colon at the head
of a path are a segment like any other here: two dots step back over them, a path from the root does
not keep them, and a bar in place of the colon stays a bar.  Requests do not come to feel it, since
nothing can be asked for at a file (`isHttp`).
-/

namespace QueryCache.Web

/-- Who is asked. -/
structure Authority where
  user : List Char
  password : List Char
  host : Host
  /-- The port, unless it is the one the scheme stands for. -/
  port : Option Nat
deriving DecidableEq, Repr

inductive Url.Path where
  /-- Segments between slashes; a path that ends with a slash has an empty last segment. -/
  | segments (parts : List (List Char))
  /-- A text without structure, to which nothing is relative. -/
  | flat (text : List Char)
deriving DecidableEq, Repr

structure Url where
  scheme : String
  authority : Option Authority
  path : Url.Path
  query : Option (List Char)
deriving DecidableEq, Repr

namespace Url

/-- The ports that the common schemes stand for. -/
def defaultPort? : String → Option Nat
  | "http" | "ws" => some 80
  | "https" | "wss" => some 443
  | "ftp" => some 21
  | _ => none

/-- Whether a scheme is one of the common ones. -/
def isSpecial (scheme : String) : Bool :=
  scheme == "file" || (defaultPort? scheme).isSome

/-! ## The parts of a text -/

/-- The text that counts: nothing up to a space at the ends, and no line break or tab at all. -/
def tidy (s : String) : List Char :=
  let s := s.toList
  let s := s.dropWhile fun c => c.toNat ≤ 0x20
  let s := (s.reverse.dropWhile fun c => c.toNat ≤ 0x20).reverse
  s.filter fun c => c != '\t' && c != '\n' && c != '\r'

def isSchemeChar (c : Char) : Bool := c.isAlphanum || c == '+' || c == '-' || c == '.'

/-- The scheme, in small letters, and what follows its colon. -/
def cutScheme (cs : List Char) : Option (String × List Char) :=
  match cs with
  | [] => none
  | first :: _ =>
    if first.isAlpha then match cs.dropWhile isSchemeChar with
      | ':' :: rest => some (String.ofList ((cs.takeWhile isSchemeChar).map Char.toLower), rest)
      | _ => none
    else none

def isSlash (c : Char) : Bool := c == '/' || c == '\\'

/-- What separates the segments of a path. -/
def isSeparator (special : Bool) (c : Char) : Bool := c == '/' || (special && c == '\\')

/-- What ends an authority. -/
def endsAuthority (special : Bool) (c : Char) : Bool :=
  isSeparator special c || c == '?' || c == '#'

/-- What ends a path. -/
def endsPath (c : Char) : Bool := c == '?' || c == '#'

/-- The query that follows a path, as it is sent. -/
def queryAfter (special : Bool) (cs : List Char) : Option (List Char) :=
  match cs.dropWhile fun c => !endsPath c with
  | '?' :: rest => some (escape (isEscapedInQuery special) (rest.takeWhile (· != '#')))
  | _ => none

/-! ## Paths -/

/-- The parts of a path text: one more than there are separators. -/
def splitSegments (special : Bool) : List Char → List (List Char)
  | [] => [[]]
  | c :: rest =>
    if isSeparator special c then [] :: splitSegments special rest
    else match splitSegments special rest with
      | part :: parts => (c :: part) :: parts
      | [] => [[c]]

/-- The segment with escaped dots taken for dots. -/
def plainDots : List Char → List Char
  | '%' :: '2' :: 'e' :: rest | '%' :: '2' :: 'E' :: rest => '.' :: plainDots rest
  | c :: rest => c :: plainDots rest
  | [] => []

def isStay (segment : List Char) : Bool := plainDots segment == ['.']

def isStepBack (segment : List Char) : Bool := plainDots segment == ['.', '.']

/-- Goes on along segments from a place in the tree of paths.  Dots at the very end lead to a
place, not to a thing, so an empty segment follows. -/
def walk (place : List (List Char)) : List (List Char) → List (List Char)
  | [] => place
  | [last] =>
    if isStepBack last then place.dropLast ++ [[]]
    else if isStay last then place ++ [[]]
    else place ++ [last]
  | segment :: rest =>
    walk (if isStepBack segment then place.dropLast
      else if isStay segment then place
      else place ++ [segment]) rest

/-- Goes on along a path text, up to where the path ends. -/
def walkText (special : Bool) (place : List (List Char)) (cs : List Char) : List (List Char) :=
  let text := cs.takeWhile fun c => !endsPath c
  walk place ((splitSegments special text).map (escape isEscapedInPath))

/-- The path that follows an authority. -/
def walkFromRoot (special : Bool) (cs : List Char) : List (List Char) :=
  match cs with
  | [] => if special then [[]] else []
  | c :: rest =>
    if isSeparator special c then walkText special [] rest
    else if endsPath c && !special then []
    else walkText special [] cs

/-! ## Authorities -/

/-- What stands before and after the last of a character. -/
def cutLast (c : Char) (cs : List Char) : Option (List Char × List Char) :=
  match cs.reverse.dropWhile (· != c) with
  | [] => none
  | _ :: before => some (before.reverse, (cs.reverse.takeWhile (· != c)).reverse)

/-- The host text, up to a colon outside of brackets, and what follows it. -/
def spanHost (inBrackets : Bool) : List Char → List Char × List Char
  | [] => ([], [])
  | c :: rest =>
    if c = ':' ∧ !inBrackets then ([], c :: rest)
    else
      let inBrackets := if c = '[' then true else if c = ']' then false else inBrackets
      let (host, rest) := spanHost inBrackets rest
      (c :: host, rest)

/-- The port and what follows it.  No digits mean no port. -/
def readPort (scheme : String) (cs : List Char) : Except UrlError (Option Nat × List Char) :=
  let digits := cs.takeWhile Char.isDigit
  let port := digits.foldl (fun n c => n * 10 + (c.toNat - 48)) 0
  if port > 65535 then .error .invalidPort
  else
    let port := if digits = [] ∨ defaultPort? scheme = some port then none else some port
    match cs.dropWhile Char.isDigit with
    | [] => .ok (port, [])
    | '\\' :: rest => .ok (port, '\\' :: rest)
    | _ => .error .invalidPort

/-- User and password, the host with its port, and what is left of the text. -/
def readAuthority (scheme : String) (cs : List Char) :
    Except UrlError (Option Authority × List Char) := do
  let special := isSpecial scheme
  let text := cs.takeWhile fun c => !endsAuthority special c
  let rest := cs.dropWhile fun c => !endsAuthority special c
  let (userinfo, place) := (cutLast '@' text).getD ([], text)
  let user := userinfo.takeWhile (· != ':')
  let password := (userinfo.dropWhile (· != ':')).drop 1
  let named := user ≠ [] ∨ password ≠ []
  let (name, port) := spanHost false place
  if name = [] ∧ (special ∨ named ∨ port ≠ [] ∨ (text = ['@'] ∧ rest ≠ [])) then
    throw .emptyHost
  let host ← if special then Host.read name else Host.readOpaque name
  let (port, left) ← readPort scheme (port.drop 1)
  let safe := escape isEscapedInUserinfo
  pure (some ⟨safe user, safe password, host, port⟩, left ++ rest)

/-- Whether a text names a disk, which no host does. -/
def isDrive (cs : List Char) : Bool :=
  match cs with
  | [letter, mark] => letter.isAlpha && (mark == ':' || mark == '|')
  | _ => false

/-- The host of a file, which is mostly left out. -/
def readFileHost (cs : List Char) : Except UrlError (Option Authority × List Char) := do
  let name := cs.takeWhile fun c => !endsAuthority true c
  let rest := cs.dropWhile fun c => !endsAuthority true c
  if isDrive name then pure (none, cs)
  else if name = [] then pure (none, rest)
  else match ← Host.read name with
    | .domain "localhost" => pure (none, rest)
    | host => pure (some ⟨[], [], host, none⟩, rest)

/-- The address of a scheme whose text goes on after the slashes. -/
def readPlace (scheme : String) (cs : List Char) : Except UrlError Url := do
  let special := isSpecial scheme
  let (authority, rest) ←
    if scheme = "file" then readFileHost cs else readAuthority scheme cs
  pure ⟨scheme, authority, .segments (walkFromRoot special rest), queryAfter special rest⟩

/-! ## References -/

/-- The segments of the path; a flat path has none. -/
def place (u : Url) : List (List Char) :=
  match u.path with
  | .segments parts => parts
  | .flat _ => []

/-- The base with its path and query replaced. -/
def moveTo (base : Url) (place : List (List Char)) (query : Option (List Char)) : Url :=
  { base with path := .segments place, query := query }

/-- What a reference without a scheme means relative to a base. -/
def follow (base : Url) (cs : List Char) : Except UrlError Url :=
  let special := isSpecial base.scheme
  let query := queryAfter special cs
  match cs with
  | [] | '#' :: _ => .ok base
  | '?' :: _ => .ok (base.moveTo base.place query)
  | '/' :: '/' :: rest => readPlace base.scheme rest
  | c :: rest =>
    if isSlash c then
      if rest.head?.any isSlash then
        readPlace base.scheme (if base.scheme = "file" then rest.drop 1 else rest.dropWhile isSlash)
      else .ok (base.moveTo (walkText special [] rest) query)
    else .ok (base.moveTo (walkText special base.place.dropLast cs) query)

/-- What a text means that stands after a scheme.  A base of that very scheme may lend its
authority, and its path too. -/
def readAfterScheme (base : Option Url) (scheme : String) (cs : List Char) :
    Except UrlError Url :=
  let bare : Url := ⟨scheme, none, .segments [], none⟩
  if scheme = "file" then follow (base.getD bare) cs
  else if isSpecial scheme then match base with
    | some base =>
      if (cs.takeWhile isSlash).length < 2 then follow base cs
      else readPlace scheme (cs.dropWhile isSlash)
    | none => readPlace scheme (cs.dropWhile isSlash)
  else match cs with
    | '/' :: '/' :: rest => readPlace scheme rest
    | '/' :: rest => .ok (bare.moveTo (walkText false [] rest) (queryAfter false rest))
    | _ =>
      .ok { bare with
        path := .flat (escape isControl (cs.takeWhile fun c => !endsPath c))
        query := queryAfter false cs }

/-- The address that a text is. -/
def read (s : String) : Except UrlError Url :=
  match cutScheme (tidy s) with
  | some (scheme, rest) => readAfterScheme none scheme rest
  | none => .error .relativeWithoutBase

/-- The address that a text means relative to a base. -/
def join (base : Url) (s : String) : Except UrlError Url :=
  let cs := tidy s
  match cutScheme cs with
  | some (scheme, rest) =>
    readAfterScheme (if base.scheme = scheme then some base else none) scheme rest
  | none => match base.path with
    | .segments _ => base.follow cs
    | .flat _ => if cs.head? = some '#' then .ok base else .error .relativeToFlatBase

/-! ## Using an address -/

/-- Adds parameters to the query. -/
def withParameters (u : Url) (pairs : List (String × String)) : Url :=
  if pairs.isEmpty then u
  else match u.query with
    | none | some [] => { u with query := some (formPairs pairs) }
    | some query => { u with query := some (query ++ '&' :: formPairs pairs) }

def pathText (u : Url) : List Char :=
  match u.path with
  | .segments parts => parts.flatMap fun part => '/' :: part
  | .flat text => text

/-- What a server is asked for: path and query. -/
def target (u : Url) : String :=
  String.ofList (u.pathText ++ match u.query with
    | none => []
    | some query => '?' :: query)

/-- Whether something can be asked for here by HTTP. -/
def isHttp (u : Url) : Bool :=
  (u.scheme == "http" || u.scheme == "https") && u.authority.isSome

end Url

end QueryCache.Web
