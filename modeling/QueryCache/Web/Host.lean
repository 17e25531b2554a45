import QueryCache.Web.Domain.Label
import QueryCache.Web.Percent
/-!
# Hosts

An address names its host by a domain, by a number of four bytes or by one of sixteen.

What looks like a number is one: a domain whose last label is a numeral is read as a number of
four bytes, in the ways these have been written since the early days (fewer than four parts,
octal, hexadecimal), and is refused if that fails.  Brackets enclose a number of sixteen bytes.
All else is a domain; escapes in it stand for the characters they denote, and capitals for small
letters.

Addresses of schemes that are not among the common ones have a host that is taken as it is.
-/

namespace QueryCache.Web

/-- Why a text is no address. -/
inductive UrlError where
  | emptyHost
  | invalidDomain
  | invalidHostCharacter
  | invalidIpv4
  | invalidIpv6
  | invalidPort
  | relativeWithoutBase
  | relativeToFlatBase
deriving DecidableEq, Repr

def UrlError.text : UrlError → String
  | emptyHost => "empty host"
  | invalidDomain => "invalid international domain name"
  | invalidHostCharacter => "invalid domain character"
  | invalidIpv4 => "invalid IPv4 address"
  | invalidIpv6 => "invalid IPv6 address"
  | invalidPort => "invalid port number"
  | relativeWithoutBase => "relative URL without a base"
  | relativeToFlatBase => "relative URL with a cannot-be-a-base base"

inductive Host where
  | domain (name : String)
  | ipv4 (address : Nat)
  /-- The eight pieces of sixteen bits. -/
  | ipv6 (pieces : List Nat)
deriving DecidableEq, Repr

namespace Host

/-- The parts of a text between separators: one more than there are separators. -/
def splitAtEach (separator : Char) : List Char → List (List Char)
  | [] => [[]]
  | c :: rest =>
    if c = separator then [] :: splitAtEach separator rest
    else match splitAtEach separator rest with
      | part :: parts => (c :: part) :: parts
      | [] => [[c]]

/-- The value of a numeral in a base, if all its characters are digits of that base. -/
def numeral? (base : Nat) (cs : List Char) : Option Nat :=
  cs.foldlM (fun n c => do
    let d ← Text.hexValue? c
    if d < base then some (n * base + d) else none) 0

/-- One part of a number of four bytes: a leading `0x` makes it hexadecimal, any other leading
zero octal. -/
def ipv4Part? : List Char → Option Nat
  | [] => none
  | '0' :: 'x' :: digits | '0' :: 'X' :: digits => numeral? 16 digits
  | '0' :: c :: digits => numeral? 8 (c :: digits)
  | digits => numeral? 10 digits

/-- The labels of a domain without the empty one after a final dot. -/
def labels (cs : List Char) : List (List Char) :=
  let parts := splitAtEach '.' cs
  if parts.length > 1 ∧ parts.getLast? = some [] then parts.dropLast else parts

/-- Whether a domain has to be a number of four bytes. -/
def endsInNumber (cs : List Char) : Bool :=
  match (labels cs).getLast? with
  | none | some [] => false
  | some last => last.all Char.isDigit || (ipv4Part? last).isSome

/-- The number of four bytes that the parts make up: each but the last is one byte, the last
fills what is left. -/
def ipv4OfParts? (parts : List Nat) : Option Nat :=
  match parts.reverse with
  | [] => none
  | last :: leading =>
    let room := Nat.pow 256 (5 - parts.length)
    if parts.length > 4 ∨ leading.any (· > 255) ∨ last ≥ room then none
    else
      let top := (leading.reverse.foldl (fun n part => n * 256 + part) 0)
      some (top * room + last)

def ipv4? (cs : List Char) : Option Nat :=
  ((labels cs).mapM ipv4Part?).bind ipv4OfParts?

/-- A byte in decimal, without leading zeros. -/
def decimalByte? (cs : List Char) : Option Nat :=
  if cs = [] ∨ (cs.length > 1 ∧ cs.head? = some '0') then none
  else (numeral? 10 cs).filter (· ≤ 255)

/-- Four bytes with dots between them, as two pieces. -/
def dottedPieces? (cs : List Char) : Option (List Nat) :=
  match (splitAtEach '.' cs).mapM decimalByte? with
  | some [a, b, c, d] => some [a * 256 + b, c * 256 + d]
  | _ => none

/-- One piece of sixteen bits. -/
def ipv6Piece? (cs : List Char) : Option Nat :=
  if cs = [] ∨ cs.length > 4 then none else numeral? 16 cs

/-- The pieces between colons; the very last may be four bytes with dots. -/
def ipv6Pieces? (mayDot : Bool) (cs : List Char) : Option (List Nat) :=
  if cs = [] then some []
  else
    let parts := splitAtEach ':' cs
    let last := parts.getLastD []
    if mayDot ∧ last.contains '.' then do
      let leading ← parts.dropLast.mapM ipv6Piece?
      let dotted ← dottedPieces? last
      pure (leading ++ dotted)
    else parts.mapM ipv6Piece?

/-- What stands before and after the first double colon. -/
def cutDoubleColon : List Char → Option (List Char × List Char)
  | ':' :: ':' :: rest => some ([], rest)
  | c :: rest => (cutDoubleColon rest).map fun (before, after) => (c :: before, after)
  | [] => none

/-- Eight pieces, of which a double colon stands for one or more that are zero. -/
def ipv6? (cs : List Char) : Option (List Nat) :=
  match cutDoubleColon cs with
  | none => (ipv6Pieces? true cs).filter fun pieces => pieces.length = 8
  | some (before, after) => do
    let front ← ipv6Pieces? false before
    let back ← ipv6Pieces? true after
    if front.length + back.length > 7 then none
    else pure (front ++ List.replicate (8 - front.length - back.length) 0 ++ back)

/-- What no host may contain. -/
def isForbidden (c : Char) : Bool :=
  [' ', '#', '/', ':', '<', '>', '?', '@', '[', '\\', ']', '^', '|'].contains c

/-- What no domain may contain. -/
def isForbiddenInDomain (c : Char) : Bool := isForbidden c || isControl c || c == '%'

/-- The form in which a domain is known, if it is well-formed: in small letters, and if it is not
all in ASCII, folded and composed. -/
def knownName? (cs : List Char) : Option (List Char) := do
  let small := cs.map Char.toLower
  let isEncoded := (splitAtEach '.' small).any Domain.encodedMark.isPrefixOf
  let name ← if Domain.isAscii cs ∧ !isEncoded then some small else Domain.folded? cs
  if name.any isForbiddenInDomain then none
  let labels ← (splitAtEach '.' name).mapM Domain.decoded?
  if Domain.areLabels labels then some name else none

/-- The domain or number that a text names. -/
def ofDomain (cs : List Char) : Except UrlError Host :=
  match (String.fromUTF8? ⟨(unescape cs).toArray⟩).bind fun text => knownName? text.toList with
  | none => .error .invalidDomain
  | some name =>
    if name = [] then .error .emptyHost
    else if endsInNumber name then match ipv4? name with
      | some address => .ok (.ipv4 address)
      | none => .error .invalidIpv4
    else .ok (.domain (String.ofList name))

/-- The number that stands between brackets. -/
def ofBracketed (cs : List Char) : Except UrlError Host :=
  if cs.getLast? = some ']' then match ipv6? cs.dropLast with
    | some pieces => .ok (.ipv6 pieces)
    | none => .error .invalidIpv6
  else .error .invalidIpv6

/-- The host of an address of a common scheme. -/
def read (cs : List Char) : Except UrlError Host :=
  match cs with
  | '[' :: rest => ofBracketed rest
  | _ => ofDomain cs

/-- The host of an address of another scheme. -/
def readOpaque (cs : List Char) : Except UrlError Host :=
  match cs with
  | '[' :: rest => ofBracketed rest
  | _ =>
    if cs.any fun c => isForbidden c || c.toNat = 0 then .error .invalidHostCharacter
    else .ok (.domain (String.ofList (escape isControl cs)))

end Host

end QueryCache.Web
