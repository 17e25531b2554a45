/-!
# Places in a YAML text

A text is read line by line.  Lines end at a line feed, a carriage return, both, or one of three
further characters, of which two count as themselves where they stand in a scalar and all others
as a line feed.  Indentation is measured in columns, the length of a key in octets.

Three dashes or three dots at the beginning of a line separate documents.
-/

namespace QueryCache.Yaml

def isBreak (c : Char) : Bool := c == '\n' || c == '\u2028' || c == '\u2029'

def isBlank (c : Char) : Bool := c == ' ' || c == '\t'

/-- Writes the line breaks that count as a line feed as one. -/
def unifyBreaks : List Char → List Char
  | '\r' :: '\n' :: rest | '\r' :: rest | '\u0085' :: rest => '\n' :: unifyBreaks rest
  | c :: rest => c :: unifyBreaks rest
  | [] => []

/-- Whether a document may hold a character at all. -/
def isPrintable (c : Char) : Bool :=
  let n := c.toNat
  n == 9 || n == 10 || n == 13 || (0x20 ≤ n && n ≤ 0x7E) || n == 0x85
    || (0xA0 ≤ n && n ≤ 0xFFFD) || 0x10000 ≤ n

/-- Whether a text is at its end, or a blank or line break comes next. -/
def startsBlank : List Char → Bool
  | [] => true
  | c :: _ => isBlank c || isBreak c

/-- Whether one of these characters comes next. -/
def startsWithAny (marks : List Char) : List Char → Bool
  | [] => false
  | c :: _ => marks.contains c

/-- Whether a line that starts here begins with a mark that separates documents. -/
def startsMark (mark : Char) : List Char → Bool
  | a :: b :: c :: rest => a == mark && b == mark && c == mark && startsBlank rest
  | _ => false

/-- Whether a line that starts here separates documents. -/
def startsSeparator (cs : List Char) : Bool := startsMark '-' cs || startsMark '.' cs

/-- How far into a text a place is, in octets, and on which line and column. -/
structure Place where
  offset : Nat
  line : Nat
  column : Nat
deriving DecidableEq, Repr

/-- The place behind a character. -/
def Place.after (p : Place) (c : Char) : Place :=
  if isBreak c then ⟨p.offset + c.utf8Size, p.line + 1, 0⟩
  else ⟨p.offset + c.utf8Size, p.line, p.column + 1⟩

/-- A place, and what follows it. -/
structure Cursor where
  place : Place
  rest : List Char
deriving DecidableEq, Repr

namespace Cursor

/-- Passes over so many characters. -/
def skip : Nat → Cursor → Cursor
  | 0, c => c
  | n + 1, c => match c.rest with
    | [] => c
    | x :: rest => skip n ⟨c.place.after x, rest⟩

/-- Passes over the characters of a kind that come first. -/
def passFrom (kind : Char → Bool) (p : Place) : List Char → Cursor
  | [] => ⟨p, []⟩
  | x :: rest => if kind x then passFrom kind (p.after x) rest else ⟨p, x :: rest⟩

def pass (kind : Char → Bool) (c : Cursor) : Cursor := passFrom kind c.place c.rest

/-- Passes over blanks and a comment, if there is one. -/
def passRemark (c : Cursor) : Cursor :=
  let c := c.pass isBlank
  if c.rest.head? = some '#' then c.pass fun x => !isBreak x else c

/-- Passes over one line break; nothing else may come first, except the end of the text. -/
def endLine? (c : Cursor) : Option Cursor :=
  match c.rest with
  | [] => some c
  | x :: _ => if isBreak x then some (c.skip 1) else none

end Cursor

end QueryCache.Yaml
