import QueryCache.Json.Basic
import QueryCache.Text.Hex
/-!
# Reading JSON

`Json.read?` accepts the JSON grammar and nothing more: blanks are space, tab, line feed and
carriage return; a number has no leading zero or plus; strings hold no raw control
characters and no lone surrogates; at most `depthLimit - 1` arrays and objects may be nested.

A number with fraction or exponent, one that fits neither sixty-four-bit range, and `-0` are
doubles.  The double is made from the leading digits that fit sixty-four bits by a single
multiplication or division with a power of ten, which can miss the nearest double by one
unit; what is too large to be a double is refused.

The recursion is bounded by the length of the text: every value takes at least one
character.
-/

namespace QueryCache.Json

/-- The nesting at which reading is given up. -/
def depthLimit : Nat := 128

def isSpace (c : Char) : Bool := c == ' ' || c == '\t' || c == '\n' || c == '\r'

def skipSpace (cs : List Char) : List Char := cs.dropWhile isSpace

def digitValue (c : Char) : Nat := c.toNat - 48

/-- The largest integer in sixty-four bits. -/
def wordMax : Nat := 0xFFFFFFFFFFFFFFFF

/-- The leading digits of a numeral: those that still fit sixty-four bits are gathered into
the significand, from the first that does not fit on they are only counted. -/
structure Digits where
  significand : Nat
  taken : Nat
  dropped : Nat
  rest : List Char

def takeDigits (significand taken dropped : Nat) : List Char → Digits
  | [] => ⟨significand, taken, dropped, []⟩
  | c :: rest =>
    if c.isDigit then
      if dropped = 0 ∧ significand * 10 + digitValue c ≤ wordMax then
        takeDigits (significand * 10 + digitValue c) (taken + 1) 0 rest
      else takeDigits significand taken (dropped + 1) rest
    else ⟨significand, taken, dropped, c :: rest⟩

/-- Ten to a power that doubles reach, rounded. -/
def powerOfTen (n : Nat) : Float := Float.ofScientific 1 false n

/-- A significand times a power of ten, in one rounding where the power is in range and in
two just below it.  Farther below nothing is left; infinity is refused. -/
def scaleFloat (negative : Bool) (significand : Nat) (exponent : Int) : Option Binary64 :=
  let start := significand.toUInt64.toFloat
  let finish (f : Float) : Option Binary64 :=
    let x := Binary64.ofFloat f
    if x.isFinite then some (if negative then x.neg else x) else none
  if exponent > 308 then (if significand = 0 then finish start else none)
  else if exponent ≥ 0 then finish (start * powerOfTen exponent.toNat)
  else if exponent ≥ -308 then finish (start / powerOfTen (-exponent).toNat)
  else if exponent ≥ -616 then
    finish (start / powerOfTen 308 / powerOfTen (-exponent - 308).toNat)
  else finish 0

/-- The exponent part of a numeral, after its `e`. -/
def readExponent (cs : List Char) : Option (Int × List Char) :=
  let (negative, digits) := match cs with
    | '+' :: rest => (false, rest)
    | '-' :: rest => (true, rest)
    | _ => (false, cs)
  match digits.takeWhile Char.isDigit with
  | [] => none
  | ds =>
    let n := ds.foldl (fun n c => n * 10 + digitValue c) 0
    some (if negative then -(n : Int) else n, digits.dropWhile Char.isDigit)

/-- What follows the leading digits of a numeral whose value is so far
`significand * 10 ^ exponent`. -/
def readExponentPart (negative : Bool) (significand : Nat) (exponent : Int) :
    List Char → Option (Number × List Char)
  | c :: rest =>
    if c = 'e' ∨ c = 'E' then do
      let (e, rest) ← readExponent rest
      let x ← scaleFloat negative significand (exponent + e)
      pure (.float x, rest)
    else do
      let x ← scaleFloat negative significand exponent
      pure (.float x, c :: rest)
  | [] => do
    let x ← scaleFloat negative significand exponent
    pure (.float x, [])

/-- The fraction of a numeral, after its point: at least one digit. -/
def readFraction (negative : Bool) (whole : Digits) (cs : List Char) :
    Option (Number × List Char) :=
  -- a significand that refused a digit of the whole part may still have room for a smaller one
  let d := takeDigits whole.significand 0 0 cs
  if d.taken = 0 ∧ d.dropped = 0 then none
  else readExponentPart negative d.significand ((whole.dropped : Int) - d.taken) d.rest

/-- The number at the front of the text, its sign already taken. -/
def readNumber (negative : Bool) (cs : List Char) : Option (Number × List Char) :=
  let d := takeDigits 0 0 0 cs
  if d.taken = 0 then none
  else if cs.head? = some '0' ∧ (d.taken > 1 ∨ d.dropped > 0) then none
  else match d.rest with
    | '.' :: rest => readFraction negative d rest
    | 'e' :: _ | 'E' :: _ => readExponentPart negative d.significand d.dropped d.rest
    | rest =>
      if d.dropped > 0 then readExponentPart negative d.significand d.dropped rest
      else if !negative then some (.int d.significand, rest)
      else if 0 < d.significand ∧ d.significand ≤ 0x8000000000000000 then some (.int (-d.significand), rest)
      else (scaleFloat true d.significand 0).map fun x => (.float x, rest)

/-- Four hexadecimal digits. -/
def readHex4 : List Char → Option (Nat × List Char)
  | a :: b :: c :: d :: rest => do
    let a ← Text.hexValue? a
    let b ← Text.hexValue? b
    let c ← Text.hexValue? c
    let d ← Text.hexValue? d
    pure (((a * 16 + b) * 16 + c) * 16 + d, rest)
  | _ => none

/-- The character of a `\u` escape; a leading surrogate takes the trailing one with it. -/
def readUnicode (cs : List Char) : Option (Char × List Char) := do
  let (n, rest) ← readHex4 cs
  if 0xDC00 ≤ n ∧ n ≤ 0xDFFF then none
  else if 0xD800 ≤ n ∧ n ≤ 0xDBFF then
    match rest with
    | '\\' :: 'u' :: rest =>
      let (m, rest) ← readHex4 rest
      if 0xDC00 ≤ m ∧ m ≤ 0xDFFF then
        pure (Char.ofNat (0x10000 + (n - 0xD800) * 0x400 + (m - 0xDC00)), rest)
      else none
    | _ => none
  else pure (Char.ofNat n, rest)

/-- The characters of a string up to its closing quote. -/
def readString : Nat → List Char → List Char → Option (String × List Char)
  | 0, _, _ => none
  | bound + 1, acc, cs => match cs with
    | [] => none
    | '"' :: rest => some (String.ofList acc.reverse, rest)
    | '\\' :: 'u' :: rest => do
      let (c, rest) ← readUnicode rest
      readString bound (c :: acc) rest
    | '\\' :: c :: rest => do
      let c ← match c with
        | '"' => some '"'
        | '\\' => some '\\'
        | '/' => some '/'
        | 'b' => some '\x08'
        | 'f' => some '\x0c'
        | 'n' => some '\n'
        | 'r' => some '\r'
        | 't' => some '\t'
        | _ => none
      readString bound (c :: acc) rest
    | c :: rest => if c.toNat < 32 ∨ c = '\\' then none else readString bound (c :: acc) rest

mutual

/-- The value at the front of the text, and what follows it. -/
def readValue : Nat → Nat → List Char → Option (Json × List Char)
  | 0, _, _ => none
  | bound + 1, depth, cs => match skipSpace cs with
    | 'n' :: 'u' :: 'l' :: 'l' :: rest => some (.null, rest)
    | 't' :: 'r' :: 'u' :: 'e' :: rest => some (.bool true, rest)
    | 'f' :: 'a' :: 'l' :: 's' :: 'e' :: rest => some (.bool false, rest)
    | '"' :: rest => (readString (rest.length + 1) [] rest).map fun (s, rest) => (.str s, rest)
    | '-' :: rest => (readNumber true rest).map fun (n, rest) => (.num n, rest)
    | '[' :: rest =>
      if depth + 1 ≥ depthLimit then none
      else match skipSpace rest with
        | ']' :: rest => some (.arr [], rest)
        | rest => (readItems bound (depth + 1) [] rest).map fun (vs, rest) => (.arr vs, rest)
    | '\x7b' :: rest =>
      if depth + 1 ≥ depthLimit then none
      else match skipSpace rest with
        | '\x7d' :: rest => some (.obj [], rest)
        | rest => (readFields bound (depth + 1) [] rest).map fun (fs, rest) => (.obj fs, rest)
    | c :: rest =>
      if c.isDigit then (readNumber false (c :: rest)).map fun (n, rest) => (.num n, rest)
      else none
    | [] => none

/-- Items up to the closing bracket, gathered in reverse. -/
def readItems : Nat → Nat → List Json → List Char → Option (List Json × List Char)
  | 0, _, _, _ => none
  | bound + 1, depth, acc, cs => match readValue bound depth cs with
    | none => none
    | some (v, rest) => match skipSpace rest with
      | ',' :: rest => readItems bound depth (v :: acc) rest
      | ']' :: rest => some ((v :: acc).reverse, rest)
      | _ => none

/-- Fields up to the closing brace, kept in order of their names; the later of two with
one name replaces the earlier. -/
def readFields : Nat → Nat → List (String × Json) → List Char →
    Option (List (String × Json) × List Char)
  | 0, _, _, _ => none
  | bound + 1, depth, acc, cs => match skipSpace cs with
    | '"' :: rest => match readString (rest.length + 1) [] rest with
      | none => none
      | some (name, rest) => match skipSpace rest with
        | ':' :: rest => match readValue bound depth rest with
          | none => none
          | some (v, rest) => match skipSpace rest with
            | ',' :: rest => readFields bound depth (withField name v acc) rest
            | '\x7d' :: rest => some (withField name v acc, rest)
            | _ => none
        | _ => none
    | _ => none

end

/-- The value a text holds, if it is one JSON value with at most blanks around it. -/
def read? (s : String) : Option Json :=
  let cs := s.toList
  match readValue (cs.length + 1) 0 cs with
  | some (v, rest) => if (skipSpace rest).isEmpty then some v else none
  | none => none

end QueryCache.Json
