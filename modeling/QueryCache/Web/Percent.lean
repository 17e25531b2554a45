import QueryCache.Text.Hex
/-!
# Percent escapes

In an address every character outside a small alphabet is written as the bytes of its UTF-8
form, each as a percent sign with two hexadecimal digits.  Which ASCII characters are escaped
depends on the place: a space may stand nowhere, a question mark only after the path.
Characters beyond ASCII are escaped everywhere.

A percent sign that is there already stays, whether an escape follows or not.  So escaping
never changes what a text that was escaped before means.

The parameters that a request adds to an address are written as forms are: all but letters,
digits and four marks is escaped, and a space becomes a plus sign.
-/

namespace QueryCache.Web

/-- Controls, and the deletion character. -/
def isControl (c : Char) : Bool := c.toNat < 0x20 || c.toNat == 0x7F

/-- What is escaped in a path, of ASCII. -/
def isEscapedInPath (c : Char) : Bool :=
  isControl c || [' ', '"', '<', '>', '\x60', '#', '?', '\x7b', '\x7d'].contains c

/-- What is escaped in a user name or password, of ASCII. -/
def isEscapedInUserinfo (c : Char) : Bool :=
  isEscapedInPath c || ['/', ':', ';', '=', '@', '[', '\\', ']', '^', '|'].contains c

/-- What is escaped in a query, of ASCII; the apostrophe only in addresses of the common
schemes. -/
def isEscapedInQuery (special : Bool) (c : Char) : Bool :=
  isControl c || [' ', '"', '#', '<', '>'].contains c || (special && c == '\'')

/-- One escaped byte. -/
def escapeByte (b : UInt8) : List Char :=
  ['%', Text.upperHex (b.toNat / 16), Text.upperHex (b.toNat % 16)]

/-- A character as it stands in an address. -/
def escapeChar (isEscaped : Char → Bool) (c : Char) : List Char :=
  if isEscaped c || c.toNat ≥ 0x80 then (String.utf8EncodeChar c).flatMap escapeByte else [c]

def escape (isEscaped : Char → Bool) (cs : List Char) : List Char :=
  cs.flatMap (escapeChar isEscaped)

/-- The bytes of a text, with its escapes taken for the bytes they stand for. -/
def unescape : List Char → List UInt8
  | [] => []
  | '%' :: a :: b :: rest => match Text.hexValue? a, Text.hexValue? b with
    | some high, some low => (high * 16 + low).toUInt8 :: unescape rest
    | _, _ => String.utf8EncodeChar '%' ++ unescape (a :: b :: rest)
  | c :: rest => String.utf8EncodeChar c ++ unescape rest

/-- What a form leaves as it is. -/
def isPlainInForm (c : Char) : Bool :=
  c.isAlphanum || ['*', '-', '.', '_'].contains c

def formChar (c : Char) : List Char :=
  if isPlainInForm c then [c]
  else if c = ' ' then ['+']
  else (String.utf8EncodeChar c).flatMap escapeByte

/-- A name or a value as a form writes it. -/
def formText (s : String) : List Char := s.toList.flatMap formChar

/-- Parameters as a form writes them. -/
def formPairs (pairs : List (String × String)) : List Char :=
  ['&'].intercalate (pairs.map fun (name, value) => formText name ++ '=' :: formText value)

end QueryCache.Web
