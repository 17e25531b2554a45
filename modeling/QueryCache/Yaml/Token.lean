import QueryCache.Yaml.Scalar
/-!
# The tokens of a YAML text

Structure comes from indentation or from brackets.  Both are turned into tokens: where a block
begins or ends, where a key, a value or an item is announced.

That a scalar is a key shows only at the colon behind it.  So the place of every node that may
be one is noted, and when the colon comes the key is announced there, after the fact.  Such a
key stands on one line and takes at most 1024 octets.  Where a key must stand, at the column of
an open mapping, a colon has to follow.

A tag is a sequence of octets, for it may be written with escapes that make up no text.
-/

namespace QueryCache.Yaml

/-- How a scalar is written, as far as it matters. -/
inductive Style where
  | plain
  /-- Behind a bar. -/
  | literal
  /-- In quotes, or behind an angle bracket. -/
  | quoted
deriving DecidableEq, Repr

/-- A tag as it is written: a short name for its beginning, and the rest. -/
structure TagName where
  handle : List Char
  suffix : List UInt8
deriving DecidableEq, Repr

inductive Token where
  /-- The version of the language. -/
  | version (major minor : Nat)
  /-- A short name for the beginning of tags. -/
  | handle (name : List Char) (meaning : List UInt8)
  | documentStart
  | documentEnd
  | sequenceStart
  | mappingStart
  /-- The end of a block, sequence or mapping. -/
  | blockEnd
  | bracketOpen
  | bracketClose
  | braceOpen
  | braceClose
  | item
  | comma
  | key
  | value
  | reference (name : String)
  | anchor (name : String)
  | tag (name : TagName)
  | scalar (style : Style) (text : String)
deriving DecidableEq, Repr

/-- A place where a key may have begun. -/
structure Candidate where
  place : Place
  /-- How many tokens came before it. -/
  index : Nat
  /-- Whether nothing but a key may stand there. -/
  required : Bool
deriving DecidableEq, Repr

/-- Whether a colon at a place comes too late for a key. -/
def Candidate.isStale (c : Candidate) (p : Place) : Bool :=
  c.place.line < p.line || c.place.offset + 1024 < p.offset

structure Lexer where
  cursor : Cursor
  /-- The latest first. -/
  tokens : List Token
  count : Nat
  /-- The columns of the open blocks, the innermost first. -/
  columns : List Nat
  candidate : Option Candidate
  /-- The candidates around each open bracket, the innermost first. -/
  around : List (Option Candidate)
  /-- Whether a key may begin here. -/
  keyAllowed : Bool

/-- Reading tokens; a text that is not well-formed gives none. -/
abbrev Lex := StateT Lexer Option

namespace Lex

def require (b : Bool) : Lex Unit := if b then pure () else failure

def rest : Lex (List Char) := do return (← get).cursor.rest

def place : Lex Place := do return (← get).cursor.place

def goTo (c : Cursor) : Lex Unit := modify fun l => { l with cursor := c }

def skip (n : Nat) : Lex Unit := do goTo ((← get).cursor.skip n)

def allowKey (b : Bool) : Lex Unit := modify fun l => { l with keyAllowed := b }

def inFlow : Lex Bool := do return !(← get).around.isEmpty

/-! ## Tokens and candidates -/

def emit (t : Token) : Lex Unit :=
  modify fun l => { l with tokens := t :: l.tokens, count := l.count + 1 }

/-- Puts a token behind the first so many. -/
def insertAt (index : Nat) (t : Token) : Lex Unit :=
  modify fun l =>
    let later := l.count - index
    { l with
      tokens := l.tokens.take later ++ t :: l.tokens.drop later
      count := l.count + 1 }

/-- Gives up the candidate, unless it had to be a key. -/
def dropCandidate : Lex Unit := do
  require (((← get).candidate.map (!·.required)).getD true)
  modify fun l => { l with candidate := none }

/-- Notes that a key may begin here. -/
def noteCandidate : Lex Unit := do
  let l ← get
  if l.keyAllowed then
    dropCandidate
    let required := l.around.isEmpty && l.columns.head? == some l.cursor.place.column
    modify fun l => { l with candidate := some ⟨l.cursor.place, l.count, required⟩ }

/-- Gives up the candidates that a colon would come too late for. -/
def dropStale : Lex Unit := do
  let l ← get
  let isStale (c : Option Candidate) : Bool := (c.map (·.isStale l.cursor.place)).getD false
  let isRequired (c : Option Candidate) : Bool := (c.map (·.required)).getD false
  require ((l.candidate :: l.around).all fun c => !(isStale c && isRequired c))
  let fresh (c : Option Candidate) : Option Candidate := if isStale c then none else c
  set { l with candidate := fresh l.candidate, around := l.around.map fresh }

/-! ## Blocks -/

/-- Opens a block at a column, if it is right of the innermost one. -/
def openBlock (start : Token) (column index : Nat) : Lex Unit := do
  let l ← get
  if l.around.isEmpty && (l.columns.head?.map fun c => decide (c < column)).getD true then
    insertAt index start
    modify fun l => { l with columns := column :: l.columns }

/-- Closes the blocks that stand right of a column, or all of them. -/
def closeBlocks (column : Option Nat) : Lex Unit := do
  let l ← get
  if l.around.isEmpty then
    let closed := l.columns.takeWhile fun c => (column.map fun n => decide (n < c)).getD true
    modify fun l => { l with columns := l.columns.drop closed.length }
    closed.forM fun _ => emit .blockEnd

/-! ## Between tokens -/

/-- Passes over blanks, comments and line breaks.  A tab counts as a blank in brackets, and where
no key may begin. -/
def skipGapFrom (inFlow keyAllowed : Bool) (p : Place) :
    (inRemark : Bool) → List Char → Cursor × Bool
  | _, [] => (⟨p, []⟩, keyAllowed)
  | inRemark, c :: rest =>
    let mayMark := p.column = 0 ∧ c = '\uFEFF'
    if isBreak c then skipGapFrom inFlow (keyAllowed || !inFlow) (p.after c) false rest
    else if inRemark ∨ mayMark ∨ c = ' ' ∨ (c = '\t' ∧ (inFlow ∨ !keyAllowed)) then
      skipGapFrom inFlow keyAllowed (p.after c) inRemark rest
    else if c = '#' then skipGapFrom inFlow keyAllowed (p.after c) true rest
    else (⟨p, c :: rest⟩, keyAllowed)

def skipGap : Lex Unit := do
  let l ← get
  let (cursor, keyAllowed) :=
    skipGapFrom (← inFlow) l.keyAllowed l.cursor.place false l.cursor.rest
  set { l with cursor := cursor, keyAllowed := keyAllowed }

/-! ## Names and tags -/

def isNameChar (c : Char) : Bool := c.isAlphanum || c == '-' || c == '_'

/-- The name after an ampersand or an asterisk. -/
def anchorName : Lex String := do
  skip 1
  let name := (← rest).takeWhile isNameChar
  goTo ((← get).cursor.pass isNameChar)
  let left ← rest
  require (name ≠ [] && (startsBlank left
    || startsWithAny ['?', ':', ',', ']', '\x7d', '%', '@', '\x60'] left))
  return String.ofList name

/-- What may stand in a tag; commas and square brackets only where `wide` says so. -/
def isTagChar (wide : Bool) (c : Char) : Bool :=
  isNameChar c || [';', '/', '?', ':', '@', '&', '=', '+', '$', '.', '%', '!', '~', '*', '\'',
      '(', ')'].contains c
    || (wide && [',', '[', ']'].contains c)

/-- How many octets a character takes whose first octet is this. -/
def octetWidth? (first : Nat) : Option Nat :=
  if first < 0x80 then some 1
  else if 0xC0 ≤ first ∧ first < 0xE0 then some 2
  else if 0xE0 ≤ first ∧ first < 0xF0 then some 3
  else if 0xF0 ≤ first ∧ first < 0xF8 then some 4
  else none

/-- The octets of a tag.  Escaped octets have to stand together as those of a character do:
`due` says how many are still to follow. -/
def tagOctets? (wide : Bool) : (due : Nat) → List Char → Option (List UInt8 × List Char)
  | due, '%' :: a :: b :: rest => do
    let octet := (← Text.hexValue? a) * 16 + (← Text.hexValue? b)
    let width ← if due = 0 then octetWidth? octet
      else if 0x80 ≤ octet ∧ octet < 0xC0 then some due else none
    let (octets, left) ← tagOctets? wide (width - 1) rest
    pure (octet.toUInt8 :: octets, left)
  | 0, c :: rest =>
    if c = '%' then none
    else if isTagChar wide c then
      (tagOctets? wide 0 rest).map fun (octets, left) => (c.toNat.toUInt8 :: octets, left)
    else some ([], c :: rest)
  | 0, [] => some ([], [])
  | _ + 1, _ => none

/-- Reads the octets of a tag. -/
def tagOctets (wide : Bool) : Lex (List UInt8) := do
  let before ← rest
  match tagOctets? wide 0 before with
  | some (octets, left) =>
    skip (before.length - left.length)
    return octets
  | none => failure

/-- The short name for the beginning of tags that stands here: an exclamation mark, or a name
between two. -/
def handleName : Lex (List Char) := do
  require ((← rest).head? == some '!')
  skip 1
  let name := (← rest).takeWhile isNameChar
  goTo ((← get).cursor.pass isNameChar)
  if (← rest).head? = some '!' then
    skip 1
    return '!' :: (name ++ ['!'])
  return '!' :: name

/-- A tag.  It is written out between angle brackets, or begins with a short name; the
exclamation mark alone is a tag of its own. -/
def tagName : Lex TagName := do
  let name ← if (← rest)[1]? = some '<' then do
      skip 2
      let octets ← tagOctets true
      require (octets ≠ [] && (← rest).head? == some '>')
      skip 1
      pure (⟨[], octets⟩ : TagName)
    else do
      let name ← handleName
      let octets ← tagOctets false
      if name.length > 1 ∧ name.getLast? = some '!' then
        require (octets ≠ [])
        pure ⟨name, octets⟩
      else
        let octets := (name.drop 1).map (·.toNat.toUInt8) ++ octets
        pure (if octets = [] then ⟨[], [33]⟩ else ⟨['!'], octets⟩)
  let left ← rest
  require (startsBlank left || ((← inFlow) && left.head? == some ','))
  return name

/-! ## Directives -/

/-- A number of at most nine digits. -/
def shortNumber : Lex Nat := do
  let digits := (← rest).takeWhile Char.isDigit
  require (digits ≠ [] && digits.length ≤ 9)
  skip digits.length
  return digits.foldl (fun n c => n * 10 + (c.toNat - 48)) 0

def skipBlanks : Lex Unit := do goTo ((← get).cursor.pass isBlank)

/-- A line that begins with a percent sign: the version of the language, or a short name for the
beginning of tags. -/
def directive : Lex Token := do
  skip 1
  let name := (← rest).takeWhile isNameChar
  skip name.length
  require (startsBlank (← rest))
  let t ← if name = "YAML".toList then do
      skipBlanks
      let major ← shortNumber
      require ((← rest).head? == some '.')
      skip 1
      pure (Token.version major (← shortNumber))
    else if name = "TAG".toList then do
      skipBlanks
      let name ← handleName
      require (name = ['!'] || (name.length > 1 && name.getLast? == some '!'))
      require (startsWithAny [' ', '\t'] (← rest))
      skipBlanks
      let octets ← tagOctets true
      require (octets ≠ [] && startsBlank (← rest))
      pure (Token.handle name octets)
    else failure
  match (← get).cursor.passRemark.endLine? with
  | some c => goTo c
  | none => failure
  return t

/-! ## The next token -/

/-- A token of which the text is a single mark. -/
def mark (t : Token) : Lex Unit := do
  skip 1
  emit t

/-- What stands for itself at the beginning of a line: a directive or a mark between documents. -/
def outermost (t : Lex Token) : Lex Unit := do
  closeBlocks none
  dropCandidate
  allowKey false
  emit (← t)

def openBracket (t : Token) : Lex Unit := do
  noteCandidate
  modify fun l => { l with candidate := none, around := l.candidate :: l.around }
  allowKey true
  mark t

def closeBracket (t : Token) : Lex Unit := do
  dropCandidate
  modify fun l => match l.around with
    | c :: around => { l with candidate := c, around := around }
    | [] => l
  allowKey false
  mark t

/-- Opens a block for a mark that it may begin with. -/
def announce (start : Token) : Lex Unit := do
  if !(← inFlow) then
    let l ← get
    require l.keyAllowed
    openBlock start l.cursor.place.column l.count

def announceItem : Lex Unit := do
  announce .sequenceStart
  dropCandidate
  allowKey true
  mark .item

def announceKey : Lex Unit := do
  announce .mappingStart
  dropCandidate
  allowKey (!(← inFlow))
  mark .key

/-- A colon: behind a candidate it makes a key of it, otherwise it stands alone. -/
def announceValue : Lex Unit := do
  let l ← get
  match l.candidate with
  | some c =>
    insertAt c.index .key
    openBlock .mappingStart c.place.column c.index
    modify fun l => { l with candidate := none }
    allowKey false
  | none =>
    announce .mappingStart
    allowKey (!(← inFlow))
  mark .value

/-- Something that may be a key, on a line with its colon. -/
def nodePart (t : Lex Token) : Lex Unit := do
  noteCandidate
  allowKey false
  emit (← t)

/-- A scalar that was read. -/
def scanned (style : Style) : Option Scanned → Lex Token
  | none => failure
  | some s => do
    goTo s.cursor
    if s.broken then allowKey true
    return .scalar style (String.ofList s.text)

def blockScalar (isLiteral : Bool) : Lex Unit := do
  dropCandidate
  let l ← get
  let style := if isLiteral then Style.literal else .quoted
  emit (← scanned style (scanBlock isLiteral l.columns.head? (l.cursor.skip 1)))

/-- Reads the token that comes next, which is not the end of the text. -/
def nextToken (cs : List Char) : Lex Unit := do
  let p ← place
  let inFlow ← inFlow
  let behind := cs.drop 1
  let opens := inFlow || startsBlank behind
  let least := ((← get).columns.head?.map (· + 1)).getD 0
  if p.column = 0 ∧ cs.head? = some '%' then outermost directive
  else if p.column = 0 ∧ startsMark '-' cs then
    outermost (do skip 3; return .documentStart)
  else if p.column = 0 ∧ startsMark '.' cs then
    outermost (do skip 3; return .documentEnd)
  else match cs with
  | '[' :: _ => openBracket .bracketOpen
  | '\x7b' :: _ => openBracket .braceOpen
  | ']' :: _ => closeBracket .bracketClose
  | '\x7d' :: _ => closeBracket .braceClose
  | ',' :: _ =>
    dropCandidate
    allowKey true
    mark .comma
  | c :: _ =>
    if c = '-' ∧ startsBlank behind then announceItem
    else if c = '?' ∧ opens then announceKey
    else if c = ':' ∧ opens then announceValue
    else if c = '*' then nodePart (do return .reference (← anchorName))
    else if c = '&' then nodePart (do return .anchor (← anchorName))
    else if c = '!' then nodePart (do return .tag (← tagName))
    else if c = '|' ∧ !inFlow then blockScalar true
    else if c = '>' ∧ !inFlow then blockScalar false
    else if c = '\'' then
      nodePart (scanned .quoted (scanSingle .none [] (p.after c) behind))
    else if c = '"' then
      nodePart (scanned .quoted (scanDouble cs.length .none [] ⟨p.after c, behind⟩))
    else if startsPlain inFlow cs then
      nodePart (scanned .plain (scanPlain inFlow least true .none [] p cs))
    else failure
  | [] => failure

/-- Reads tokens to the end of the text. -/
def toEnd : (bound : Nat) → Lex Unit
  | 0 => failure
  | bound + 1 => do
    skipGap
    dropStale
    closeBlocks (some (← place).column)
    match ← rest with
    | [] =>
      closeBlocks none
      dropCandidate
    | cs =>
      nextToken cs
      toEnd bound

end Lex

/-- The tokens of a text, if it is made up of tokens. -/
def tokens? (cs : List Char) : Option (List Token) :=
  let start : Lexer := ⟨⟨⟨0, 0, 0⟩, cs⟩, [], 0, [], none, [], true⟩
  ((Lex.toEnd (cs.length + 2)).run start).map fun (_, l) => l.tokens.reverse

end QueryCache.Yaml
