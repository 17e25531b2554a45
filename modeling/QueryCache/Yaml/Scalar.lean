import QueryCache.Text.Hex
import QueryCache.Yaml.Place
/-!
# How scalars are written

A plain scalar ends where the syntax goes on: at a colon before a blank, at a number sign
after one, in brackets also at a comma or bracket.  Quotes hold everything; in single quotes a
quote is written twice, in double quotes a backslash starts an escape.  After a bar or an angle
bracket the indented lines that follow are the text.

A plain or quoted scalar may go on over several lines.  The blanks around a line break do not
count, a single line feed stands for a space, and of several all but the first remain.
-/

namespace QueryCache.Yaml

/-- A scalar that was read, and what follows it. -/
structure Scanned where
  text : List Char
  /-- Whether a line ended after the text. -/
  broken : Bool
  cursor : Cursor

/-! ## Between the words of a scalar -/

/-- What has been passed over since the last word of a scalar. -/
inductive Gap where
  /-- Blanks on the line, the latest first. -/
  | blanks (seen : List Char)
  /-- A line break and those after it, the latest first. -/
  | breaks (first : Char) (more : List Char)
  /-- An escaped line break and others after it, the latest first. -/
  | joint (more : List Char)

namespace Gap

def none : Gap := blanks []

def isBroken : Gap → Bool
  | blanks _ => false
  | breaks _ _ | joint _ => true

/-- Blanks count only as long as no line has ended. -/
def onBlank (c : Char) : Gap → Gap
  | blanks seen => blanks (c :: seen)
  | gap => gap

def onBreak (c : Char) : Gap → Gap
  | blanks _ => breaks c []
  | breaks first more => breaks first (c :: more)
  | joint more => joint (c :: more)

/-- What the gap stands for. -/
def text : Gap → List Char
  | blanks seen => seen.reverse
  | breaks first more =>
    if first ≠ '\n' then first :: more.reverse else if more = [] then [' '] else more.reverse
  | joint more => more.reverse

end Gap

/-! ## Plain scalars -/

def isFlowMark (c : Char) : Bool := [',', '[', ']', '\x7b', '\x7d'].contains c

/-- What a plain scalar may not begin with, unless it is a hyphen, question mark or colon before
something that is not blank. -/
def isIndicator (c : Char) : Bool :=
  isFlowMark c || ['-', '?', ':', '#', '&', '*', '!', '|', '>', '\'', '"', '%', '@', '\x60'].contains c

/-- Whether a plain scalar begins here. -/
def startsPlain (inFlow : Bool) : List Char → Bool
  | [] => false
  | c :: rest =>
    if c = '-' then !startsBlank rest
    else if c = '?' ∨ c = ':' then !inFlow && !startsBlank rest
    else !startsBlank [c] && !isIndicator c

/-- Whether a word of a plain scalar ends before this. -/
def endsWord (inFlow : Bool) : List Char → Bool
  | [] => true
  | c :: rest => (c == ':' && startsBlank rest) || (inFlow && isFlowMark c)

/-- In brackets a colon may not stand before one of their marks. -/
def isLooseColon (inFlow : Bool) : List Char → Bool
  | ':' :: next :: _ => inFlow && (next == '?' || isFlowMark next)
  | _ => false

/-- Whether a plain scalar ends where a new word would begin. -/
def endsPlain (inFlow : Bool) (least : Nat) (p : Place) (cs : List Char) : Bool :=
  (!inFlow && p.column < least) || (p.column == 0 && startsSeparator cs) || cs.head? == some '#'

/-- Reads a plain scalar.  Outside of brackets its further lines start at a column no smaller than
`least`; no tab may stand left of that. -/
def scanPlain (inFlow : Bool) (least : Nat) :
    (inWord : Bool) → Gap → (text : List Char) → Place → List Char → Option Scanned
  | _, gap, text, p, [] => some ⟨text.reverse, gap.isBroken, ⟨p, []⟩⟩
  | inWord, gap, text, p, c :: rest =>
    if isBlank c then
      if gap.isBroken ∧ p.column < least ∧ c = '\t' then none
      else scanPlain inFlow least false (gap.onBlank c) text (p.after c) rest
    else if isBreak c then scanPlain inFlow least false (gap.onBreak c) text (p.after c) rest
    else if !inWord ∧ endsPlain inFlow least p (c :: rest) then
      some ⟨text.reverse, gap.isBroken, ⟨p, c :: rest⟩⟩
    else if isLooseColon inFlow (c :: rest) then none
    else if endsWord inFlow (c :: rest) then
      some ⟨text.reverse, gap.isBroken, ⟨p, c :: rest⟩⟩
    else scanPlain inFlow least true .none (c :: (gap.text.reverse ++ text)) (p.after c) rest

/-! ## Quoted scalars -/

/-- Reads on behind a single quote. -/
def scanSingle (gap : Gap) (text : List Char) (p : Place) : List Char → Option Scanned
  | [] => none
  | '\'' :: '\'' :: rest =>
    scanSingle .none ('\'' :: (gap.text.reverse ++ text)) ((p.after '\'').after '\'') rest
  | '\'' :: rest => some ⟨text.reverse ++ gap.text, false, ⟨p.after '\'', rest⟩⟩
  | c :: rest =>
    if isBlank c then scanSingle (gap.onBlank c) text (p.after c) rest
    else if isBreak c then scanSingle (gap.onBreak c) text (p.after c) rest
    else if p.column = 0 ∧ startsSeparator (c :: rest) then none
    else scanSingle .none (c :: (gap.text.reverse ++ text)) (p.after c) rest

/-- The characters that single letters after a backslash stand for. -/
def escapes : List (Char × Nat) :=
  [('0', 0), ('a', 7), ('b', 8), ('t', 9), ('\t', 9), ('n', 10), ('v', 11), ('f', 12), ('r', 13),
    ('e', 27), (' ', 32), ('"', 34), ('/', 47), ('\\', 92), ('N', 0x85), ('_', 0xA0),
    ('L', 0x2028), ('P', 0x2029)]

/-- How many hexadecimal digits follow a letter after a backslash. -/
def escapeWidth? : Char → Option Nat
  | 'x' => some 2
  | 'u' => some 4
  | 'U' => some 8
  | _ => none

/-- The number that hexadecimal digits denote. -/
def hexNumber? (digits : List Char) : Option Nat :=
  digits.foldlM (fun n c => (Text.hexValue? c).map (n * 16 + ·)) 0

/-- The character of an escape, after its backslash, and how many characters it takes. -/
def readEscape? : List Char → Option (Char × Nat)
  | [] => none
  | c :: rest => match escapes.lookup c, escapeWidth? c with
    | some n, _ => some (Char.ofNat n, 1)
    | none, some width =>
      if rest.length < width then none
      else match hexNumber? (rest.take width) with
        | some n => if n.isValidChar then some (Char.ofNat n, 1 + width) else none
        | none => none
    | none, none => none

/-- Reads on behind a double quote. -/
def scanDouble : (bound : Nat) → Gap → (text : List Char) → Cursor → Option Scanned
  | 0, _, _, _ => none
  | bound + 1, gap, text, at_ =>
    let soFar := gap.text.reverse ++ text
    match at_.rest with
    | [] => none
    | '"' :: _ => some ⟨soFar.reverse, false, at_.skip 1⟩
    | '\\' :: rest =>
      if (rest.head?.map isBreak).getD false then
        scanDouble bound (.joint []) soFar (at_.skip 2)
      else match readEscape? rest with
        | some (c, width) => scanDouble bound .none (c :: soFar) (at_.skip (1 + width))
        | none => none
    | c :: rest =>
      if isBlank c then scanDouble bound (gap.onBlank c) text (at_.skip 1)
      else if isBreak c then scanDouble bound (gap.onBreak c) text (at_.skip 1)
      else if at_.place.column = 0 ∧ startsSeparator (c :: rest) then none
      else scanDouble bound .none (c :: soFar) (at_.skip 1)

/-! ## Block scalars -/

/-- What becomes of the line breaks at the end. -/
inductive Chomp where
  | clip
  | strip
  | keep
deriving DecidableEq, Repr

def chomp? : List Char → Option Chomp
  | '+' :: _ => some .keep
  | '-' :: _ => some .strip
  | _ => none

/-- Reads the marks behind a bar or an angle bracket: what becomes of the line breaks at the end,
and how much deeper than what surrounds it the text is indented.  Either may stand first.  The
digit is not zero. -/
def readMarks? (at_ : Cursor) : Option (Chomp × Option Nat × Cursor) :=
  let digit? (c : Cursor) : Option Nat := (c.rest.head?.filter Char.isDigit).map fun x => x.toNat - 48
  let indent? (c : Cursor) : Option (Option Nat × Cursor) := match digit? c with
    | some 0 => none
    | some n => some (some n, c.skip 1)
    | none => some (none, c)
  match chomp? at_.rest with
  | some chomp => (indent? (at_.skip 1)).map fun (indent, at_) => (chomp, indent, at_)
  | none => (indent? at_).map fun (indent, at_) => match indent, chomp? at_.rest with
    | some n, some chomp => (chomp, some n, at_.skip 1)
    | indent, _ => (.clip, indent, at_)

/-- The blanks before a line of a block scalar, with the empty lines before it. -/
structure Margin where
  /-- The rightmost column that was reached. -/
  deepest : Nat
  /-- The line breaks of the empty lines, the latest first. -/
  breaks : List Char
  cursor : Cursor

/-- Passes over indentation, up to a column if one is given, and over empty lines.  Where blanks
indent, no tab may stand. -/
def passMargin (indent : Option Nat) (deepest : Nat) (breaks : List Char) (p : Place) :
    List Char → Option Margin
  | [] => some ⟨max deepest p.column, breaks, ⟨p, []⟩⟩
  | c :: rest =>
    let inMargin := (indent.map fun n => decide (p.column < n)).getD true
    if inMargin ∧ c = ' ' then passMargin indent deepest breaks (p.after c) rest
    else if inMargin ∧ c = '\t' then none
    else if isBreak c then
      passMargin indent (max deepest p.column) (c :: breaks) (p.after c) rest
    else some ⟨max deepest p.column, breaks, ⟨p, c :: rest⟩⟩

/-- What has been gathered of a block scalar, the latest first. -/
structure Gathered where
  text : List Char
  /-- The line break behind the last line, if there is one. -/
  last : List Char
  /-- The line breaks of the empty lines after it. -/
  empty : List Char
  /-- Whether the last line began with a blank. -/
  indented : Bool

/-- Where lines are folded, a line feed between two that do not begin with a blank is a space, or
nothing if empty lines follow it. -/
def Gathered.withBreaks (g : Gathered) (literal indented : Bool) : List Char :=
  if !literal ∧ g.last = ['\n'] ∧ !g.indented ∧ !indented then
    if g.empty = [] then ' ' :: g.text else g.empty ++ g.text
  else g.empty ++ (g.last ++ g.text)

/-- Gathers the lines that start at a column. -/
def gatherLines (literal : Bool) (indent : Nat) :
    (bound : Nat) → Gathered → Cursor → Option (Gathered × Cursor)
  | 0, _, _ => none
  | bound + 1, g, at_ =>
    if at_.place.column = indent ∧ at_.rest ≠ [] then
      let indented := startsWithAny [' ', '\t'] at_.rest
      let line := at_.rest.takeWhile fun c => !isBreak c
      let behind := at_.pass fun c => !isBreak c
      match passMargin (some indent) 0 [] (behind.skip 1).place (behind.skip 1).rest with
      | some m => gatherLines literal indent bound
          { text := line.reverse ++ g.withBreaks literal indented
            last := behind.rest.take 1
            empty := m.breaks
            indented := indented }
          m.cursor
      | none => none
    else some (g, at_)

/-- Reads on behind a bar or an angle bracket, within a block that stands in a column, if there is
one. -/
def scanBlock (literal : Bool) (parent : Option Nat) (at_ : Cursor) : Option Scanned := do
  let (chomp, given, at_) ← readMarks? at_
  let at_ ← at_.passRemark.endLine?
  let within := (parent.map (· + 1)).getD 0
  let indent? := given.map fun n => (parent.getD 0) + n
  let m ← passMargin indent? 0 [] at_.place at_.rest
  let indent := indent?.getD (max 1 (max within m.deepest))
  let (g, at_) ← gatherLines literal indent (at_.rest.length + 1)
    ⟨[], [], m.breaks, false⟩ m.cursor
  let text := match chomp with
    | .strip => g.text
    | .clip => g.last ++ g.text
    | .keep => g.empty ++ (g.last ++ g.text)
  pure ⟨text.reverse, true, at_⟩

end QueryCache.Yaml
