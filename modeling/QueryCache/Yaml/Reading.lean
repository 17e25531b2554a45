import QueryCache.Yaml.Node
import QueryCache.Yaml.Plain
/-!
# Reading values off a YAML document

What a scalar means depends on who reads it.  Where a text is wanted every scalar is one, `5` and
`~` included.  Where a number is wanted only a plain scalar is one, whatever its tag, or a block
of lines that is tagged as an integer.  Where any value will do, the tag says what a scalar is to
be; without a tag quotes make it a text.  A tag that means nothing outside of the document is
refused there.

An empty plain scalar serves as the empty sequence or mapping too.

A place that refers to a node is read as that node.  A document may contain itself that way, so
collections stand within each other only to a certain depth, and only so many references are
followed.  What is passed over unread is not bound by either.
-/

namespace QueryCache.Yaml

/-- A document that is read, and how many collections may still be entered. -/
structure Position where
  document : Document
  room : Nat

/-- Reading values; the state counts the references that were followed. -/
abbrev Reading := ReaderT Position (StateT Nat Option)

/-- How deep collections may stand within each other. -/
def maxDepth : Nat := 128

namespace Tag

/-- The octets of a tag of the language itself. -/
def core (name : String) : Tag := ofText ("tag:yaml.org,2002:" ++ name)

/-- Whether a tag means nothing outside of its document, and is a text. -/
def isLocal (t : Tag) : Bool := t.head? == some 33 && (String.fromUTF8? ⟨t.toArray⟩).isSome

end Tag

/-- The JSON value of a scalar. -/
def jsonOfScalar? (tag : Option Tag) (style : Style) (text : String) : Option Json :=
  match tag with
  | none => if style = .plain then jsonOfPlain? text else some (.str text)
  | some t =>
    if t.isLocal then none
    else if t = Tag.core "bool" then (boolOfText? text).map .bool
    else if t = Tag.core "int" then (integerOfText? text).bind jsonOfInteger?
    else if t = Tag.core "float" then (decimalOfText? text).map Decimal.toJson
    else if t = Tag.core "null" then if isNullWord text then some .null else none
    else if t.head? = some 33 ∧ style = .plain then jsonOfPlain? text
    else some (.str text)

namespace Reading

/-- Reads inside a collection. -/
def inside {α : Type} (r : Reading α) : Reading α := do
  let p ← read
  match p.room with
  | 0 => failure
  | room + 1 => withReader (fun _ => { p with room := room }) r

/-- The node itself, or the one that it refers to. -/
def follow : Node Nat → Reading (Node Nat)
  | .reference k => do
    let p ← read
    let followed ← get
    if followed ≥ p.document.patience then failure
    set (followed + 1)
    match p.document.targets.lookup k with
    | some n => return n
    | none => failure
  | n => return n

/-- Whether an empty plain scalar stands here. -/
def isEmpty : Node Nat → Bool
  | .scalar _ .plain "" => true
  | _ => false

def text (n : Node Nat) : Reading String := do
  match ← follow n with
  | .scalar _ _ text => return text
  | _ => failure

/-- The number that a scalar denotes, if it is at most so large. -/
def natural (most : Nat) (n : Node Nat) : Reading Nat := do
  match ← follow n with
  | .scalar p style text =>
    if style = .plain ∨ (style = .literal ∧ p.tag = some (Tag.core "int")) then
      match (naturalOfText? text).filter (· ≤ most) with
      | some k => return k
      | none => failure
    else failure
  | _ => failure

/-- Whether nothing is given, or expressly null.  Only the words for null bear the tag of null. -/
def isNull : Node Nat → Reading Bool
  | .scalar p .plain text =>
    if p.tag = some (Tag.core "null") then
      if isNullWord text then return true else failure
    else return p.tag.isNone && isNullText text
  | _ => return false

/-- Reads each item of a sequence. -/
def each {α : Type} (item : Node Nat → Reading α) (n : Node Nat) : Reading (List α) := do
  match ← follow n with
  | .sequence _ items => inside (items.mapM item)
  | n => if isEmpty n then return [] else failure

/-- Reads each value of a mapping, whose keys are texts. -/
def eachField {α : Type} (value : String → Node Nat → Reading α) (n : Node Nat) :
    Reading (List (String × α)) := do
  match ← follow n with
  | .mapping _ pairs => inside (pairs.mapM fun (k, v) => do
      let name ← text k
      return (name, ← value name v))
  | n => if isEmpty n then return [] else failure

/-- The JSON value that a node denotes, if collections stand within each other to this depth. -/
def jsonWithin : (depth : Nat) → Node Nat → Reading Json
  | depth, n => do
    match ← follow n, depth with
    | .scalar p style text, _ =>
      match jsonOfScalar? p.tag style text with
      | some v => return v
      | none => failure
    | .sequence p items, depth + 1 =>
      if (p.tag.map Tag.isLocal).getD false then failure
      return .arr (← inside (items.mapM (jsonWithin depth)))
    | .mapping p pairs, depth + 1 =>
      if (p.tag.map Tag.isLocal).getD false then failure
      return Json.ofFields (← inside (pairs.mapM fun (k, v) => do
        let name ← text k
        return (name, ← jsonWithin depth v)))
    | _, _ => failure

/-- The JSON value that a node denotes. -/
def json (n : Node Nat) : Reading Json := do jsonWithin (← read).room n

end Reading

/-- Reads a value off a document. -/
def Document.readAs? {α : Type} (r : Node Nat → Reading α) (d : Document) : Option α :=
  (((r d.root).run ⟨d, maxDepth⟩).run 0).map Prod.fst

end QueryCache.Yaml
