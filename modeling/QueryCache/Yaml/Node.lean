import QueryCache.Yaml.Token
/-!
# YAML documents

A document is a tree of mappings, sequences and scalars.  What is not written is an empty
scalar.  A node may be given a name, by which other places refer to it, and a tag.

A text holds one document.  Its tokens are read from left to right, with one token of
foresight.  Two forms are narrower than one might expect: a sequence may stand in the column of
the key that it belongs to, but nothing else may; and in square brackets a question mark has to
be followed by its key, for the token behind it is passed over otherwise.

Names are numbered: a name takes the number of different names before it, and a place that
refers to it the number that it has by then.  A name that is given again takes a number anew,
which the next name will share.  A number stands for the last node that took it.
-/

namespace QueryCache.Yaml

/-- A tag that is not written out in full, but known by its octets. -/
abbrev Tag := List UInt8

def Tag.ofText (s : String) : Tag := s.toUTF8.toList

/-- What is written before a node; its name is a text at first and a number later. -/
structure Properties (ν : Type) where
  anchor : Option ν
  tag : Option Tag
deriving Repr

inductive Node (ν : Type) where
  | scalar (properties : Properties ν) (style : Style) (text : String)
  | sequence (properties : Properties ν) (items : List (Node ν))
  | mapping (properties : Properties ν) (pairs : List (Node ν × Node ν))
  | reference (name : ν)
deriving Repr

/-- What stands where nothing was written. -/
def Node.empty {ν : Type} : Node ν := .scalar ⟨none, none⟩ .plain ""

/-! ## The grammar -/

/-- What short names for the beginning of tags mean. -/
abbrev Handles := List (List Char × List UInt8)

/-- The short names that need not be declared. -/
def Handles.usual : Handles :=
  [(['!'], Tag.ofText "!"), (['!', '!'], Tag.ofText "tag:yaml.org,2002:")]

/-- Reading a document off its tokens. -/
abbrev Grammar := ReaderT Handles (StateT (List Token) Option)

namespace Grammar

def peek : Grammar (Option Token) := do return (← get).head?

def advance : Grammar Unit := modify (·.drop 1)

/-- Whether one of these tokens comes next. -/
def isNext (ts : List Token) : Grammar Bool := do
  return match ← peek with
    | some t => ts.contains t
    | none => false

/-- The meaning of a tag. -/
def meaning (name : TagName) : Grammar Tag := do
  if name.handle = [] then return name.suffix
  match (← read).lookup name.handle with
  | some lead => return lead ++ name.suffix
  | none => failure

/-- The name and the tag before a node, in either order. -/
def properties : Grammar (Properties String) := do
  match ← peek with
  | some (.anchor name) =>
    advance
    match ← peek with
    | some (.tag t) =>
      advance
      return ⟨some name, some (← meaning t)⟩
    | _ => return ⟨some name, none⟩
  | some (.tag t) =>
    advance
    match ← peek with
    | some (.anchor name) =>
      advance
      return ⟨some name, some (← meaning t)⟩
    | _ => return ⟨none, some (← meaning t)⟩
  | _ => return ⟨none, none⟩

mutual

/-- A node.  Blocks may begin only where `block` says so, and a sequence in the column of its key
only where `compact` does. -/
def node : (bound : Nat) → (block compact : Bool) → Grammar (Node String)
  | 0, _, _ => failure
  | bound + 1, block, compact => do
    if let some (.reference name) := ← peek then
      advance
      return .reference name
    let p ← properties
    match ← peek, block, compact with
    | some .item, _, true => return .sequence p (← compactItems bound)
    | some (.scalar style text), _, _ =>
      advance
      return .scalar p style text
    | some .bracketOpen, _, _ =>
      advance
      return .sequence p (← flowItems bound true)
    | some .braceOpen, _, _ =>
      advance
      return .mapping p (← flowPairs bound true)
    | some .sequenceStart, true, _ =>
      advance
      return .sequence p (← items bound)
    | some .mappingStart, true, _ =>
      advance
      return .mapping p (← pairs bound)
    | _, _, _ =>
      if p.anchor.isNone && p.tag.isNone then failure
      return .scalar p .plain ""

/-- A node, or nothing before one of these tokens. -/
def nodeUnless : (bound : Nat) → (ts : List Token) → (block compact : Bool) →
    Grammar (Node String)
  | 0, _, _, _ => failure
  | bound + 1, ts, block, compact => do
    if ← isNext ts then return .empty
    node bound block compact

/-- The items of a block sequence. -/
def items : (bound : Nat) → Grammar (List (Node String))
  | 0 => failure
  | bound + 1 => do
    match ← peek with
    | some .item =>
      advance
      let n ← nodeUnless bound [.item, .blockEnd] true false
      return n :: (← items bound)
    | some .blockEnd =>
      advance
      return []
    | _ => failure

/-- The items of a sequence in the column of its key. -/
def compactItems : (bound : Nat) → Grammar (List (Node String))
  | 0 => failure
  | bound + 1 => do
    if (← peek) = some .item then
      advance
      let n ← nodeUnless bound [.item, .key, .value, .blockEnd] true false
      return n :: (← compactItems bound)
    return []

/-- The pairs of a block mapping. -/
def pairs : (bound : Nat) → Grammar (List (Node String × Node String))
  | 0 => failure
  | bound + 1 => do
    let stops : List Token := [.key, .value, .blockEnd]
    match ← peek with
    | some .key =>
      advance
      let k ← nodeUnless bound stops true true
      let v ← if (← peek) = some .value then do
          advance
          nodeUnless bound stops true true
        else pure .empty
      return (k, v) :: (← pairs bound)
    | some .blockEnd =>
      advance
      return []
    | _ => failure

/-- The value in brackets, if there is one, up to one of these tokens. -/
def flowValue : (bound : Nat) → (stops : List Token) → Grammar (Node String)
  | 0, _ => failure
  | bound + 1, stops => do
    if (← peek) = some .value then
      advance
      nodeUnless bound stops false false
    else return .empty

/-- The items in square brackets.  A pair among them is a mapping of its own. -/
def flowItems : (bound : Nat) → (first : Bool) → Grammar (List (Node String))
  | 0, _ => failure
  | bound + 1, first => do
    if (← peek) = some .bracketClose then
      advance
      return []
    if !first then
      if (← peek) = some .comma then advance else failure
    match ← peek with
    | some .bracketClose =>
      advance
      return []
    | some .key =>
      advance
      let k ← if ← isNext [.value, .comma, .bracketClose] then do
          advance
          pure Node.empty
        else node bound false false
      let v ← flowValue bound [.comma, .bracketClose]
      return .mapping ⟨none, none⟩ [(k, v)] :: (← flowItems bound false)
    | _ =>
      let n ← node bound false false
      return n :: (← flowItems bound false)

/-- The pairs in braces.  A key alone has an empty value. -/
def flowPairs : (bound : Nat) → (first : Bool) → Grammar (List (Node String × Node String))
  | 0, _ => failure
  | bound + 1, first => do
    if (← peek) = some .braceClose then
      advance
      return []
    if !first then
      if (← peek) = some .comma then advance else failure
    match ← peek with
    | some .braceClose =>
      advance
      return []
    | some .key =>
      advance
      let k ← nodeUnless bound [.value, .comma, .braceClose] false false
      let v ← flowValue bound [.comma, .braceClose]
      return (k, v) :: (← flowPairs bound false)
    | _ =>
      let k ← node bound false false
      return (k, .empty) :: (← flowPairs bound false)

end

end Grammar

/-! ## Directives -/

/-- The short names that directives declare; none may be declared twice, nor the version, which is
one of two. -/
def readDirectives : (versioned : Bool) → Handles → List Token → Option (Handles × List Token)
  | versioned, handles, .version major minor :: rest =>
    if versioned ∨ major ≠ 1 ∨ (minor ≠ 1 ∧ minor ≠ 2) then none
    else readDirectives true handles rest
  | versioned, handles, .handle name lead :: rest =>
    if (handles.lookup name).isSome then none
    else readDirectives versioned (handles ++ [(name, lead)]) rest
  | _, handles, rest => some (handles, rest)

def isDirective : Token → Bool
  | .version _ _ | .handle _ _ => true
  | _ => false

/-- The one document that tokens make up. -/
def documentOf? (ts : List Token) : Option (Node String) := do
  let bound := 3 * ts.length + 3
  let explicit := (ts.head?.map fun t => isDirective t || t == .documentStart).getD true
  let (n, rest) ← if explicit then do
      let (handles, rest) ← readDirectives false [] ts
      match rest with
      | .documentStart :: rest =>
        if (rest.head?.map fun t => isDirective t || t == .documentStart || t == .documentEnd).getD
            true then pure (Node.empty, rest)
        else ((Grammar.node bound true false).run (handles ++ .usual)).run rest
      | [] => if ts = [] then pure (Node.empty, []) else none
      | _ => none
    else ((Grammar.node bound true false).run .usual).run ts
  if rest.all (· == .documentEnd) then some n else none

/-! ## Names -/

/-- The numbers of the names so far, and how many different names there were. -/
structure Numbering where
  numbers : List (String × Nat)
  count : Nat

/-- Numbers a name that is given. -/
def Numbering.give (name : String) : StateT Numbering Option Nat := do
  let s ← get
  let known := (s.numbers.lookup name).isSome
  set (⟨(name, s.count) :: s.numbers, if known then s.count else s.count + 1⟩ : Numbering)
  return s.count

/-- Numbers what is written before a node. -/
def Properties.number (p : Properties String) : StateT Numbering Option (Properties Nat) := do
  match p.anchor with
  | some name => return ⟨some (← Numbering.give name), p.tag⟩
  | none => return ⟨none, p.tag⟩

namespace Node

mutual

/-- Numbers the names in a node; a name that is referred to has to be given before. -/
def number : Node String → StateT Numbering Option (Node Nat)
  | scalar p style text => do return scalar (← p.number) style text
  | sequence p items => do return sequence (← p.number) (← numberItems items)
  | mapping p pairs => do return mapping (← p.number) (← numberPairs pairs)
  | reference name => do
    match (← get).numbers.lookup name with
    | some k => return reference k
    | none => failure

def numberItems : List (Node String) → StateT Numbering Option (List (Node Nat))
  | [] => return []
  | n :: rest => do
    let n ← number n
    return n :: (← numberItems rest)

def numberPairs : List (Node String × Node String) → StateT Numbering Option (List (Node Nat × Node Nat))
  | [] => return []
  | (k, v) :: rest => do
    let k ← number k
    let v ← number v
    return (k, v) :: (← numberPairs rest)

end

variable {ν : Type}

mutual

/-- The nodes with names, from left to right, each before what it holds. -/
def named : Node ν → List (ν × Node ν)
  | scalar p style text => p.anchor.toList.map fun name => (name, scalar p style text)
  | sequence p items => (p.anchor.toList.map fun name => (name, sequence p items)) ++ namedItems items
  | mapping p pairs => (p.anchor.toList.map fun name => (name, mapping p pairs)) ++ namedPairs pairs
  | reference _ => []

def namedItems : List (Node ν) → List (ν × Node ν)
  | [] => []
  | n :: rest => named n ++ namedItems rest

def namedPairs : List (Node ν × Node ν) → List (ν × Node ν)
  | [] => []
  | (k, v) :: rest => named k ++ named v ++ namedPairs rest

end

mutual

/-- The length of a node, in scalars, references, beginnings and ends. -/
def length : Node ν → Nat
  | scalar _ _ _ | reference _ => 1
  | sequence _ items => 2 + lengthItems items
  | mapping _ pairs => 2 + lengthPairs pairs

def lengthItems : List (Node ν) → Nat
  | [] => 0
  | n :: rest => n.length + lengthItems rest

def lengthPairs : List (Node ν × Node ν) → Nat
  | [] => 0
  | (k, v) :: rest => k.length + v.length + lengthPairs rest

end

end Node

/-- A document, and the nodes that its places refer to. -/
structure Document where
  root : Node Nat
  /-- The latest first. -/
  targets : List (Nat × Node Nat)
  /-- How many references may be followed in all. -/
  patience : Nat

/-- The document that a text holds, if it holds exactly one. -/
def read? (s : String) : Option Document := do
  if !s.toList.all isPrintable then none
  let ts ← tokens? (unifyBreaks s.toList)
  let n ← documentOf? ts
  let (root, _) ← n.number.run ⟨[], 0⟩
  some ⟨root, root.named.reverse, 100 * root.length⟩

end QueryCache.Yaml
