import QueryCache.Text.Hex
/-!
# Tables of code points

A table says something of runs of code points, which are in ascending order and apart.  It is
written in rows of entries with blanks between them, all numbers in hexadecimal digits:

* `5F` and `30-39` are the code point and the run alone, which is all there is to a property;
* `AA=61` and `FE0-FE3=20+301` give a value to each code point of the run, a sequence of numbers;
* `41-5A>61` gives 61 to the first code point of the run, and to each other a value that is as
  much greater as it is itself;
* `100-12E/2>101` does so for every other code point of the run.
-/

namespace QueryCache.Web.Domain

/-- What a table says of a run of code points. -/
structure Entry where
  first : Nat
  last : Nat
  /-- Whether every other code point of the run is left out. -/
  sparse : Bool
  /-- Whether the value grows along the run. -/
  shifts : Bool
  value : List Nat
deriving DecidableEq, Repr

namespace Entry

def contains (e : Entry) (n : Nat) : Bool :=
  e.first ≤ n && n ≤ e.last && (!e.sparse || (n - e.first) % 2 == 0)

/-- The value of a code point of the run. -/
def valueAt (e : Entry) (n : Nat) : List Nat :=
  if e.shifts then e.value.map (· + (n - e.first)) else e.value

def isHexDigit (c : Char) : Bool := (Text.hexValue? c).isSome

def hexNumber (cs : List Char) : Nat :=
  cs.foldl (fun n c => n * 16 + (Text.hexValue? c).getD 0) 0

/-- The numbers between plus signs. -/
def hexNumbers : (bound : Nat) → List Char → List Nat
  | 0, _ | _, [] => []
  | bound + 1, cs =>
    hexNumber (cs.takeWhile isHexDigit) :: hexNumbers bound ((cs.dropWhile isHexDigit).drop 1)

/-- The entry that is written so. -/
def read (cs : List Char) : Entry :=
  let first := hexNumber (cs.takeWhile isHexDigit)
  let (last, rest) := match cs.dropWhile isHexDigit with
    | '-' :: rest => (hexNumber (rest.takeWhile isHexDigit), rest.dropWhile isHexDigit)
    | rest => (first, rest)
  let (sparse, rest) := match rest with
    | '/' :: '2' :: rest => (true, rest)
    | rest => (false, rest)
  ⟨first, last, sparse, rest.head? == some '>', hexNumbers rest.length (rest.drop 1)⟩

end Entry

/-- Entries in ascending order. -/
abbrev Table := Array Entry

namespace Table

/-- The words between blanks. -/
def words (word : List Char) : List Char → List (List Char)
  | [] => [word.reverse]
  | c :: rest => if c = ' ' then word.reverse :: words [] rest else words (c :: word) rest

def ofRows (rows : List String) : Table :=
  (rows.flatMap fun row => (words [] row.toList).map Entry.read).toArray

/-- How many of the entries between two indices begin at a code point or before, with those below
the lower index. -/
def countUpTo (t : Table) (n low high : Nat) : Nat :=
  if h : low < high then
    let middle := (low + high) / 2
    if (t[middle]?.map fun e => decide (e.first ≤ n)).getD false then countUpTo t n (middle + 1) high
    else countUpTo t n low middle
  else low
termination_by high - low

/-- The entry of a code point. -/
def find? (t : Table) (n : Nat) : Option Entry :=
  match countUpTo t n 0 t.size with
  | 0 => none
  | count + 1 => (t[count]?).filter fun e => e.contains n

def holds (t : Table) (n : Nat) : Bool := (t.find? n).isSome

def value? (t : Table) (n : Nat) : Option (List Nat) := (t.find? n).map (·.valueAt n)

end Table

end QueryCache.Web.Domain
