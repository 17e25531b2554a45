import QueryCache.Decimal.Binary64
/-!
# JSON values

Arguments, answers and edits are JSON values.  Numbers keep the distinction the wire makes:
a number written without fraction and exponent that fits sixty-four bits is an integer, any
other is a double, and `1` and `1.0` are different values.

The fields of an object are a list.  Whoever builds objects in this library keeps that list
sorted by name and free of repetitions (`withField`, `ofFields`), so that printing needs no
further order and two objects with the same fields are the same value.  `same` is the
equality the cache compares ids with: numeric on doubles, structural elsewhere.
-/

namespace QueryCache

/-- A JSON number. -/
inductive Number where
  | int (n : Int)
  | float (x : Binary64)
deriving DecidableEq, Repr

/-- Integers never equal doubles; doubles are compared by value. -/
def Number.same : Number → Number → Bool
  | .int m, .int n => m == n
  | .float x, .float y => x.same y
  | _, _ => false

inductive Json where
  | null
  | bool (b : Bool)
  | num (n : Number)
  | str (s : String)
  | arr (items : List Json)
  | obj (fields : List (String × Json))
deriving Repr, Inhabited

namespace Json

mutual

/-- Structural equality, decided by recursion on both trees. -/
def decEq : (v w : Json) → Decidable (v = w)
  | .null, w => match w with
    | .null => isTrue rfl
    | .bool _ | .num _ | .str _ | .arr _ | .obj _ => isFalse nofun
  | .bool a, w => match w with
    | .bool b => decidable_of_iff (a = b) (by simp)
    | .null | .num _ | .str _ | .arr _ | .obj _ => isFalse nofun
  | .num a, w => match w with
    | .num b => decidable_of_iff (a = b) (by simp)
    | .null | .bool _ | .str _ | .arr _ | .obj _ => isFalse nofun
  | .str a, w => match w with
    | .str b => decidable_of_iff (a = b) (by simp)
    | .null | .bool _ | .num _ | .arr _ | .obj _ => isFalse nofun
  | .arr as, w => match w with
    | .arr bs => match decEqItems as bs with
      | isTrue h => isTrue (by rw [h])
      | isFalse h => isFalse (by simpa using h)
    | .null | .bool _ | .num _ | .str _ | .obj _ => isFalse nofun
  | .obj as, w => match w with
    | .obj bs => match decEqFields as bs with
      | isTrue h => isTrue (by rw [h])
      | isFalse h => isFalse (by simpa using h)
    | .null | .bool _ | .num _ | .str _ | .arr _ => isFalse nofun

def decEqItems : (as bs : List Json) → Decidable (as = bs)
  | [], [] => isTrue rfl
  | [], _ :: _ => isFalse nofun
  | _ :: _, [] => isFalse nofun
  | a :: as, b :: bs => match decEq a b, decEqItems as bs with
    | isTrue h, isTrue hs => isTrue (by rw [h, hs])
    | isFalse h, _ => isFalse (fun e => h (List.cons.inj e).1)
    | _, isFalse hs => isFalse (fun e => hs (List.cons.inj e).2)

def decEqFields : (as bs : List (String × Json)) → Decidable (as = bs)
  | [], [] => isTrue rfl
  | [], _ :: _ => isFalse nofun
  | _ :: _, [] => isFalse nofun
  | (k, a) :: as, (l, b) :: bs =>
    if hk : k = l then match decEq a b, decEqFields as bs with
      | isTrue h, isTrue hs => isTrue (by rw [hk, h, hs])
      | isFalse h, _ => isFalse (fun e => h (Prod.mk.inj (List.cons.inj e).1).2)
      | _, isFalse hs => isFalse (fun e => hs (List.cons.inj e).2)
    else isFalse (fun e => hk (Prod.mk.inj (List.cons.inj e).1).1)

end

instance : DecidableEq Json := decEq

mutual

/-- The equality of ids: as structural equality, but doubles are compared by value. -/
def same : Json → Json → Bool
  | .null, .null => true
  | .bool a, .bool b => a == b
  | .num a, .num b => a.same b
  | .str a, .str b => a == b
  | .arr as, .arr bs => sameItems as bs
  | .obj as, .obj bs => sameFields as bs
  | _, _ => false

def sameItems : List Json → List Json → Bool
  | [], [] => true
  | a :: as, b :: bs => same a b && sameItems as bs
  | _, _ => false

def sameFields : List (String × Json) → List (String × Json) → Bool
  | [], [] => true
  | (k, a) :: as, (l, b) :: bs => k == l && same a b && sameFields as bs
  | _, _ => false

end

/-- Sets a field in a sorted list of fields, in place of one of the same name. -/
def withField (name : String) (value : Json) : List (String × Json) → List (String × Json)
  | [] => [(name, value)]
  | (k, v) :: rest =>
    if name < k then (name, value) :: (k, v) :: rest
    else if name = k then (name, value) :: rest
    else (k, v) :: withField name value rest

/-- The object with these fields; of two with one name the later counts. -/
def ofFields (fields : List (String × Json)) : Json :=
  .obj (fields.foldl (fun acc (name, value) => withField name value acc) [])

/-- The field of that name, if the value is an object that has one. -/
def field? (name : String) : Json → Option Json
  | .obj fields => fields.lookup name
  | _ => none

def items? : Json → Option (List Json)
  | .arr items => some items
  | _ => none

def text? : Json → Option String
  | .str s => some s
  | _ => none

def natural? : Json → Option Nat
  | .num (.int (.ofNat n)) => some n
  | _ => none

def isObject : Json → Bool
  | .obj _ => true
  | _ => false

/-- Shallow merge: the fields of `changes` replace those of the record.  Anything that is
not two objects leaves the record alone. -/
def merge (record changes : Json) : Json :=
  match record, changes with
  | .obj fields, .obj changed =>
    .obj (changed.foldl (fun acc (name, value) => withField name value acc) fields)
  | _, _ => record

/-- A field reads back as what was last written to it, and no other field is touched. -/
theorem lookup_withField (name k : String) (value : Json) (fields : List (String × Json)) :
    (withField name value fields).lookup k
      = if k = name then some value else fields.lookup k := by
  induction fields with
  | nil => grind [withField]
  | cons p rest ih =>
    obtain ⟨l, v⟩ := p
    simp only [withField]
    split
    · grind
    · split <;> grind

end Json

end QueryCache
