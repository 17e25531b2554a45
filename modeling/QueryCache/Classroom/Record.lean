import QueryCache.Json.Printer
/-!
# Records of the classroom server

Lists arrive bare or under `items`.  A record is an object, whose further fields are ignored,
or an array of its fields in order, which may leave out optional ones at the end but has
nothing after the last.  Ids are integers of sixty-four bits or texts; records made on the
client carry texts until the server has numbered them.

Every kind of record is read by `ofJson?` and written by `toJson`, which writes optional
fields as null when they are missing.
-/

namespace QueryCache.Classroom

/-- The text an id has in paths and tags.  Only texts and numbers are ids. -/
def idText? : Json → Option String
  | .str s => some s
  | .num n => some (Json.num n).text
  | _ => none

/-- Whether an integer fits sixty-four bits with a sign. -/
def fitsWord (n : Int) : Bool := decide (-0x8000000000000000 ≤ n) && decide (n < 0x8000000000000000)

/-- An integer of sixty-four bits. -/
def word? : Json → Option Int
  | .num (.int n) => if fitsWord n then some n else none
  | _ => none

/-- The id of a record. -/
inductive RecordId where
  | number (n : Int)
  | text (s : String)
deriving DecidableEq, Repr, Hashable

namespace RecordId

def ofJson? : Json → Option RecordId
  | .str s => some (text s)
  | v => (word? v).map number

def toJson : RecordId → Json
  | number n => .num (.int n)
  | text s => .str s

def display : RecordId → String
  | number n => String.ofList (Json.intText n)
  | text s => s

/-- Numbers in order, and then texts in order. -/
def before : RecordId → RecordId → Bool
  | number m, number n => decide (m ≤ n)
  | number _, text _ => true
  | text _, number _ => false
  | text s, text t => decide (s ≤ t)

end RecordId

/-- A value that has the form of a record with so many fields. -/
def isRecord (fields : Nat) : Json → Bool
  | .obj _ => true
  | .arr items => items.length ≤ fields
  | _ => false

/-- A field of a record: by name in an object, by place in an array. -/
def field? (place : Nat) (name : String) : Json → Option Json
  | .arr items => items[place]?
  | v => v.field? name

/-- A field that may be missing or null. -/
def optional {α : Type} (read : Json → Option α) : Option Json → Option (Option α)
  | none | some .null => some none
  | some v => (read v).map some

/-- An optional field as it is written. -/
def orNull {α : Type} (write : α → Json) : Option α → Json
  | some a => write a
  | none => .null

structure Class where
  id : RecordId
  name : String
  subject : Option String
  teacherId : Option RecordId
deriving DecidableEq, Repr

def Class.ofJson? (v : Json) : Option Class := do
  guard (isRecord 4 v)
  let id ← field? 0 "id" v >>= RecordId.ofJson?
  let name ← field? 1 "name" v >>= Json.text?
  let subject ← optional Json.text? (field? 2 "subject" v)
  let teacherId ← optional RecordId.ofJson? (field? 3 "teacher_id" v)
  pure ⟨id, name, subject, teacherId⟩

def Class.toJson (c : Class) : Json :=
  .ofFields [("id", c.id.toJson), ("name", .str c.name), ("subject", orNull .str c.subject),
    ("teacher_id", orNull RecordId.toJson c.teacherId)]

structure Lesson where
  id : RecordId
  classId : RecordId
  title : String
deriving DecidableEq, Repr

def Lesson.ofJson? (v : Json) : Option Lesson := do
  guard (isRecord 3 v)
  let id ← field? 0 "id" v >>= RecordId.ofJson?
  let classId ← field? 1 "class_id" v >>= RecordId.ofJson?
  let title ← field? 2 "title" v >>= Json.text?
  pure ⟨id, classId, title⟩

def Lesson.toJson (l : Lesson) : Json :=
  .ofFields [("id", l.id.toJson), ("class_id", l.classId.toJson), ("title", .str l.title)]

/-- The double nearest to a number. -/
def double? : Json → Option Binary64
  | .num (.float x) => some x
  | .num (.int n) =>
    let magnitude := Binary64.ofFloat n.natAbs.toUInt64.toFloat
    some (if n < 0 then magnitude.neg else magnitude)
  | _ => none

structure Assessment where
  id : RecordId
  classId : RecordId
  title : String
  /-- The mean score in percent, missing until graded. -/
  averageScore : Option Binary64
deriving DecidableEq, Repr

def Assessment.ofJson? (v : Json) : Option Assessment := do
  guard (isRecord 4 v)
  let id ← field? 0 "id" v >>= RecordId.ofJson?
  let classId ← field? 1 "class_id" v >>= RecordId.ofJson?
  let title ← field? 2 "title" v >>= Json.text?
  let averageScore ← optional double? (field? 3 "average_score" v)
  pure ⟨id, classId, title, averageScore⟩

def Assessment.toJson (a : Assessment) : Json :=
  .ofFields [("id", a.id.toJson), ("class_id", a.classId.toJson), ("title", .str a.title),
    ("average_score", orNull (fun x => .num (.float x)) a.averageScore)]

structure Message where
  id : RecordId
  subject : String
  senderId : Option RecordId
  isRead : Bool
deriving DecidableEq, Repr

/-- A flag that counts as unset when it is missing. -/
def flag? : Option Json → Option Bool
  | none => some false
  | some (.bool b) => some b
  | some _ => none

def Message.ofJson? (v : Json) : Option Message := do
  guard (isRecord 4 v)
  let id ← field? 0 "id" v >>= RecordId.ofJson?
  let subject ← field? 1 "subject" v >>= Json.text?
  let senderId ← optional RecordId.ofJson? (field? 2 "sender_id" v)
  let isRead ← flag? (field? 3 "is_read" v)
  pure ⟨id, subject, senderId, isRead⟩

def Message.toJson (m : Message) : Json :=
  .ofFields [("id", m.id.toJson), ("subject", .str m.subject),
    ("sender_id", orNull RecordId.toJson m.senderId), ("is_read", .bool m.isRead)]

/-- A place on the leaderboard. -/
structure Standing where
  userId : RecordId
  name : String
  points : Int
deriving DecidableEq, Repr

def Standing.ofJson? (v : Json) : Option Standing := do
  guard (isRecord 3 v)
  let userId ← field? 0 "user_id" v >>= RecordId.ofJson?
  let name ← field? 1 "name" v >>= Json.text?
  let points ← field? 2 "points" v >>= word?
  pure ⟨userId, name, points⟩

def Standing.toJson (s : Standing) : Json :=
  .ofFields [("user_id", s.userId.toJson), ("name", .str s.name), ("points", .num (.int s.points))]

/-- The items of an answer that lists something: bare, or under `items`. -/
def listed (answer : Json) : Json := (answer.field? "items").getD answer

/-- Reads an answer that lists records.  One that is none spoils the list. -/
def readList {α : Type} (read : Json → Option α) (answer : Json) : Option (List α) :=
  (listed answer).items? >>= List.mapM read

end QueryCache.Classroom
