import QueryCache.Json.Printer
/-!
# Edits

An edit changes a list of records, or a single record, before the server has confirmed it:
a record is added, the fields of one are replaced, one is taken out.  Records are told apart
by the field that holds their id, whose name is a parameter here.

Servers write one id as a number in one place and as a text in another, so a text and any
other value are the same id when the value is written like the text (`sameId`).

Once the server has answered, `settled` says what the edit really was: the record it returned
takes the place of the guess, and a record that has arrived on another way meanwhile is
updated in place rather than added twice.
-/

namespace QueryCache

/-- Which end of a list a new record goes to. -/
inductive Place where
  | front
  | back
deriving DecidableEq, Repr

inductive Edit where
  | insert (record : Json) (place : Place)
  /-- Replaces fields of the record with this id. -/
  | update (id changes : Json)
  | delete (id : Json)
deriving DecidableEq, Repr

/-- Whether two values are one id: `1` and `"1"` are. -/
def sameId (a b : Json) : Bool :=
  match a, b with
  | .str s, .str t => s == t
  | .str s, v | v, .str s => v.text == s
  | a, b => a.same b

/-- Whether a record has this id. -/
def hasId (idField : String) (id record : Json) : Bool :=
  match record.field? idField with
  | some own => sameId own id
  | none => false

namespace Edit

/-- The value with the edit made.  A list takes every edit; of single records only an update
of the record itself has an effect. -/
def apply (idField : String) (e : Edit) (value : Json) : Json :=
  match value, e with
  | .arr items, .insert record .front => .arr (record :: items)
  | .arr items, .insert record .back => .arr (items ++ [record])
  | .arr items, .update id changes =>
    .arr (items.map fun item => if hasId idField id item then item.merge changes else item)
  | .arr items, .delete id => .arr (items.filter fun item => !hasId idField id item)
  | .obj fields, .update id changes =>
    if hasId idField id (.obj fields) then (Json.obj fields).merge changes else .obj fields
  | value, _ => value

/-- The edit with the server's record in place of the guess, if the answer is that record. -/
def resolved (idField : String) (response : Json) (e : Edit) : Edit :=
  match response.field? idField, e with
  | some _, .insert _ place => .insert response place
  | some _, .update id changes =>
    if hasId idField id response then .update id response else .update id changes
  | _, e => e

/-- An added record that is there already becomes an update of it. -/
def upserted (idField : String) (base : Json) (e : Edit) : Edit :=
  match e, base with
  | .insert record place, .arr items => match record.field? idField with
    | some id => if items.any (hasId idField id) then .update id record else .insert record place
    | none => .insert record place
  | e, _ => e

/-- Makes a confirmed edit on what is known to be true. -/
def settled (idField : String) (response base : Json) (e : Edit) : Json :=
  ((e.resolved idField response).upserted idField base).apply idField base

end Edit

end QueryCache
