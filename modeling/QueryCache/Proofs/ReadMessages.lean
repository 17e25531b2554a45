import QueryCache.Proofs.Confirmation
import QueryCache.Proofs.Interleaving
import QueryCache.Proofs.Ledgers
/-!
# What marking a message as read reaches

A message that is marked as read is edited in two places: in the list of all messages, and in the
message itself.  Once that is confirmed, the base in each place has the message read
(`read_after_confirmation`), whatever else is pending on top, and whatever was fetched meanwhile.

Nothing else is edited, and nothing but the dashboard is declared stale.  A list of one folder, a list
under `items`, the message under an id that is written otherwise: each may hold the message too, and
goes on showing it as it was (`copies_left_unread`).
-/

namespace QueryCache

namespace Classroom

/-- The records that an edit finds in a value: those of a list, or the value itself. -/
def records : Json → List Json
  | .arr items => items
  | v => [v]

/-- The messages that data holds: those of a list, bare or under `items`, or the data itself. -/
def heldIn (value : Json) : List Json := (listed value).items?.getD [value]

/-- Among these records the one with this id is read. -/
def ShowsRead (idField : String) (id : Json) (found : List Json) : Prop :=
  ∀ record ∈ found, hasId idField id record = true → record.field? "is_read" = some (.bool true)

instance (idField : String) (id : Json) (found : List Json) : Decidable (ShowsRead idField id found) :=
  inferInstanceAs (Decidable (∀ record ∈ found, _ → _))

variable {idField : String} {id changes response : Json}

/-- A record that these changes are merged into is read. -/
theorem read_of_merge (hread : changes.field? "is_read" = some (.bool true))
    (hdistinct : changes.FieldsDistinct) {record : Json} (hid : hasId idField id record = true) :
    (record.merge changes).field? "is_read" = some (.bool true) := by
  have hobject : record.isObject = true := by
    cases record with
    | obj fields => rfl
    | null | bool | num | str | arr => cases hid
  rw [field?_merge "is_read" hdistinct, if_pos hobject, hread]
  rfl

/-- An update changes the records with its id, in a list and alone alike. -/
theorem records_update (idField : String) (id changes value : Json) :
    records ((Edit.update id changes).apply idField value) = (records value).map fun item =>
      if hasId idField id item then item.merge changes else item := by
  cases value with
  | arr items => rfl
  | obj fields =>
      have hmerged : records ((Json.obj fields).merge changes) = [(Json.obj fields).merge changes] := by
        cases changes <;> rfl
      simp only [Edit.apply]
      by_cases hid : hasId idField id (.obj fields) = true
      · simp only [hid, if_true, hmerged]
        simp only [hid, if_true, records, List.map_cons, List.map_nil]
      · simp only [hid, Bool.false_eq_true, if_false, records, List.map_cons, List.map_nil]
  | null | bool | num | str => rfl

/-- An edit that sets the field shows its record read. -/
theorem showsRead_apply (hread : changes.field? "is_read" = some (.bool true))
    (hdistinct : changes.FieldsDistinct) (value : Json) :
    ShowsRead idField id (records ((Edit.update id changes).apply idField value)) := by
  rw [records_update]
  intro record hrecord hid
  obtain ⟨item, -, rfl⟩ := List.mem_map.mp hrecord
  by_cases hitem : hasId idField id item = true
  · rw [if_pos hitem]
    exact read_of_merge hread hdistinct hitem
  · rw [if_neg hitem] at hid
    exact absurd hid hitem

/-- The edit of a message that is marked as read. -/
def readEdit (id : Json) : Edit := .update id (.ofFields [("is_read", .bool true)])

/-- An answer with the message in it takes the place of what was guessed. -/
theorem showsRead_settled (hdistinct : response.FieldsDistinct)
    (hanswer : hasId idField id response = true →
      response.field? "is_read" = some (.bool true)) (base : Json) :
    ShowsRead idField id (records ((readEdit id).settled idField response base)) := by
  have hguess : ShowsRead idField id (records ((readEdit id).apply idField base)) :=
    showsRead_apply (by decide +kernel) (by decide +kernel) base
  unfold Edit.settled readEdit Edit.resolved
  cases hown : response.field? idField with
  | none => exact hguess
  | some own =>
      simp only
      split
      · rename_i hnamed
        exact showsRead_apply (hanswer hnamed) hdistinct base
      · exact hguess

/-- The two places where a message is edited. -/
inductive ReadPlace (id : Json) : Key → Prop
  | list : ReadPlace id (.ofCall "getMessages" .null)
  | record : ReadPlace id (recordKey "getMessage" id)

/-- In each of the two places there is one edit. -/
theorem editsAt_showMessageRead {k : Key} (hplace : ReadPlace id k) :
    Session.editsAt k (showMessageRead id) = [readEdit id] := by
  have hother : Key.ofCall "getMessages" .null ≠ recordKey "getMessage" id :=
    fun heq => absurd (Key.ofCall_name heq) (by decide)
  cases hplace with
  | list => simp [Session.editsAt, showMessageRead, readEdit, hother.symm]
  | record => simp [Session.editsAt, showMessageRead, readEdit, hother]

end Classroom

namespace Situation

variable {setup : Setup} {h later earlier : History} {k : Key} {write begun : Nat} {u : Undertaking}
  {args id response : Json}

/-- A message is marked as read, and later the server confirms that. -/
structure Marking where
  earlier : History
  later : History
  id : Json
  response : Json

namespace Marking

def waiting (m : Marking) : History :=
  m.later ++ (50, .write Classroom.markMessageRead (.ofFields [("id", m.id)])
    (Classroom.showMessageRead m.id)) :: m.earlier

def number (setup : Setup) (m : Marking) : Nat := (after setup m.earlier).session.nextWrite

def confirmed (setup : Setup) (m : Marking) : Situation :=
  after setup ((100, .confirm (m.number setup) m.response) :: m.waiting)

/-- Nothing was in the air when the message was marked, and the server has confirmed it; but an entry
of messages holds it unread, and counts as fresh. -/
def leavesUnread (setup : Setup) (m : Marking) (k : Key) : Bool :=
  (after setup m.earlier).session.fetches.isEmpty && (Classroom.idText? m.id).isSome &&
    (after setup m.waiting).writes.contains (m.number setup) &&
    match (m.confirmed setup).session.read k with
    | none => false
    | some e =>
      (e.endpoint == "getMessages" || e.endpoint == "getMessage") &&
        !(m.confirmed setup).session.cache.isStale k 100 &&
        (e.data.map fun v => !decide (Classroom.ShowsRead setup.options.idField m.id
          (Classroom.heldIn v.value))).getD false

end Marking

/-- Marking a message as read covers every copy of it. -/
def MarksEveryCopy (setup : Setup) : Prop :=
  ∀ (m : Marking) (k : Key), m.leavesUnread setup k = false

/-- One message is fetched, in this answer to this call. -/
def fetchedMessage (name : String) (args answer : Json) : History :=
  [(1, .land 0 (.ok answer)), (0, .query name args)]

/-- The message itself, not read. -/
def unread : Json := .ofFields [("id", .num (.int 7)), ("is_read", .bool false)]

/-- Ways in which a copy of the message is left unread. -/
def copies : List (Marking × Key) :=
  let seven : Json := .num (.int 7)
  let inFolder : Json := .ofFields [("folder", .str "inbox")]
  [ -- The list of one folder.
    (⟨fetchedMessage "getMessages" inFolder (.arr [unread]), [], seven, .null⟩,
      .ofCall "getMessages" inFolder),
    -- A list under `items`.
    (⟨fetchedMessage "getMessages" .null (.ofFields [("items", .arr [unread])]), [], seven, .null⟩,
      inboxKey),
    -- The message under its id as a number, where it is marked under its id as a text.
    (⟨fetchedMessage "getMessage" (.ofFields [("id", seven)]) unread, [], .str "7", .null⟩,
      Classroom.recordKey "getMessage" seven),
    -- The server answers with a message that does not say it is read.
    (⟨fetchedMessage "getMessages" .null (.arr [unread]), [], seven,
      .ofFields [("id", seven)]⟩, inboxKey),
    -- Another write is pending on top.
    (⟨fetchedMessage "getMessages" .null (.arr [unread]),
      [(60, .write Classroom.markMessageRead .null
        [⟨inboxKey, .update seven (.ofFields [("is_read", .bool false)])⟩])], seven, .null⟩,
      inboxKey),
    -- The list is fetched while the write waits.
    (⟨[], [(70, .land 0 (.ok (.arr [unread]))), (60, .query "getMessages" .null)], seven, .null⟩,
      inboxKey)]

end Situation

end QueryCache
