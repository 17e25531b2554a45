import QueryCache.Classroom.Record
import QueryCache.Endpoint
import QueryCache.Tag.Cascade
/-!
# The catalog of the classroom server

The reads and writes that the server offers, the tags they provide and make stale, and the
edits that show a write before it is confirmed.

A list provides the tag of its kind and one tag for every record with an id in it; a single
record provides its own tag.  Lessons of one class also depend on that class.
-/

namespace QueryCache.Classroom

/-- An argument as it stands in paths and tags, empty if it is missing. -/
def argument (name : String) (args : Json) : String := (args.field? name >>= idText?).getD ""

/-- The parameters of these names that are given. -/
def given (names : List String) (args : Json) : List (String × String) :=
  names.filterMap fun name => (args.field? name >>= idText?).map (name, ·)

/-- The tag of a kind, and of every record with an id in a list. -/
def listTags (kind : String) (answer : Json) : List Tag :=
  .ofKind kind :: ((listed answer).items?.getD []).filterMap fun record =>
    (record.field? "id" >>= idText?).map (Tag.ofId kind)

/-- A list whose endpoint takes some parameters. -/
def listing (name path kind : String) (parameters : List String) : Endpoint where
  name := name
  request args := (Request.bare .get path).withQuery (given parameters args)
  provides _ answer := listTags kind answer
  pollClass := none
  shared := true

/-- A single record, found by its id below a path. -/
def record (name path kind : String) : Endpoint where
  name := name
  request args := .bare .get (path ++ "/" ++ argument "id" args)
  provides args _ := [.ofId kind (argument "id" args)]
  pollClass := none
  shared := true

/-- A page with a tag of its own. -/
def page (name path kind : String) (parameters : List String) : Endpoint where
  name := name
  request args := (Request.bare .get path).withQuery (given parameters args)
  provides _ _ := [.ofKind kind]
  pollClass := none
  shared := true

/-- The lessons of a class change with the class. -/
def lessons : Endpoint :=
  { listing "getLessons" "/lessons" "Lesson" ["class_id"] with
    provides := fun args answer =>
      listTags "Lesson" answer ++ ((args.field? "class_id" >>= idText?).map (Tag.ofId "Class")).toList }

def messages : Endpoint :=
  { listing "getMessages" "/messages" "Message" ["folder"] with pollClass := some "messages" }

def analytics : Endpoint :=
  { page "getAnalytics" "/analytics" "Analytics" ["period", "class_id"] with
    pollClass := some "analytics" }

/-- Raises an event.  Every call has to reach the server. -/
def trigger : Endpoint where
  name := "triggerRealtimeEvent"
  request args := (Request.bare .post "/realtime/trigger").withBody args
  provides _ _ := []
  pollClass := none
  shared := false

/-- Every read the server offers. -/
def endpoints : List Endpoint :=
  [listing "getClasses" "/classes" "Class" [],
   record "getClass" "/classes" "Class",
   lessons,
   listing "getAssessments" "/assessments" "Assessment" ["class_id"],
   messages,
   record "getMessage" "/messages" "Message",
   listing "getUsers" "/users" "User" ["role"],
   page "getLeaderboard" "/gamification/leaderboard" "Leaderboard" [],
   page "getDashboard" "/dashboard" "Dashboard" [],
   analytics,
   trigger]

/-- What a change of a resource makes stale besides. -/
def cascadeRows : List (Tag × List Tag) :=
  [(.ofKind "Class", [.ofKind "Dashboard", .ofKind "Analytics"]),
   (.ofKind "Lesson", [.ofKind "Class"]),
   (.ofKind "Assessment", [.ofKind "Analytics"]),
   (.ofKind "Message", [.ofKind "Dashboard"]),
   (.ofKind "Points", [.ofKind "Leaderboard"]),
   (.ofKind "User", [.ofKind "Dashboard"])]

def cascade : Cascade := .ofList cascadeRows

/-- How often watched entries of a class are fetched again, in milliseconds. -/
def pollIntervals : List (String × Nat) := [("messages", 30000), ("analytics", 300000)]

/-- The arguments without the id, which goes into the path. -/
def withoutId : Json → Json
  | .obj fields => .obj (fields.filter fun field => field.1 ≠ "id")
  | v => v

def createClass : Mutation where
  name := "createClass"
  request args := (Request.bare .post "/classes").withBody args
  stales _ _ := [.ofKind "Class"]
  announcement := some "Class created"

def updateClass : Mutation where
  name := "updateClass"
  request args :=
    (Request.bare .patch ("/classes/" ++ argument "id" args)).withBody (withoutId args)
  stales args _ := [.ofId "Class" (argument "id" args)]
  announcement := some "Class updated"

def deleteClass : Mutation where
  name := "deleteClass"
  request args := .bare .delete ("/classes/" ++ argument "id" args)
  stales args _ := [.ofId "Class" (argument "id" args)]
  announcement := some "Class deleted"

/-- The list and the message itself are edited in place; only the counters of the dashboard
have to be fetched again. -/
def markMessageRead : Mutation where
  name := "markMessageRead"
  request args :=
    (Request.bare .patch ("/messages/" ++ argument "id" args ++ "/read")).withBody
      (.ofFields [("is_read", .bool true)])
  stales _ _ := [.ofKind "Dashboard"]
  announcement := none

def sendMessage : Mutation where
  name := "sendMessage"
  request args := (Request.bare .post "/messages").withBody args
  stales _ _ := [.ofKind "Message"]
  announcement := some "Message sent"

def awardPoints : Mutation where
  name := "awardPoints"
  request args := (Request.bare .post "/gamification/points").withBody args
  stales args _ := [.ofKind "Points", .ofId "User" (argument "user_id" args)]
  announcement := some "Points awarded"

/-- The list of all classes. -/
def classesKey : Key := .ofCall "getClasses" .null

/-- The call of a single record. -/
def recordKey (endpoint : String) (id : Json) : Key := .ofCall endpoint (.ofFields [("id", id)])

/-- Shows a class that is being created at the top of the list, under an id that stands in
until the server has answered. -/
def showCreatedClass (standIn : String) (fields : Json) : List SpeculativeEdit :=
  let record := match fields with
    | .obj fields => .obj (Json.withField "id" (.str standIn) fields)
    | _ => .ofFields [("id", .str standIn)]
  [⟨classesKey, .insert record .front⟩]

/-- Shows the changes of a class in the list and in the class itself. -/
def showUpdatedClass (id changes : Json) : List SpeculativeEdit :=
  [⟨classesKey, .update id changes⟩, ⟨recordKey "getClass" id, .update id changes⟩]

/-- Takes a class that is being deleted off the list. -/
def showDeletedClass (id : Json) : List SpeculativeEdit := [⟨classesKey, .delete id⟩]

/-- Shows a message as read in the list and in the message itself. -/
def showMessageRead (id : Json) : List SpeculativeEdit :=
  let edit := Edit.update id (.ofFields [("is_read", .bool true)])
  [⟨.ofCall "getMessages" .null, edit⟩, ⟨recordKey "getMessage" id, edit⟩]

end QueryCache.Classroom
