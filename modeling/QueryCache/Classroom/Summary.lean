import QueryCache.Classroom.Record
import Std.Data.HashMap
/-!
# Summaries

What the screens of the classroom show, derived from cached answers.  An answer that is
missing or does not list records of the kind wanted counts as an empty list.
-/

namespace QueryCache.Classroom

/-- The records listed in the input at a place, if it lists such records. -/
def recordsAt {α : Type} (read : Json → Option α) (inputs : List Json) (place : Nat) : List α :=
  (inputs[place]? >>= readList read).getD []

/-- A class with the number of its lessons. -/
structure ClassOverview where
  record : Class
  lessons : Nat
deriving DecidableEq, Repr

/-- Counts an id once more. -/
def bump (tally : Std.HashMap RecordId Nat) (id : RecordId) : Std.HashMap RecordId Nat :=
  tally.insert id (tally.getD id 0 + 1)

/-- How many of the lessons name each id. -/
def lessonTally (lessons : List Lesson) : Std.HashMap RecordId Nat :=
  lessons.foldl (fun tally l => bump tally l.classId) ∅

/-- The classes in order, each with how many of the lessons name its id. -/
def overviews (classes : List Class) (lessons : List Lesson) : List ClassOverview :=
  let tally := lessonTally lessons
  classes.map fun c => ⟨c, tally.getD c.id 0⟩

/-- Inputs: classes, lessons. -/
def classesWithLessonCounts (inputs : List Json) : List ClassOverview :=
  overviews (recordsAt Class.ofJson? inputs 0) (recordsAt Lesson.ofJson? inputs 1)

/-- Input: messages. -/
def unreadMessageCount (inputs : List Json) : Nat :=
  (recordsAt Message.ofJson? inputs 0).countP fun m => !m.isRead

/-- More points stand higher; among equals the name decides. -/
def Standing.before (a b : Standing) : Bool :=
  decide (b.points < a.points) || (a.points == b.points && decide (a.name ≤ b.name))

/-- Input: the leaderboard.  Entries that nothing tells apart keep their order. -/
def leaderboard (inputs : List Json) : List Standing :=
  (recordsAt Standing.ofJson? inputs 0).mergeSort Standing.before

/-- The mean of some scores, summed in order. -/
def meanScore (scores : List Binary64) : Binary64 :=
  let total := scores.foldl (fun sum x => sum + x.toFloat) 0.0
  .ofFloat (total / scores.length.toUInt64.toFloat)

/-- The scores given in a class. -/
def scoresOf (assessments : List Assessment) (classId : RecordId) : List Binary64 :=
  assessments.filterMap fun a => if a.classId = classId then a.averageScore else none

/-- Input: assessments.  The mean of each class that has a score, in the order of ids. -/
def averageScoreByClass (inputs : List Json) : List (RecordId × Binary64) :=
  let assessments := recordsAt Assessment.ofJson? inputs 0
  let graded := (assessments.filter fun a => a.averageScore.isSome).map Assessment.classId
  (graded.eraseDups.mergeSort RecordId.before).map fun id =>
    (id, meanScore (scoresOf assessments id))

/-- The summaries by name. -/
inductive Summary where
  | classesWithLessonCounts
  | unreadMessageCount
  | leaderboard
  | averageScoreByClass
deriving DecidableEq, Repr

/-- What a summary shows. -/
inductive Shown where
  | overviews (classes : List ClassOverview)
  | count (n : Nat)
  | standings (entries : List Standing)
  | averages (means : List (RecordId × Binary64))
deriving DecidableEq, Repr

namespace Summary

def all : List Summary :=
  [classesWithLessonCounts, unreadMessageCount, leaderboard, averageScoreByClass]

def name : Summary → String
  | classesWithLessonCounts => "classes_with_lesson_counts"
  | unreadMessageCount => "unread_message_count"
  | leaderboard => "leaderboard"
  | averageScoreByClass => "average_score_by_class"

def ofName? (name : String) : Option Summary := all.find? fun s => s.name == name

def compute : Summary → List Json → Shown
  | classesWithLessonCounts, inputs => .overviews (Classroom.classesWithLessonCounts inputs)
  | unreadMessageCount, inputs => .count (Classroom.unreadMessageCount inputs)
  | leaderboard, inputs => .standings (Classroom.leaderboard inputs)
  | averageScoreByClass, inputs => .averages (Classroom.averageScoreByClass inputs)

end Summary

end QueryCache.Classroom
