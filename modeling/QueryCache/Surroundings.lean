/-!
# Surroundings

What a program finds around it: files in folders, a folder to start from, a folder for the
user's settings, and environment variables.

A path is walked part by part from the root or from the folder the program started in.  A
part is looked for in a folder only, so a file has nothing below it.
-/

namespace QueryCache

structure Surroundings where
  /-- The files by the parts of their paths from the root. -/
  files : List (List String × String)
  /-- Folders that are there although they may hold no file. -/
  folders : List (List String)
  /-- Where the program was started. -/
  startFolder : List String
  /-- The path of the folder for settings. -/
  settingsFolder : Option String
  environment : List (String × String)

/-- What is found at a path. -/
inductive Found where
  | file (text : String)
  | folder
  | nothing
deriving DecidableEq, Repr

namespace Surroundings

/-- Whether a place is a folder: the root, a folder of its own, or one that holds a file. -/
def isFolder (s : Surroundings) (place : List String) : Bool :=
  place.isEmpty || s.folders.contains place
    || s.files.any fun (path, _) => place.isPrefixOf path && place.length < path.length

/-- Goes on from a folder by one part of a path. -/
def enter (s : Surroundings) (place : List String) (part : String) : Option (List String) :=
  if s.isFolder place then
    if part = "" ∨ part = "." then some place
    else if part = ".." then some place.dropLast
    else some (place ++ [part])
  else none

def find (s : Surroundings) (path : String) : Found :=
  if path = "" then .nothing
  else
    let start := if path.startsWith "/" then [] else s.startFolder
    match (path.splitOn "/").foldlM s.enter start with
    | none => .nothing
    | some place => match s.files.lookup place with
      | some text => .file text
      | none => if s.isFolder place then .folder else .nothing

/-- What follows the beginning of a text, if it begins so. -/
def restAfter? (start text : List Char) : Option String :=
  if start.isPrefixOf text then some (String.ofList (text.drop start.length)) else none

/-- The value of a variable, unless that is empty.  The variables are kept as texts, a name, an
equals sign and the value, and are looked up by how these texts begin; so a name that holds an
equals sign itself can reach into a value. -/
def valueOf? (s : Surroundings) (name : String) : Option String :=
  if name = "" then none
  else
    let start := name.toList ++ ['=']
    (s.environment.findSome? fun (known, value) =>
      restAfter? start (known.toList ++ '=' :: value.toList)).filter (· ≠ "")

end Surroundings

end QueryCache
