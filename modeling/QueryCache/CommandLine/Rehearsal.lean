import QueryCache.CommandLine.Run
import QueryCache.Web.Playback
/-!
# Rehearsals

A rehearsal is a run of the program in a world that is made up: a few files in a folder, a few
variables, a server that plays back answers.  A rehearsal is described by a JSON object with
these fields, none of which has to be there:

* `files`: texts by their paths below the folder.  The program starts in `cwd` there, and
  looks for the user's settings in `xdg`;
* `env`: the variables;
* `replies`: the answers of the server, each with a `status`, a `body`, the target it is `for`,
  and marks if it is to `drop` the connection or to `truncate` the body;
* `until`: how many lines are logged before the user interrupts.
-/

namespace QueryCache

/-- Reads an answer to play back. -/
def Web.Cue.ofJson (v : Json) : Web.Cue :=
  let marked (name : String) : Bool := v.field? name = some (.bool true)
  { target := v.field? "for" >>= Json.text?
    status := (v.field? "status" >>= Json.natural?).getD 200
    body := (v.field? "body" >>= Json.text?).getD ""
    ending := if marked "drop" then .dropped else if marked "truncate" then .truncated else .whole }

namespace CommandLine.Rehearsal

/-- The folder that holds the files. -/
def folder : String := "rehearsal"

/-- The path of the folder. -/
def home : String := "/" ++ folder

/-- The texts in an object by their names. -/
def texts (v : Json) (name : String) : List (String × String) :=
  match v.field? name with
  | some (.obj fields) => fields.filterMap fun (name, v) => v.text?.map (name, ·)
  | _ => []

/-- Where a path below the folder leads to, whatever is there. -/
def placeOf (path : String) : List String :=
  (path.splitOn "/").foldl (fun place part =>
    if part = "" ∨ part = "." then place
    else if part = ".." then place.dropLast
    else place ++ [part]) [folder]

/-- The file that is always there and always empty. -/
def emptyFile : List String × String := (["dev", "null"], "")

/-- What is found in a rehearsal.  Of two texts for one file the later one stays. -/
def surroundings (v : Json) : Surroundings where
  files := emptyFile :: ((texts v "files").map fun (path, text) => (placeOf path, text)).reverse
  folders := [[folder], [folder, "cwd"], [folder, "xdg"]]
  startFolder := [folder, "cwd"]
  settingsFolder := some (home ++ "/xdg")
  environment := texts v "env"

/-- The world that an object describes. -/
def world (v : Json) : World Web.Playback where
  surroundings := surroundings v
  serve := Web.Playback.serve
  server := .ofCues (((v.field? "replies" >>= Json.items?).getD []).map Web.Cue.ofJson) []
  patience := (v.field? "until" >>= Json.natural?).getD 0
  alarms := 10000

end CommandLine.Rehearsal

end QueryCache
