import QueryCache.Json.Printer
import QueryCache.Text.Blank
/-!
# What can go wrong with a request

A request fails because the server was not reached, because no answer came in time, or
because the answer was a refusal with a status and perhaps a body.  All else follows from the
cause: the kind a screen reacts to, whether another attempt is worth while, whether the
failure is announced, the message shown.

A refusal speaks for itself if its body does: the `message` field, then `detail` (a text, or
a list of complaints about single fields), then `error`.  A body that says nothing, or only
blanks, gives the standing message of its kind.
-/

namespace QueryCache

/-- What a screen tells apart. -/
inductive FailureKind where
  | network
  | auth
  | validation
  | server
  | notFound
deriving DecidableEq, Repr

namespace FailureKind

/-- The kind of a refusal by its status. -/
def ofStatus (status : Nat) : FailureKind :=
  if status = 401 ∨ status = 403 then auth
  else if status = 404 then notFound
  else if status = 408 then network
  else if status = 429 ∨ (500 ≤ status ∧ status ≤ 599) then server
  else validation

/-- The message of a refusal that says nothing itself. -/
def standingMessage : FailureKind → String
  | network => "Network error. Check your connection and try again."
  | auth => "Your session has expired. Please sign in again."
  | validation => "The request was invalid. Please check the form and try again."
  | server => "Something went wrong on our side. Please try again later."
  | notFound => "The requested resource was not found."

/-- Signing in again is asked for elsewhere, and what is not found is left to the caller; all
other failures are announced. -/
def isAnnounced : FailureKind → Bool
  | network | validation | server => true
  | auth | notFound => false

def text : FailureKind → String
  | network => "network"
  | auth => "auth"
  | validation => "validation"
  | server => "server"
  | notFound => "not_found"

end FailureKind

/-- A complaint about one field of a form. -/
structure FieldError where
  field : String
  message : String
deriving DecidableEq, Repr

/-- Why a request failed. -/
inductive Failure where
  /-- The server was not reached, or the connection broke. -/
  | unreachable (message : String)
  /-- No answer came within so many milliseconds. -/
  | timedOut (after : Nat)
  /-- The server answered with a status that is not a success. -/
  | refused (status : Nat) (body : Option Json)
deriving DecidableEq, Repr

namespace Failure

def status? : Failure → Option Nat
  | refused status _ => some status
  | unreachable _ | timedOut _ => none

def kind : Failure → FailureKind
  | refused status _ => .ofStatus status
  | unreachable _ | timedOut _ => .network

/-- The refusals that another attempt may overcome. -/
def retryableStatuses : List Nat := [408, 429, 500, 502, 503, 504]

/-- A server that was not reached or did not answer in time is always asked again. -/
def isRetryable : Failure → Bool
  | refused status _ => retryableStatuses.contains status
  | unreachable _ | timedOut _ => true

/-- A text that is more than blanks, without the blanks around it. -/
def spoken (v : Json) : Option String :=
  (v.text?.map Text.trim).filter (· ≠ "")

/-- One step of the way to a field: a name as it is, all else as it is written. -/
def stepText : Json → String
  | .str s => s
  | v => v.text

/-- Where a complaint points to, with dots between the steps.  The step `body`, which every
form has, is left out. -/
def fieldPath (complaint : Json) : String :=
  match complaint.field? "loc" >>= Json.items? with
  | some steps => ".".intercalate ((steps.filter (· ≠ .str "body")).map stepText)
  | none => ""

/-- A complaint needs a message to count. -/
def fieldError? (complaint : Json) : Option FieldError := do
  let message ← complaint.field? "msg" >>= Json.text?
  pure ⟨fieldPath complaint, message⟩

/-- The complaints that a body lists under `detail`. -/
def complaints (body : Json) : List FieldError :=
  ((body.field? "detail" >>= Json.items?).getD []).filterMap fieldError?

def fieldErrors : Failure → List FieldError
  | refused _ (some body) => complaints body
  | refused _ none | unreachable _ | timedOut _ => []

/-- What `detail` says. -/
def detailMessage (body : Json) : Option String :=
  match body.field? "detail" with
  | some (.str s) => spoken (.str s)
  | some (.arr _) => match complaints body with
    | [] => none
    | errors => some ("; ".intercalate (errors.map fun e => e.field ++ ": " ++ e.message))
  | _ => none

/-- What a body says for itself. -/
def bodyMessage (body : Json) : Option String :=
  (body.field? "message" >>= spoken) <|> detailMessage body <|> (body.field? "error" >>= spoken)

/-- What is shown of a failure. -/
def message : Failure → String
  | unreachable message => message
  | timedOut after => s!"Request timed out after {after / 1000}s"
  | refused status body => (body >>= bodyMessage).getD (FailureKind.ofStatus status).standingMessage

end Failure

end QueryCache
