import QueryCache.Classroom.Catalog
import QueryCache.Session.Basic
import QueryCache.Yaml.Reading
/-!
# Settings

What a user may set, in a YAML file: where the server is, how long answers are kept and waited
for, how failures are retried, what is polled and what is watched, and a cascade in place of
the usual one.  Only the address of the server has to be given.

Unknown fields are passed over, but a known one may stand only once in its record.  A cascade
with a cycle is refused.
-/

namespace QueryCache

/-- A call to watch. -/
structure Watched where
  endpoint : String
  args : Json
deriving DecidableEq, Repr

structure Settings where
  baseUrl : String
  /-- The environment variable that holds the token. -/
  tokenVariable : String
  keepSeconds : Nat
  timeoutSeconds : Nat
  backoff : Backoff
  /-- The cascade that replaces the usual one. -/
  relations : Option Cascade
  /-- The intervals in seconds at which classes are polled; zero for not at all. -/
  polling : List (String × Nat)
  watch : List Watched

/-- Why a text is not accepted as settings. -/
inductive SettingsError where
  | malformed
  | cyclic (path : List Tag)
deriving DecidableEq, Repr

namespace Settings

open Yaml (Node Reading)

/-- The largest number of a wide field, and of a narrow one. -/
def wideMax : Nat := 0xFFFFFFFFFFFFFFFF
def narrowMax : Nat := 0xFFFFFFFF

/-- The fields of a record. -/
abbrev Fields := List (String × Node Nat)

/-- Reads a record.  Those of its fields that are known stand only once. -/
def record {α : Type} (known : List String) (fields : Fields → Reading α) (n : Node Nat) :
    Reading α := do
  match ← Reading.follow n with
  | .mapping _ pairs => Reading.inside (do
      let named ← pairs.mapM fun (k, v) => do return (← Reading.text k, v)
      if ((named.map Prod.fst).filter known.contains).Nodup then fields named else failure)
  | n => if Reading.isEmpty n then fields [] else failure

/-- Reads a field that may be left out. -/
def Fields.optional {α : Type} (fields : Fields) (name : String) (usual : α)
    (value : Node Nat → Reading α) : Reading α :=
  match fields.lookup name with
  | none => pure usual
  | some n => value n

/-- Reads a field that has to be given. -/
def Fields.required {α : Type} (fields : Fields) (name : String) (value : Node Nat → Reading α) :
    Reading α :=
  match fields.lookup name with
  | none => failure
  | some n => value n

/-- The address of the server and the variable of the token. -/
def readServer : Node Nat → Reading (String × String) :=
  record ["base_url", "token_env"] fun fields => do
    let baseUrl ← fields.required "base_url" Reading.text
    let variable_ ← fields.optional "token_env" "DASHQ_API_TOKEN" Reading.text
    return (baseUrl, variable_)

/-- How long answers are usually kept and waited for, in seconds. -/
def usualTimes : Nat × Nat := (Options.standard.keep / 1000, Options.standard.timeout / 1000)

/-- How long answers are kept and waited for, in seconds. -/
def readTimes : Node Nat → Reading (Nat × Nat) :=
  let keep := "keep_unused_data_for_secs"
  let timeout := "request_timeout_secs"
  record [keep, timeout] fun fields => do
    let keepSeconds ← fields.optional keep usualTimes.1 (Reading.natural wideMax)
    let waitSeconds ← fields.optional timeout usualTimes.2 (Reading.natural wideMax)
    return (keepSeconds, waitSeconds)

def readBackoff : Node Nat → Reading Backoff :=
  record ["max_retries", "base_delay_ms", "backoff_multiplier", "max_delay_ms"] fun fields => do
    let millis (n : Node Nat) : Reading Nat := do
      return (← Reading.natural wideMax n) * nanosPerMilli
    let usual := Backoff.standard
    let retries ← fields.optional "max_retries" usual.retries (Reading.natural narrowMax)
    let base ← fields.optional "base_delay_ms" usual.base millis
    let multiplier ←
      fields.optional "backoff_multiplier" usual.multiplier (Reading.natural narrowMax)
    let longest ← fields.optional "max_delay_ms" usual.longest millis
    return ⟨retries, base, multiplier, longest⟩

def readTag (n : Node Nat) : Reading Tag := do return Tag.ofText (← Reading.text n)

/-- A cascade, unless nothing is given. -/
def readRelations (n : Node Nat) : Reading (Option Cascade) := do
  let n ← Reading.follow n
  if ← Reading.isNull n then return none
  let rows ← Reading.eachField (fun _ => Reading.each readTag) n
  return some (.ofList (rows.map fun (name, tags) => (Tag.ofText name, tags)))

/-- Puts intervals in order; of two for one class the later counts. -/
def orderIntervals (intervals : List (String × Nat)) : List (String × Nat) :=
  (intervals.foldl (fun (table : Std.ExtTreeMap String Nat) (c, n) => table.insert c n) ∅).toList

def readPolling (n : Node Nat) : Reading (List (String × Nat)) := do
  return orderIntervals (← Reading.eachField (fun _ => Reading.natural wideMax) n)

def readWatched : Node Nat → Reading Watched :=
  record ["endpoint", "args"] fun fields => do
    let endpoint ← fields.required "endpoint" Reading.text
    let args ← fields.optional "args" .null Reading.json
    return ⟨endpoint, args⟩

/-- The classes that are usually polled, in seconds. -/
def usualPolling : List (String × Nat) :=
  orderIntervals (Classroom.pollIntervals.map fun (c, millis) => (c, millis / 1000))

/-- The settings that a document holds. -/
def ofNode : Node Nat → Reading Settings :=
  record ["api", "cache", "retry", "tag_relations", "polling", "watch"] fun fields => do
    let (baseUrl, tokenVariable) ← fields.required "api" readServer
    let (keepSeconds, timeoutSeconds) ← fields.optional "cache" usualTimes readTimes
    let backoff ← fields.optional "retry" .standard readBackoff
    let relations ← fields.optional "tag_relations" none readRelations
    let polling ← fields.optional "polling" usualPolling readPolling
    let watch ← fields.optional "watch" [] (Reading.each readWatched)
    return {
      baseUrl := baseUrl
      tokenVariable := tokenVariable
      keepSeconds := keepSeconds
      timeoutSeconds := timeoutSeconds
      backoff := backoff
      relations := relations
      polling := polling
      watch := watch }

/-- The cascade in use. -/
def cascade (s : Settings) : Cascade := s.relations.getD Classroom.cascade

/-- Reads settings. -/
def read (text : String) : Except SettingsError Settings :=
  match Yaml.read? text >>= Yaml.Document.readAs? ofNode with
  | none => .error .malformed
  | some s => match s.cascade.cycle? with
    | some path => .error (.cyclic path)
    | none => .ok s

/-- The options of a session under these settings. -/
def options (s : Settings) : Options :=
  { Options.standard with
    keep := s.keepSeconds * 1000
    timeout := s.timeoutSeconds * 1000
    backoff := s.backoff
    intervals := s.polling.map fun (c, secs) => (c, secs * 1000) }

/-- The set-up of a session under these settings. -/
def setup (s : Settings) : Setup where
  endpoints := Setup.catalog Classroom.endpoints
  cascade := s.cascade
  options := s.options
  background := true

end Settings

end QueryCache
