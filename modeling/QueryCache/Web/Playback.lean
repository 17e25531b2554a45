import QueryCache.Web.Gateway
/-!
# Playback

A server that plays back answers from a list and keeps the messages it has heard, and with it
the place where tokens are renewed, from a list too.

Each answer serves once.  One that is meant for a target waits until that target is asked for;
all others serve in order.  When none is left, nothing is found.

Playback listens at one port.  Plain HTTP reaches it there by any number and as `localhost`;
nothing else is there.
-/

namespace QueryCache.Web

/-- How much of an answer comes through. -/
inductive Ending where
  | whole
  /-- The connection is closed without a word. -/
  | dropped
  /-- The connection is closed before the body is complete. -/
  | truncated
deriving DecidableEq, Repr

/-- An answer to play back. -/
structure Cue where
  /-- The only target it answers, if it is meant for one. -/
  target : Option String
  status : Nat
  body : String
  ending : Ending
deriving DecidableEq, Repr

/-- The status with which a server gives up HTTP for another protocol. -/
def switchingProtocols : Nat := 101

/-- Whether an answer of that status has no body, whatever the list says. -/
def Cue.isBodiless (c : Cue) : Bool :=
  c.status == switchingProtocols || c.status == 204 || c.status == 304

/-- What comes through of an answer.  One whose status does not end an exchange never does: of
those below 200 only one does. -/
def Cue.answer (c : Cue) : Answer :=
  if (c.status < 200 ∧ c.status ≠ switchingProtocols) ∨ c.status > 999 then .broken
  else match c.ending with
    | .dropped => .broken
    | .truncated => if c.isBodiless then .response c.status "" else .broken
    | .whole => .response c.status (if c.isBodiless then "" else c.body)

structure Playback where
  cues : List Cue
  /-- What the renewals of the token bring. -/
  tokens : List (Except Failure String)
  /-- The messages heard, the latest first. -/
  heard : List Message
  /-- How often the token was to be renewed. -/
  renewals : Nat

namespace Playback

def ofCues (cues : List Cue) (tokens : List (Except Failure String)) : Playback :=
  ⟨cues, tokens, [], 0⟩

/-- The port at which playback listens. -/
def port : Nat := 49152

/-- The address of playback. -/
def address : String := "http://127.0.0.1:" ++ toString port

/-- The longest address that a request can have. -/
def longestAddress : Nat := 65534

/-- Whether there is a server at an address. -/
def isReached (url : Url) : Bool :=
  url.scheme == "http" && address.length + url.target.length ≤ longestAddress
    && url.authority.any fun a =>
      a.port == some port && match a.host with
        | .ipv4 _ => true
        | .domain name => name == "localhost"
        | .ipv6 _ => false

/-- Takes the next answer for a target off the list. -/
def takeCue (target : String) : List Cue → Option (Cue × List Cue)
  | [] => none
  | cue :: rest =>
    if cue.target.all (· == target) then some (cue, rest)
    else (takeCue target rest).map fun (found, rest) => (found, cue :: rest)

/-- Answers a message. -/
def serve (m : Message) (p : Playback) : Answer × Playback :=
  if isReached m.url then
    let p := { p with heard := m.received :: p.heard }
    match takeCue m.url.target p.cues with
    | none => (.response 404 "", p)
    | some (cue, rest) => (cue.answer, { p with cues := rest })
  else (.broken, p)

/-- Renews the token, as long as there is something to hand out. -/
def renew (p : Playback) : Except Failure String × Playback :=
  match p.tokens with
  | [] => (.error noAnswer, { p with renewals := p.renewals + 1 })
  | next :: rest => (next, { p with tokens := rest, renewals := p.renewals + 1 })

end Playback

end QueryCache.Web
