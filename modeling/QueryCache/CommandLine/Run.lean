import QueryCache.CommandLine.Help
import QueryCache.CommandLine.Watch
import QueryCache.Settings.Source
import QueryCache.Web.Gateway
/-!
# The program

`run` does what the arguments ask for, in a world that is given: the files and variables that
are found there, a server, and a user who interrupts in the end.

Only `fetch` and `watch` need settings.  Whatever goes wrong with them is found out in this
order: the settings, the address of the server, the arguments, the call itself.
-/

namespace QueryCache.CommandLine

open Web (Gateway Message UrlError)

/-- The world that the program runs in. -/
structure World (σ : Type) where
  surroundings : Surroundings
  serve : Message → σ → Web.Answer × σ
  server : σ
  /-- The user interrupts a watch when so many lines have been logged. -/
  patience : Nat
  /-- After how many alarms the world ends in any case. -/
  alarms : Nat

/-- What the program gives up for. -/
inductive Trouble where
  | settings (why : SourceError)
  | address (why : UrlError)
  /-- The arguments of a call are not JSON. -/
  | arguments (text : String)
  | call (why : CallFailure)
  /-- The world has ended before an answer came. -/
  | noEnd
deriving DecidableEq, Repr

def Trouble.message : Trouble → String
  | settings why => why.message
  | address why => Gateway.badBaseText why
  | arguments text => "Invalid JSON arguments " ++ (Json.str text).text
  | call why => why.message
  | noEnd => "no answer"

/-- How the program ends. -/
inductive Ending where
  | done (output : String)
  | failed (why : Trouble)
  | misused
deriving DecidableEq, Repr

namespace Ending

/-- The status that the program ends with. -/
def status : Ending → Nat
  | done _ => 0
  | failed _ => 1
  | misused => 2

/-- What has been printed.  Only a program that ends well prints anything. -/
def output? : Ending → Option String
  | done output => some output
  | _ => none

end Ending

/-- How a run of the program went. -/
structure Report (σ : Type) where
  ending : Ending
  /-- The lines logged, in order. -/
  log : List LogLine
  server : σ

variable {σ : Type}

/-- Reads the arguments of a call. -/
def readArgs (text : String) : Except Trouble Json :=
  match Json.read? text with
  | some args => .ok args
  | none => .error (.arguments text)

/-- The settings of an invocation. -/
def settingsFor (s : Surroundings) (i : Invocation) : Except Trouble Settings :=
  match Settings.load s i.settingsPath with
  | .error why => .error (.settings why)
  | .ok settings => .ok { settings with baseUrl := i.baseUrl.getD settings.baseUrl }

/-- The gateway to the server of some settings. -/
def gatewayFor (s : Surroundings) (settings : Settings) : Except Trouble Gateway :=
  match Gateway.openAt settings.baseUrl (settings.token? s) with
  | .error why => .error (.address why)
  | .ok gateway => .ok gateway

/-- Answers a request through a gateway. -/
def throughGateway (serve : Message → σ → Web.Answer × σ) (r : Request) (s : Gateway × σ) :
    Reply × (Gateway × σ) :=
  let (brought, s) := s.1.send serve none r s.2
  (⟨brought, 0⟩, s)

/-- A session under some settings, on a clock. -/
def openLine (w : World σ) (settings : Settings) (gateway : Gateway) : Timeline (Gateway × σ) :=
  .start settings.setup (throughGateway w.serve) (gateway, w.server)

/-- Prints the answer to a call. -/
def fetch (w : World σ) (settings : Settings) (gateway : Gateway) (endpoint : String)
    (args : Json) : Report σ :=
  let line := (openLine w settings gateway).startQuery "fetch" endpoint args
  let (outcome, line) := line.awaitOutcome w.alarms
  let ending := match outcome with
    | some (.data v) => Ending.done (v.value.pretty ++ "\n")
    | some (.response v) => .done (v.pretty ++ "\n")
    | some (.refused why) => .failed (.call why)
    | none => .failed .noEnd
  ⟨ending, [], line.state.server.2⟩

/-- Watches calls until the user interrupts. -/
def watch (w : World σ) (settings : Settings) (gateway : Gateway) : Report σ :=
  let start := Watch.start (openLine w settings gateway)
  match start.openViewers (callsToWatch settings) with
  | (some why, watch) => ⟨.failed (.call why), watch.log.reverse, watch.line.state.server.2⟩
  | (none, watch) =>
    let watch := watch.goOn w.patience w.alarms
    ⟨.done "", watch.log.reverse, watch.line.state.server.2⟩

/-- A run that comes to nothing. -/
def giveUp (w : World σ) (why : Trouble) : Report σ := ⟨.failed why, [], w.server⟩

/-- A run that prints something and is done. -/
def print (w : World σ) (output : String) : Report σ := ⟨.done output, [], w.server⟩

/-- Does what an invocation asks for. -/
def runInvocation (w : World σ) (i : Invocation) : Report σ :=
  let opened := do
    let settings ← settingsFor w.surroundings i
    let gateway ← gatewayFor w.surroundings settings
    pure (settings, gateway)
  match i.command with
  | .key endpoint args => match readArgs args with
    | .error why => giveUp w why
    | .ok args => print w ((Key.ofCall endpoint args).text ++ "\n")
  | .fetch endpoint args => match opened with
    | .error why => giveUp w why
    | .ok (settings, gateway) => match readArgs args with
      | .error why => giveUp w why
      | .ok args => fetch w settings gateway endpoint args
  | .watch => match opened with
    | .error why => giveUp w why
    | .ok (settings, gateway) => watch w settings gateway

/-- Runs the program with some arguments. -/
def run (w : World σ) (arguments : List String) : Report σ :=
  match read arguments with
  | .run i => runInvocation w i
  | .help page => print w page.text
  | .version => print w versionText
  | .misuse => ⟨.misused, [], w.server⟩

end QueryCache.CommandLine
