import QueryCache.CommandLine.Basic
/-!
# Help

The pages that explain the command line.  A page says what the program or a command is for,
how it is called, and lists what it takes in tables of two columns: the second begins two
spaces behind the longest text of the first.
-/

namespace QueryCache.CommandLine

/-- A table with a heading. -/
structure Table where
  heading : String
  rows : List (String × String)

namespace Table

/-- A text filled up with spaces. -/
def fillTo (width : Nat) (s : String) : String :=
  s ++ String.ofList (List.replicate (width - s.length) ' ')

def text (t : Table) : String :=
  let width := (t.rows.map fun row => row.1.length).foldl max 0
  let lines := t.rows.map fun (item, meaning) => "  " ++ fillTo width item ++ "  " ++ meaning
  "\n".intercalate ((t.heading ++ ":") :: lines)

end Table

namespace Page

/-- What it is for. -/
def purpose : Page → String
  | overview => "Query cache for the classroom dashboard API"
  | watch => "Subscribe to the configured endpoints and log every change"
  | fetch => "Fetch one endpoint and print the response"
  | key => "Print the cache key for an endpoint call"
  | help => "Print this message or the help of the given subcommand(s)"

/-- How it is called. -/
def usage : Page → String
  | overview => "dashq [OPTIONS] <COMMAND>"
  | watch => "dashq watch"
  | fetch => "dashq fetch <ENDPOINT> [ARGS]"
  | key => "dashq key <ENDPOINT> [ARGS]"
  | help => "dashq help [COMMAND]..."

def helpOption : Table := ⟨"Options", [("-h, --help", "Print help")]⟩

def commandTable : Table :=
  ⟨"Commands", [("watch", purpose .watch), ("fetch", purpose .fetch), ("key", purpose .key),
    ("help", purpose .help)]⟩

def optionTable : Table :=
  ⟨"Options",
    [("-c, --config <CONFIG>", "Path to config file (default: $XDG_CONFIG_HOME/dashq/config.yaml)"),
      ("    --base-url <BASE_URL>", "API base URL, overrides the config file"),
      ("-h, --help", "Print help"),
      ("-V, --version", "Print version")]⟩

/-- What it takes. -/
def tables : Page → List Table
  | overview => [commandTable, optionTable]
  | watch => [helpOption]
  | fetch =>
    [⟨"Arguments", [("<ENDPOINT>", ""), ("[ARGS]", "Arguments as JSON [default: null]")]⟩,
      helpOption]
  | key => [⟨"Arguments", [("<ENDPOINT>", ""), ("[ARGS]", "[default: null]")]⟩, helpOption]
  | help => [⟨"Arguments", [("[COMMAND]...", "Print help for the subcommand(s)")]⟩]

def text (page : Page) : String :=
  "\n\n".intercalate ([page.purpose, "Usage: " ++ page.usage] ++ page.tables.map Table.text)
    ++ "\n"

end Page

/-- What the program calls itself, with its version. -/
def versionText : String := "dashq 0.1.0\n"

end QueryCache.CommandLine
