import Sequencer.CommandLine.Arguments
import Sequencer.CommandLine.Demo
import Sequencer.CommandLine.Filter
import Sequencer.CommandLine.Variables
import Sequencer.Config.Render
import Sequencer.Engine.Interchange
import Sequencer.Json.Printer

/-!
# What the command line answers

Everything the program does with its arguments, its files and its environment, as one function.
-/

namespace Sequencer

structure Response where
  code : Nat := 0
  stdout : String := ""
  /-- Lines. -/
  stderr : List String := []

namespace Response

/-! ## Lines -/

def fieldText : FieldValue → String
  | .bare text => text
  | .text value => Text.quoted value
  | .ident id => id.toText

def noticeLine (n : Notice) : String :=
  let fields := n.fields.map fun (name, value) => name ++ "=" ++ fieldText value
  n.level.name ++ " " ++ n.speaker.target ++ ": " ++ " ".intercalate (n.message :: fields)

/-- An error with its cause, as lines. -/
def errorLines (message : String) (cause : Option String) : List String :=
  Text.lines ("Error: " ++ message) ++
    match cause with
    | none => []
    | some cause => ["", "Caused by:", "    " ++ cause]

def helpText : String :=
  "Run a demo command sequence\n\n" ++
  "Usage: sequence [OPTIONS] <COMMAND>\n\n" ++
  "Commands:\n" ++
  "  run     Drive the demo scene until it finishes\n" ++
  "  config  Print the effective configuration as TOML\n" ++
  "  help    Print this message or the help of the given subcommand(s)\n\n" ++
  "Options:\n" ++
  "      --config <CONFIG>  Path to config file (overrides default search)\n" ++
  "  -h, --help             Print help\n"

/-! ## Filters -/

/-- What is said about a part of a filter that is no directive. -/
def ignoredLines (part : String) (error : DirectiveError) : List String :=
  Text.lines ("ignoring `" ++ part ++ "`: " ++ error.message)

/--
The filter and the lines about parts of it that make no sense. The variable for it comes first; there is no
filter if a text is cut within a character.
-/
def chooseFilter? (env : Texts) (config : Config) : Option (NoticeFilter × List String) :=
  match (env.get? "RUST_LOG").map NoticeFilter.ofString with
  | some (.ok filter) => some (filter, [])
  | some (.error .cut) => none
  | some (.error _) | none =>
    let (filter, others) := NoticeFilter.split config.logging.filter
    if others.any fun (_, error) => error = .cut then none
    else some (filter, others.flatMap fun (part, error) => ignoredLines part error)

/-! ## Tasks -/

/-- The program breaks off at a count or a cut that it cannot make. -/
def brokenOff : Response := { code := 101, stderr := errorLines ConfigError.overflow.message none }

def refused (lines : List String) (error : ConfigError) : Response :=
  if error = .overflow then brokenOff
  else { code := 1, stderr := lines ++ errorLines error.message error.cause? }

def runScene (id : EngineId) (filter : NoticeFilter) (lines : List String) (config : Config)
    (options : RunOptions) : Response :=
  let (result, m) := Demo.play id config options.brave options.label
  let notices := (m.shared.notices.reverse.filter filter.shows).map noticeLine
  match result with
  | .error failure => { code := 1, stderr := lines ++ notices ++ errorLines failure.message none }
  | .ok () =>
    { stdout := if options.json then m.engine.snapshot.toJson.indented ++ "\n" else ""
      stderr := lines ++ notices }

def printConfig (lines : List String) (config : Config) : Response :=
  match config.toToml with
  | .error error => refused lines error
  | .ok text => { stdout := text, stderr := lines }

def perform (id : EngineId) (env : Texts) (config : Config) (task : Task) : Response :=
  match chooseFilter? env config, task with
  | none, _ => brokenOff
  | some (filter, lines), .run options => runScene id filter lines config options
  | some (_, lines), .config => printConfig lines config

/-- The file that variables come from. -/
def variableFile : String := ".env"

/-- The names of the files that the answer to the arguments depends on. -/
def fileNames (args : List String) : List String :=
  variableFile ::
    match Invocation.ofArguments args with
    | .help | .usage => []
    | .perform path _ => ({ path } : ConfigSource).fileNames

/-- The answer to the arguments; an engine that is made gets the given identifier. -/
def ofArguments (id : EngineId) (args : List String) (files env : Texts) : Response :=
  match Variables.withFile? env (files.get? variableFile) with
  | none => brokenOff
  | some env =>
    match Invocation.ofArguments args with
    | .help => { stdout := helpText }
    | .usage => { code := 2, stderr := Text.lines helpText }
    | .perform path task =>
      match ConfigSource.load { path } files env with
      | .error error => refused [] error
      | .ok config => perform id env config task

end Response

end Sequencer
