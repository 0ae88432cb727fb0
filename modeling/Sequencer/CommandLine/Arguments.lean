/-!
# Arguments

What the words on the command line ask for. Words are taken in order, and the first that is wrong or
asks for help decides.
-/

namespace Sequencer

structure RunOptions where
  label : Option String := none
  brave : Bool := false
  json : Bool := false
deriving DecidableEq

inductive Task where
  | run (options : RunOptions)
  | config
deriving DecidableEq

inductive Invocation where
  | perform (configPath : Option String) (task : Task)
  | help
  | usage
deriving DecidableEq

namespace Invocation

/-! ## Words -/

/-- What a word looks like. -/
inductive Word where
  /-- Two dashes: no options from here on. -/
  | separator
  | long (name : String) (value : Option String)
  | short (flags : List Char)
  | plain (text : String)

def Word.ofString (s : String) : Word :=
  match s.toList with
  | ['-', '-'] => .separator
  | '-' :: '-' :: rest =>
    match rest.dropWhile (· ≠ '=') with
    | [] => .long (String.ofList rest) none
    | _ :: value => .long (String.ofList (rest.takeWhile (· ≠ '='))) (some (String.ofList value))
  | '-' :: c :: rest => .short (c :: rest)
  | _ => .plain s

/-- The value of an option: joined to it, or the next word if that is no option. -/
def takeValue? (joined : Option String) (rest : List String) : Option (String × List String) :=
  match joined, rest with
  | some value, rest => some (value, rest)
  | none, word :: rest =>
    match Word.ofString word with
    | .plain text => some (text, rest)
    | _ => none
  | none, [] => none

/-- The value that is joined to a short option, perhaps with an equals sign. -/
def joinedValue : List Char → Option String
  | [] => none
  | '=' :: value => some (String.ofList value)
  | value => some (String.ofList value)

/-- An option may be given once. -/
def setOnce? (old : Option String) (value : String) : Option (Option String) :=
  match old with
  | none => some (some value)
  | some _ => none

/-! ## Tasks -/

/-- The words behind `run`. -/
def readRun (outer inner : Option String) (options : RunOptions) :
    (fuel : Nat) → List String → Invocation
  | 0, _ => .usage
  | _ + 1, [] => .perform (inner <|> outer) (.run options)
  | fuel + 1, word :: rest =>
    match Word.ofString word with
    | .long "help" none => .help
    | .long "config" joined =>
      match takeValue? joined rest with
      | none => .usage
      | some (value, rest) =>
        match setOnce? inner value with
        | none => .usage
        | some inner => readRun outer inner options fuel rest
    | .long "label" joined =>
      match takeValue? joined rest with
      | none => .usage
      | some (value, rest) =>
        match setOnce? options.label value with
        | none => .usage
        | some label => readRun outer inner { options with label } fuel rest
    | .long "brave" none =>
      if options.brave then .usage else readRun outer inner { options with brave := true } fuel rest
    | .long "json" none =>
      if options.json then .usage else readRun outer inner { options with json := true } fuel rest
    | .short ('h' :: _) => .help
    | .short ('l' :: joined) =>
      match takeValue? (joinedValue joined) rest with
      | none => .usage
      | some (value, rest) =>
        match setOnce? options.label value with
        | none => .usage
        | some label => readRun outer inner { options with label } fuel rest
    | .separator => if rest.isEmpty then .perform (inner <|> outer) (.run options) else .usage
    | _ => .usage

/-- The words behind `config`. -/
def readConfig (outer inner : Option String) : (fuel : Nat) → List String → Invocation
  | 0, _ => .usage
  | _ + 1, [] => .perform (inner <|> outer) .config
  | fuel + 1, word :: rest =>
    match Word.ofString word with
    | .long "help" none => .help
    | .long "config" joined =>
      match takeValue? joined rest with
      | none => .usage
      | some (value, rest) =>
        match setOnce? inner value with
        | none => .usage
        | some inner => readConfig outer inner fuel rest
    | .short ('h' :: _) => .help
    | .separator => if rest.isEmpty then .perform (inner <|> outer) .config else .usage
    | _ => .usage

/-- The words behind `help`: nothing, or what there is help for. -/
def readHelp : List String → Invocation
  | [] | ["run"] | ["config"] | ["help"] => .help
  | _ => .usage

/-- All words; the path of a configuration may stand before the task or behind it. -/
def readOuter (outer : Option String) : (fuel : Nat) → List String → Invocation
  | 0, _ | _ + 1, [] => .usage
  | fuel + 1, word :: rest =>
    match Word.ofString word with
    | .long "help" none => .help
    | .long "config" joined =>
      match takeValue? joined rest with
      | none => .usage
      | some (value, rest) =>
        match setOnce? outer value with
        | none => .usage
        | some outer => readOuter outer fuel rest
    | .short ('h' :: _) => .help
    | .plain "run" => readRun outer none {} (rest.length + 1) rest
    | .plain "config" => readConfig outer none (rest.length + 1) rest
    | .plain "help" => readHelp rest
    | _ => .usage

def ofArguments (args : List String) : Invocation := readOuter none (args.length + 1) args

end Invocation

end Sequencer
