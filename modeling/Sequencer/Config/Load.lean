import Sequencer.Config.Merge
import Sequencer.Toml.Reader

/-!
# Loading a configuration

The defaults, then a file, then the variables of the environment.
-/

namespace Sequencer

/-- Names with their texts: of files, or of variables. -/
abbrev Texts := List (String × String)

def Texts.get? (texts : Texts) (name : String) : Option String := texts.lookup name

/-- Where a configuration comes from. -/
structure ConfigSource where
  /-- The file to read; without one a default file is read if it is there. -/
  path : Option String := none
  envPrefix : String := "SEQUENCE"

namespace ConfigSource

/-! ## The file -/

/-- The default file, without its extension. -/
def defaultName : String := "sequence"

/-- What stands behind the last point of a file's name, unless the name begins there. -/
def extension? (path : String) : Option String :=
  let name := (path.toList.reverse.takeWhile (· ≠ '/')).reverse
  match (name.reverse.dropWhile (· ≠ '.')).reverse with
  | [] | [_] => none
  | _ => some (String.ofList (name.reverse.takeWhile (· ≠ '.')).reverse)

/-- The names on the way to a file; empty ones and single points stay where they are. -/
def steps (path : String) : List String := (path.splitOn "/").filter fun name => name ≠ "" ∧ name ≠ "."

/-- The path without what does not count in it. -/
def plainPath (path : String) : String :=
  (if path.startsWith "/" then "/" else "") ++ "/".intercalate (steps path)

/-- Behind the last name nothing follows that would make a directory of it. -/
def endsInName (path : String) : Bool := (path.splitOn "/").getLast? = (steps path).getLast?

/-- The file that the path itself names. -/
def exactName? (path : String) : Option String := if endsInName path then some (plainPath path) else none

/-- The file that the path names once it has the extension. -/
def extendedName? (path : String) : Option String :=
  match (steps path).getLast? with
  | none | some ".." => none
  | some _ => some (plainPath path ++ ".toml")

/-- A file by its name, or by its name without the extension. -/
def resolve? (files : Texts) (path : String) : Option String :=
  match (exactName? path).bind files.get? with
  | some text => if extension? path = some "toml" then some text else none
  | none => (extendedName? path).bind files.get?

/-- The names of the files that may be read. -/
def fileNames (s : ConfigSource) : List String :=
  let path := s.path.getD defaultName
  [exactName? path, extendedName? path].filterMap id

/-- The entries of the file; a file that was asked for has to be there. -/
def fileEntries (s : ConfigSource) (files : Texts) : Except ConfigError (List (String × Toml)) :=
  match resolve? files (s.path.getD defaultName), s.path with
  | none, none => .ok []
  | none, some _ => .error .load
  | some text, _ =>
    match Toml.ofText? text with
    | none => .error .load
    | some entries => .ok entries

/-! ## The variables -/

/-- Two underscores separate levels. -/
def levels : List Char → List Char
  | '_' :: '_' :: rest => '.' :: levels rest
  | c :: rest => c :: levels rest
  | [] => []

/-- The name of the setting that a variable is for, if it has the prefix. -/
def settingName? (s : ConfigSource) (variableName : String) : Option String :=
  let start := Text.lowercase (s.envPrefix ++ "_")
  (Text.expect? start.toList (Text.lowercase variableName).toList).map fun rest => String.ofList (levels rest)

/-! ## Layers -/

/-- Names of settings with their values. -/
abbrev Layer := List (String × Setting)

def fileLayer (entries : List (String × Toml)) : Layer := Setting.ofEntries entries

def variableLayer (s : ConfigSource) (env : Texts) : Layer :=
  env.filterMap fun (name, value) => (s.settingName? name).map fun name => (name, Setting.ofVariable value)

/-- Puts the settings of a layer into the tree, one after the other. -/
def addLayer? (tree : Setting) (layer : Layer) : Option Setting :=
  layer.foldlM (fun tree (name, value) => Setting.assign? value (Setting.pathOf name) tree) tree

/-- The file first, and the variables over it. -/
def tree? (s : ConfigSource) (entries : List (String × Toml)) (env : Texts) : Option Setting := do
  addLayer? (← addLayer? (.table []) (fileLayer entries)) (s.variableLayer env)

/-- Loads the configuration and checks it. -/
def load (s : ConfigSource) (files env : Texts) : Except ConfigError Config := do
  let entries ← s.fileEntries files
  match s.tree? entries env with
  | none => throw .overflow
  | some tree =>
    match tree.config? with
    | none => throw .load
    | some config =>
      config.validate
      return config

end ConfigSource

end Sequencer
