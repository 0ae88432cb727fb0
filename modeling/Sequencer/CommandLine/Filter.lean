import Sequencer.CommandLine.Directive
import Sequencer.Notice

/-!
# Filters

Which notices are shown: those up to a level, for all parts of the program or for some.
-/

namespace Sequencer

/-- How much a level lets through; a filter lets through what is at most as detailed as it says. -/
def Level.detail : Level → Nat
  | .error => 1
  | .warn => 2
  | .info => 3
  | .debug => 4

/-- The name under which a part of the program speaks. -/
def Speaker.target : Speaker → String
  | .engine => "sequence_core::engine"
  | .runLoop => "sequence_core::engine::exec_loop"
  | .command => "sequence_core::command::builtin"
  | .driver => "sequence_core::driver"
  | .listener => "sequence_core::signals"
  | .host => "sequence"

/-- The names under which a filter finds what a notice holds. -/
def Notice.fieldNames (n : Notice) : List String := "message" :: n.fields.map Prod.fst

abbrev NoticeFilter := List Directive

namespace NoticeFilter

/-- The parts of a filter, without empty ones. -/
def parts (s : String) : List String := (s.splitOn ",").filter fun part => part ≠ ""

/-- Without any directive only errors are shown. -/
def ofDirectives : List Directive → NoticeFilter
  | [] => [{ detail := 1 }]
  | directives => directives

/-- All parts have to be directives. -/
def ofString (s : String) : Except DirectiveError NoticeFilter := do
  return ofDirectives (← (parts s).mapM Directive.ofString)

/-- The parts that are directives, and the others with what is wrong about them. -/
def split (s : String) : NoticeFilter × List (String × DirectiveError) :=
  let results := (parts s).map fun part => (part, Directive.ofString part)
  (ofDirectives (results.filterMap fun
      | (_, .ok d) => some d
      | (_, .error _) => none),
    results.filterMap fun
      | (_, .ok _) => none
      | (part, .error e) => some (part, e))

/-- The directive that decides about a notice: of those about it the first in rank, of equals the last. -/
def best (target : String) (fields : List String) (filter : NoticeFilter) : Option Directive :=
  filter.foldl (fun best d =>
    if d.isAbout target fields then
      match best with
      | some b => if d.rank < b.rank then best else some d
      | none => some d
    else best) none

def shows (filter : NoticeFilter) (n : Notice) : Bool :=
  match filter.best n.speaker.target n.fieldNames with
  | some d => n.level.detail ≤ d.detail
  | none => false

end NoticeFilter

end Sequencer
