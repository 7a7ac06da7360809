import TickTree.Doors.Entry
import TickTree.Environment.File
import TickTree.Log.Filter
import TickTree.Log.Line

/-!
# The program

The program reads its configuration from variables, visits a building once and reports what
happens. Reports that pass the filter are written as lines, and a configuration that is refused
ends the program with an error.

## Main definitions

* `Report`: what the program reports
* `Session`, `Program.session`: a run of the program
* `Program.output`: the lines and the exit code of a run
-/

namespace TickTree

/-- What the program reports. -/
inductive Report
  /-- The configuration was accepted. -/
  | configured (config : Config)
  /-- Something happened during the visit. -/
  | visit (event : Event DoorNote)
  /-- The agent got in through a door. -/
  | entered (door : Door)
  /-- The agent did not get in. -/
  | turnedAway
  deriving DecidableEq, Repr

/-- The record of a report. -/
def Report.toRecord : Report → Record
  | configured config =>
    ⟨.debug, "door_scenario", "scenario configured", [("config", .plain config.describe)]⟩
  | visit event => event.toRecord
  | entered door =>
    ⟨.info, "door_scenario", "made it into the building through " ++ toString door,
      [("door", .plain (toString door.number))]⟩
  | turnedAway => ⟨.info, "door_scenario", "failed to enter the building", []⟩

instance : Recordable Report := ⟨Report.toRecord⟩

/-- A run of the program: what it reported, and the error that ended it, if one did. -/
structure Session where
  reports : List Report
  error : Option EntryError

/-- The lines that a run leaves and its exit code. -/
structure Output where
  lines : List String
  code : Nat
  deriving DecidableEq, Repr

/-- What a run leaves: the lines of the reports that pass a filter, and a line for the error. -/
def Session.output (session : Session) (filter : Filter) : Output :=
  let records := (session.reports.map Report.toRecord).filter filter.shows
  let errors := session.error.toList.map fun error => "Error: " ++ error.message
  ⟨records.map Record.line ++ errors, if session.error.isSome then 1 else 0⟩

namespace Program

/-- The last report of a visit that was not aborted. -/
def conclusion (status : Status) (visit : Visit) : Report :=
  match status, visit.used with
  | .success, some door => .entered door
  | _, _ => .turnedAway

/-- A run of the program with these variables, and the random source in a given state. -/
def session (lookup : String → Option String) (generator : Generator) : Option Session :=
  match Config.read lookup with
  | .error error => some ⟨[], some error⟩
  | .ok config => do
    let entry ← config.enter generator
    let reports := .configured config :: entry.events.map .visit
    match entry.result with
    | .error error => return ⟨reports, some error⟩
    | .ok status => return ⟨reports ++ [conclusion status entry.visit], none⟩

/-- The variable that holds the filter of the program's reports. -/
def filterKey : String := "RUST_LOG"

/-- A whole run, with the variables of the environment and those of an environment file. -/
def output (file : String) (environment : String → Option String) (generator : Generator) :
    Option Output :=
  let lookup := EnvironmentFile.overlay file environment
  let filter := Filter.read ((lookup filterKey).getD "")
  (session lookup generator).map fun run => run.output filter

end Program

end TickTree
