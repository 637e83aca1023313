import TagLens.Location.FileTree
import TagLens.Report.Event

/-!
# Logs

A log turns events into records, one line each, and adds them to its file, if it has one, as
soon as they happen. So a file that is read during a run may be the log itself, with all that
has happened before.
-/

namespace TagLens.Report

open Location (FileTree)

/-- A log that was set up. -/
structure Log where
  /-- The rank that a record needs at least. -/
  rank : Nat
  /-- The time of day, as records give it. -/
  time : String
  /-- The place of the log file. -/
  file : Option (List String)
  deriving DecidableEq, Repr

namespace Log

/-- The record of an event. -/
def record (log : Log) (event : Event) : String :=
  log.time ++ " - " ++ event.source ++ " - " ++ event.level.label ++ " - " ++ event.message ++ "\n"

/-- The records of the events that are urgent enough. -/
def records (log : Log) (events : List Event) : String :=
  String.join ((events.filter fun event => log.rank ≤ event.level.rank).map log.record)

/-- Add records to the log file. -/
def write (log : Log) (records : String) (files : FileTree) : FileTree :=
  match log.file with
  | none => files
  | some place => files.append place records.toList

end Log
end TagLens.Report
