import SoapWrap.Command.Arguments
import SoapWrap.Command.Inspect
import Std.Time

namespace SoapWrap.Disk

/-- The error of a path that leads through a file that is no directory. -/
def notADirectory : UInt32 := 20

def isAbsent : IO.Error → Bool
  | .noFileOrDirectory .. => true
  | .inappropriateType _ code _ => code == notADirectory
  | _ => false

def read (path : String) : IO FileText := do
  try return .text (← IO.FS.readFile path)
  catch e => return if isAbsent e then .absent else .unreadable

def succeeds (action : IO Unit) : IO Bool := do
  try action; return true
  catch _ => return false

def access : FileAccess IO where
  read := read
  makeDirectory path := succeeds (IO.FS.createDirAll path)
  write path text := succeeds (IO.FS.writeFile path text)

def environment : IO Environment := do
  match ← read "/proc/self/environ" with
  | .text s =>
    return (s.splitOn "\x00").filterMap fun entry =>
      match entry.splitOn "=" with
      | name :: value :: more => some (name, String.intercalate "=" (value :: more))
      | _ => none
  | _ => return []

open Std.Time in
def now : IO Command.Generate.Moment := do
  let utc := DateTime.ofTimestampWithZone (← Timestamp.now) .UTC
  let shown ← try DateTime.now catch _ => pure utc
  return {
    stamp := utc.format "uuuu-MM-dd'T'HH:mm:ss.SSSSSSSSS+00:00"
    shown := shown.format "uuuu-MM-dd HH:mm:ss" }

end SoapWrap.Disk

open SoapWrap Command in
def main (args : List String) : IO UInt32 := do
  let some invocation := Invocation.ofArguments? args
    | Invocation.usage.forM fun line => IO.eprintln line
      return 2
  let outcome ← match invocation with
    | .generate r => Generate.run Disk.access (← Disk.environment) (← Disk.now) r
    | .inspect index interface => Inspect.run Disk.access index interface
  outcome.lines.forM fun line => IO.println line
  match outcome.failure with
  | none => return 0
  | some e =>
    IO.eprintln ("Error: " ++ e.text)
    return 1
