import SoapWrap.Command.Generate

namespace SoapWrap.Command

inductive Invocation where
  | generate (r : Generate.Request)
  | inspect (index : String) (interface : Option String)

namespace Invocation

def splitOption (arg : String) : String × Option String :=
  let cs := arg.toList
  (.ofList (cs.takeWhile (· ≠ '=')), match cs.dropWhile (· ≠ '=') with
    | [] => none
    | _ :: value => some (.ofList value))

def isOption (arg : String) : Bool :=
  match arg.toList with
  | '-' :: _ :: _ => true
  | _ => false

def readOptions (valued flags : List String) (found : Dict String) :
    List String → Option (Dict String)
  | [] => some found
  | arg :: rest =>
    let (name, value) := splitOption arg
    if found.contains name then none
    else if flags.contains name then
      if value.isNone then readOptions valued flags (found.insert name "") rest else none
    else if valued.contains name then
      match value, rest with
      | some v, rest => readOptions valued flags (found.insert name v) rest
      | none, v :: rest =>
        if isOption v then none else readOptions valued flags (found.insert name v) rest
      | none, [] => none
    else none

def defaultOut : String := "target/soapgen"

def ofArguments? : List String → Option Invocation
  | "generate" :: args => do
    let options ← readOptions ["--index", "--out", "--profile"] ["--strict"] .empty args
    return generate {
      index := ← options.get? "--index"
      out := (options.get? "--out").getD defaultOut
      profile := options.get? "--profile"
      strict := options.contains "--strict" }
  | "inspect" :: args => do
    let options ← readOptions ["--index", "--interface"] [] .empty args
    return inspect (← options.get? "--index") (options.get? "--interface")
  | _ => none

def usage : List String := [
  "Usage: soapgen generate --index FILE [--out DIRECTORY] [--profile NAME] [--strict]",
  "       soapgen inspect --index FILE [--interface NAME]"]

end Invocation

end SoapWrap.Command
