import SoapWrap.Config.Basic
import SoapWrap.Metadata.Index
import SoapWrap.Synthesis.Error

namespace SoapWrap.Command

inductive Failure where
  | config (e : ConfigError)
  | index (e : IndexError)
  | synthesis (e : SynthesisError)
  | output
  deriving DecidableEq

/-- The wording, where it is this library's own. -/
def Failure.message? : Failure → Option String
  | config e => e.message?
  | index e => e.message?
  | synthesis e => some e.message
  | output => none

def Failure.text (e : Failure) : String :=
  e.message?.getD (match e with
    | config _ => "the configuration cannot be read"
    | output => "the output cannot be written"
    | _ => "the index cannot be read")

structure Outcome where
  lines : List String := []
  failure : Option Failure := none

def Outcome.ofFailure (e : Failure) : Outcome := { failure := some e }

def padEnd (width : Nat) (s : String) : String :=
  s ++ .ofList (List.replicate (width - s.length) ' ')

end SoapWrap.Command
