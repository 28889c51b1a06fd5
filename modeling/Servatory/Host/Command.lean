import Servatory.Host.Backup

/-! The programs that the daemon runs for its readings. What they print comes from outside. -/

namespace Servatory

/-- The end of a program: its exit code, unless a signal ended it, what it printed, and what `serde_json` reads from its
    output. -/
structure Output where
  code : Option Nat
  stdout : String
  stderr : String
  json : Option Json

def Output.success (output : Output) : Bool := output.code == some 0

/-- What a program that is called with some arguments comes to; `none` where it cannot be run. -/
abbrev Commands := String → List String → Option Output

end Servatory
