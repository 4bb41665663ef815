import Claw.Fault
import Claw.Files.Basic
import Claw.Numeral.Decimal
import Claw.Stack
import Claw.Yaml.Failure

/-!
# Failures

Why assembling or the reading of a configuration ends without a result.

* `ConfigFault`: what is wrong with a configuration;
* `Failure`: everything that can end the work;
* `Failure.fault?`: the failures that are faults, and are reported as such; the others concern a
  number that cannot be written, a file that is no text, a path that cannot be looked up, a scalar
  without a value, or a configuration that is nested too deep.
-/

namespace Claw

/-- What is wrong with a configuration. -/
inductive ConfigFault
  /-- The text is no YAML document. -/
  | malformed
  /-- The document is not a mapping. -/
  | notMapping
  /-- There is no setting of this name. -/
  | unknownField (key : String)
  /-- The default stack is none of the stacks. -/
  | badStack
  /-- A switch is neither true nor false. -/
  | notBoolean (field : String)
  /-- The file cannot be read. -/
  | unreadable (path : String) (fault : AccessFault)
  deriving DecidableEq, Repr

/-- The wording of a fault. -/
def ConfigFault.message : ConfigFault → String
  | .malformed => "Invalid YAML syntax: the text is not one well-formed document"
  | .notMapping => "Configuration must be a YAML mapping/dictionary"
  | .unknownField key => "Unknown configuration field '" ++ key ++ "'"
  | .badStack => "'default_stack' must be one of " ++ ", ".intercalate (Stack.all.map Stack.name)
  | .notBoolean field => "'" ++ field ++ "' must be true or false"
  | .unreadable path fault => "Cannot read configuration " ++ path ++ ": " ++ fault.message path

/-- Why the work ends without a result. -/
inductive Failure
  /-- A message has to show a number that cannot be written. -/
  | tooManyDigits (fault : Numeral.TooManyDigits)
  /-- A file is not UTF-8. -/
  | undecodable (fault : Text.DecodeFault)
  /-- A path holds a null character. -/
  | nullInPath
  /-- It cannot be told whether there is anything under a path. -/
  | notLookedUp (path : String) (fault : AccessFault)
  /-- A scalar of the configuration has no value. -/
  | scalar (fault : Yaml.ScalarFault)
  /-- The configuration is nested deeper than it can be followed. -/
  | tooDeep
  /-- The configuration is at fault. -/
  | configuration (fault : ConfigFault)
  /-- A source cannot be read. -/
  | unreadable (path : String) (fault : AccessFault)
  deriving DecidableEq, Repr

namespace Failure

/-- The fault that the failure is, if it is one. -/
def fault? : Failure → Option Fault
  | .configuration fault => some { family := .configuration, message := fault.message }
  | .unreadable path fault =>
    some { family := .general, message := "Cannot read " ++ path ++ ": " ++ fault.message path }
  | .tooManyDigits _ | .undecodable _ | .nullInPath | .notLookedUp .. | .scalar _ | .tooDeep => none

/-- The wording of a failure. -/
def message : Failure → String
  | .tooManyDigits fault => fault.message
  | .undecodable fault => fault.message
  | .nullInPath => "embedded null byte"
  | .notLookedUp path fault => fault.message path
  | .scalar fault => fault.message
  | .tooDeep => "maximum recursion depth exceeded"
  | .configuration fault => fault.message
  | .unreadable path fault => "Cannot read " ++ path ++ ": " ++ fault.message path

end Failure

end Claw
