/-!
# Failures

Why a line was not carried out, and the text that tells it. The failures of binding are those after
which a summary of the command's parameters helps.
-/

namespace CommandShell

/-- Why something failed: the outermost cause and those behind it, the root cause last. -/
structure Causes where
  outermost : String
  deeper : List String := []
deriving DecidableEq

namespace Causes

/-- All causes, outermost first. -/
def chain (causes : Causes) : List String :=
  causes.outermost :: causes.deeper

/-- All causes on one line. -/
def text (causes : Causes) : String :=
  String.intercalate ": " causes.chain

end Causes

/-- A token that has no value of its parameter's type. -/
structure Mismatch where
  parameter : String
  value : String
  typeName : String
  /-- The accepted names, where there is a fixed list of them. -/
  validValues : List String
  /-- What the host's own converter said. -/
  detail : Option String
deriving DecidableEq

inductive Failure where
  | malformed (reason : String)
  | unknownFlag (flag : String) (suggestions : List String)
  | repeatedParameter (name : String)
  | missingValue (name : String)
  | mismatch (m : Mismatch)
  /-- A positional argument for which no parameter is left. -/
  | unexpectedArgument (token : String)
  | missingParameters (names : List String)
  | unknownCommand (name : String) (suggestions : List String)
  /-- The command itself failed. -/
  | execution (causes : Causes)
  | canceled
  /-- A converter broke off the whole program. -/
  | crash (message : String)
deriving DecidableEq

namespace Failure

def message : Failure → String
  | malformed reason => "malformed input: " ++ reason
  | unknownFlag flag _ => "unknown parameter: -" ++ flag
  | repeatedParameter name => "parameter specified more than once: " ++ name
  | missingValue name => "missing value for parameter: " ++ name
  | mismatch m => "cannot convert '" ++ m.value ++ "' to " ++ m.typeName ++ " for parameter: " ++ m.parameter
  | unexpectedArgument token => "unexpected argument: " ++ token
  | missingParameters names => "missing required parameters: " ++ String.intercalate ", " names
  | unknownCommand name _ => "command not found: " ++ name
  | execution causes => causes.outermost
  | canceled => "command canceled"
  | crash message => message

/-- The tokens did not fit the command's parameters. -/
def isBinding : Failure → Bool
  | unknownFlag .. | repeatedParameter .. | missingValue .. | mismatch .. | unexpectedArgument ..
  | missingParameters .. => true
  | _ => false

end Failure

end CommandShell
