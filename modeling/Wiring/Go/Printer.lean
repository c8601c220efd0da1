import Wiring.Go.Syntax

/-!
The source text of a generated function.
-/

namespace Wiring.Go

namespace Name

def render (name : Name) : String :=
  match name.qualifier with
  | some qualifier => qualifier ++ "." ++ name.name
  | none => name.name

end Name

namespace TypeExpr

def render (type : TypeExpr) : String :=
  (if type.pointer then "*" else "") ++ type.name.render

end TypeExpr

namespace Operand

def render (operand : Operand) : String :=
  match operand.access with
  | .direct => operand.name
  | .address => "&" ++ operand.name
  | .content => "*" ++ operand.name

end Operand

namespace Zero

def render : Zero → String
  | nil => "nil"
  | emptyString => "\"\""
  | falsehood => "false"
  | number => "0"
  | literal type => type.render ++ "\x7b\x7d"
  | fresh type => "*new(" ++ type.render ++ ")"

end Zero

namespace Param

def render (param : Param) : String :=
  param.name ++ " " ++ param.type.render

end Param

namespace ResultType

def render : ResultType → String
  | value type => type.render
  | error => "error"

end ResultType

namespace Skipped

def render : Skipped → String
  | zero value => value.render
  | failure => "err"

end Skipped

namespace Returned

def render : Returned → String
  | value operand => operand.render
  | noError => "nil"

end Returned

namespace Argument

def render (argument : Argument) : String :=
  match argument.field with
  | some field => field ++ ": " ++ argument.value.render
  | none => argument.value.render

end Argument

def commaSeparated (items : List String) : String :=
  ", ".intercalate items

def returnStatement (indent : String) (values : List String) : String :=
  indent ++ "return " ++ commaSeparated values ++ "\n"

namespace Binding

def expression (binding : Binding) : String :=
  match binding.provider.kind with
  | .function =>
    binding.constructor.render ++ "(" ++
      commaSeparated (binding.args.map fun argument => argument.value.render) ++ ")"
  | .struct =>
    (if binding.provider.result.pointer then "&" else "") ++ binding.constructor.render ++ "\x7b" ++
      commaSeparated (binding.args.map Argument.render) ++ "\x7d"

/-- The statement, with its early return if the constructor can fail. -/
def render (skipped : List Skipped) (binding : Binding) : String :=
  if binding.provider.fallible then
    "\t" ++ binding.name ++ ", err := " ++ binding.expression ++ "\n" ++
      "\tif err != nil \x7b\n" ++
      returnStatement "\t\t" (skipped.map Skipped.render) ++
      "\t\x7d\n"
  else
    "\t" ++ binding.name ++ " := " ++ binding.expression ++ "\n"

end Binding

namespace Function

/-- The results of the signature: nothing, one type, or several in parentheses. -/
def resultText (function : Function) : String :=
  match function.results with
  | [] => ""
  | [only] => " " ++ only.render
  | several => " (" ++ commaSeparated (several.map ResultType.render) ++ ")"

def signature (function : Function) : String :=
  "func " ++ function.name ++ "(" ++ commaSeparated (function.params.map Param.render) ++ ")" ++
    function.resultText

def render (function : Function) : String :=
  function.signature ++ " \x7b\n" ++
    String.join (function.body.map (Binding.render function.skipped)) ++
    (if function.returned.isEmpty then ""
      else returnStatement "\t" (function.returned.map Returned.render)) ++
    "\x7d\n"

end Function

end Wiring.Go
