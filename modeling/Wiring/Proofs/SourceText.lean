import Wiring.Artifact
import Wiring.Proofs.Failure

/-!
The text of a generated file, told as a grammar: which texts stand for a name, an expression, a call,
a statement, a function, a file. It names every character that the file has besides names and paths,
and nothing of it refers to the printer, so what is proved of a function can be read in its text.
-/

namespace Wiring

namespace Go

/-- A name by itself, or after what stands for its package. -/
inductive Name.PrintsAs : Name → String → Prop where
  | plain {x : String} : PrintsAs ⟨none, x⟩ x
  | qualified {qualifier x : String} : PrintsAs ⟨some qualifier, x⟩ (qualifier ++ "." ++ x)

inductive TypeExpr.PrintsAs : TypeExpr → String → Prop where
  | value {name : Name} {text : String} (hname : name.PrintsAs text) : PrintsAs ⟨false, name⟩ text
  | pointer {name : Name} {text : String} (hname : name.PrintsAs text) :
      PrintsAs ⟨true, name⟩ ("*" ++ text)

/-- A variable, its address or its content. -/
inductive Operand.PrintsAs : Operand → String → Prop where
  | direct {x : String} : PrintsAs ⟨.direct, x⟩ x
  | address {x : String} : PrintsAs ⟨.address, x⟩ ("&" ++ x)
  | content {x : String} : PrintsAs ⟨.content, x⟩ ("*" ++ x)

inductive Zero.PrintsAs : Zero → String → Prop where
  | nil : PrintsAs .nil "nil"
  | emptyString : PrintsAs .emptyString "\"\""
  | falsehood : PrintsAs .falsehood "false"
  | number : PrintsAs .number "0"
  | literal {type : TypeExpr} {text : String} (htype : type.PrintsAs text) :
      PrintsAs (.literal type) (text ++ "\x7b\x7d")
  | fresh {type : TypeExpr} {text : String} (htype : type.PrintsAs text) :
      PrintsAs (.fresh type) ("*new(" ++ text ++ ")")

inductive Skipped.PrintsAs : Skipped → String → Prop where
  | zero {value : Zero} {text : String} (hvalue : value.PrintsAs text) : PrintsAs (.zero value) text
  | failure : PrintsAs .failure "err"

inductive Returned.PrintsAs : Returned → String → Prop where
  | value {operand : Operand} {text : String} (hoperand : operand.PrintsAs text) :
      PrintsAs (.value operand) text
  | noError : PrintsAs .noError "nil"

inductive Param.PrintsAs : Param → String → Prop where
  | typed {x type : String} {e : TypeExpr} (htype : e.PrintsAs type) :
      PrintsAs ⟨x, e⟩ (x ++ " " ++ type)

inductive ResultType.PrintsAs : ResultType → String → Prop where
  | value {type : TypeExpr} {text : String} (htype : type.PrintsAs text) :
      PrintsAs (.value type) text
  | error : PrintsAs .error "error"

/-- A value, after the name of its field if it has one. -/
inductive Argument.PrintsAs : Argument → String → Prop where
  | positional {operand : Operand} {text : String} (hvalue : operand.PrintsAs text) :
      PrintsAs ⟨none, operand⟩ text
  | field {field text : String} {operand : Operand} (hvalue : operand.PrintsAs text) :
      PrintsAs ⟨some field, operand⟩ (field ++ ": " ++ text)

/-- The call of a function, or a composite literal, with its address taken where a pointer is
wanted. -/
inductive Binding.CallsAs : Binding → String → Prop where
  | function {b : Binding} {constructor : String} {args : List String}
      (hkind : b.provider.kind = .function) (hconstructor : b.constructor.PrintsAs constructor)
      (hargs : List.Forall₂ (fun (argument : Argument) text => argument.value.PrintsAs text)
        b.args args) :
      CallsAs b (constructor ++ "(" ++ ", ".intercalate args ++ ")")
  | value {b : Binding} {constructor : String} {args : List String}
      (hkind : b.provider.kind = .struct) (hvalue : b.provider.result.pointer = false)
      (hconstructor : b.constructor.PrintsAs constructor)
      (hargs : List.Forall₂ Argument.PrintsAs b.args args) :
      CallsAs b (constructor ++ "\x7b" ++ ", ".intercalate args ++ "\x7d")
  | pointer {b : Binding} {constructor : String} {args : List String}
      (hkind : b.provider.kind = .struct) (hpointer : b.provider.result.pointer = true)
      (hconstructor : b.constructor.PrintsAs constructor)
      (hargs : List.Forall₂ Argument.PrintsAs b.args args) :
      CallsAs b ("&" ++ constructor ++ "\x7b" ++ ", ".intercalate args ++ "\x7d")

/-- The statements of a binding. A call that can fail has a name for its error, and what follows at
once is a return of some values, taken if there is an error. -/
inductive Binding.PrintsAs (early : List String) : Binding → String → Prop where
  | sure {b : Binding} {call : String} (hsure : b.provider.fallible = false)
      (hcall : b.CallsAs call) :
      PrintsAs early b ("\t" ++ b.name ++ " := " ++ call ++ "\n")
  | checked {b : Binding} {call : String} (hfallible : b.provider.fallible = true)
      (hcall : b.CallsAs call) :
      PrintsAs early b ("\t" ++ b.name ++ ", err := " ++ call ++ "\n" ++
        "\tif err != nil \x7b\n" ++
        "\t\treturn " ++ ", ".intercalate early ++ "\n" ++
        "\t\x7d\n")

/-- What follows the parameters: nothing, one type, or several in parentheses. -/
inductive ResultsPrintAs : List String → String → Prop where
  | none : ResultsPrintAs [] ""
  | one {type : String} : ResultsPrintAs [type] (" " ++ type)
  | several {types : List String} (hseveral : 2 ≤ types.length) :
      ResultsPrintAs types (" (" ++ ", ".intercalate types ++ ")")

/-- The declaration line of a function up to its body. -/
inductive Function.SignsAs (f : Function) : String → Prop where
  | signature {params types : List String} {results : String}
      (hparams : List.Forall₂ Param.PrintsAs f.params params)
      (htypes : List.Forall₂ ResultType.PrintsAs f.results types)
      (hresults : ResultsPrintAs types results) :
      SignsAs f ("func " ++ f.name ++ "(" ++ ", ".intercalate params ++ ")" ++ results)

/-- The last statement: a return of some values, if there are any. -/
inductive ReturnPrintsAs : List String → String → Prop where
  | none : ReturnPrintsAs [] ""
  | values {values : List String} (hvalues : values ≠ []) :
      ReturnPrintsAs values ("\treturn " ++ ", ".intercalate values ++ "\n")

inductive Function.PrintsAs (f : Function) : String → Prop where
  | declaration {signature last : String} {early lines values : List String}
      (hsignature : f.SignsAs signature)
      (hearly : List.Forall₂ Skipped.PrintsAs f.skipped early)
      (hlines : List.Forall₂ (Binding.PrintsAs early) f.body lines)
      (hvalues : List.Forall₂ Returned.PrintsAs f.returned values)
      (hlast : ReturnPrintsAs values last) :
      PrintsAs f (signature ++ " \x7b\n" ++ String.join lines ++ last ++ "\x7d\n")

end Go

inductive Import.PrintsAs : Import → String → Prop where
  | line {entry : Import} :
      PrintsAs entry ("\t" ++ entry.qualifier ++ " \"" ++ entry.path ++ "\"\n")

/-- The import declaration, which a file without imports does not have. -/
inductive ImportsPrintAs : List Import → String → Prop where
  | none : ImportsPrintAs [] ""
  | block {imports : List Import} {lines : List String} (himports : imports ≠ [])
      (hlines : List.Forall₂ Import.PrintsAs imports lines) :
      ImportsPrintAs imports ("import (\n" ++ String.join lines ++ ")\n\n")

inductive Artifact.PrintsAs (artifact : Artifact) : String → Prop where
  | file {imports function : String} (himports : ImportsPrintAs artifact.imports imports)
      (hfunction : artifact.function.PrintsAs function) :
      PrintsAs artifact ("// Code generated by weld. DO NOT EDIT.\n\npackage " ++ artifact.package ++
        "\n\n" ++ imports ++ function)

namespace Go

theorem Name.printsAs_render (name : Name) : name.PrintsAs name.render := by
  obtain ⟨qualifier, x⟩ := name
  cases qualifier with
  | none => exact .plain
  | some qualifier => exact .qualified

theorem TypeExpr.printsAs_render (type : TypeExpr) : type.PrintsAs type.render := by
  obtain ⟨pointer, name⟩ := type
  cases pointer with
  | false =>
      have htext : render ⟨false, name⟩ = name.render := String.empty_append
      exact htext ▸ .value name.printsAs_render
  | true => exact .pointer name.printsAs_render

theorem Operand.printsAs_render (operand : Operand) : operand.PrintsAs operand.render := by
  obtain ⟨access, x⟩ := operand
  cases access with
  | direct => exact .direct
  | address => exact .address
  | content => exact .content

theorem Zero.printsAs_render (zero : Zero) : zero.PrintsAs zero.render := by
  cases zero with
  | nil => exact .nil
  | emptyString => exact .emptyString
  | falsehood => exact .falsehood
  | number => exact .number
  | literal type => exact .literal type.printsAs_render
  | fresh type => exact .fresh type.printsAs_render

theorem Skipped.printsAs_render (skipped : Skipped) : skipped.PrintsAs skipped.render := by
  cases skipped with
  | zero value => exact .zero value.printsAs_render
  | failure => exact .failure

theorem Returned.printsAs_render (returned : Returned) : returned.PrintsAs returned.render := by
  cases returned with
  | value operand => exact .value operand.printsAs_render
  | noError => exact .noError

theorem Param.printsAs_render (param : Param) : param.PrintsAs param.render :=
  .typed param.type.printsAs_render

theorem ResultType.printsAs_render (result : ResultType) : result.PrintsAs result.render := by
  cases result with
  | value type => exact .value type.printsAs_render
  | error => exact .error

theorem Argument.printsAs_render (argument : Argument) : argument.PrintsAs argument.render := by
  obtain ⟨field, operand⟩ := argument
  cases field with
  | none => exact .positional operand.printsAs_render
  | some field => exact .field operand.printsAs_render

theorem Binding.callsAs_expression (b : Binding) : b.CallsAs b.expression := by
  have hconstructor := b.constructor.printsAs_render
  have hfields := List.forall₂_map_self Argument.printsAs_render b.args
  unfold expression commaSeparated
  cases hkind : b.provider.kind with
  | function =>
      refine .function hkind hconstructor ?_
      exact List.forall₂_map_self (fun argument => argument.value.printsAs_render) b.args
  | struct =>
      cases hpointer : b.provider.result.pointer with
      | false =>
          simp only [Bool.false_eq_true, if_false, String.empty_append]
          exact .value hkind hpointer hconstructor hfields
      | true => exact .pointer hkind hpointer hconstructor hfields

theorem Binding.printsAs_render (skipped : List Skipped) (b : Binding) :
    b.PrintsAs (skipped.map Skipped.render) (b.render skipped) := by
  have hreturn : "\t\treturn " = "\t\t" ++ "return " := rfl
  unfold render returnStatement commaSeparated
  cases hfallible : b.provider.fallible with
  | false => exact .sure hfallible b.callsAs_expression
  | true =>
      have hprinted : b.PrintsAs (skipped.map Skipped.render) _ :=
        .checked hfallible b.callsAs_expression
      simpa only [if_true, hreturn, String.append_assoc] using hprinted

theorem Function.signsAs_signature (f : Function) : f.SignsAs f.signature := by
  have hparams := List.forall₂_map_self Param.printsAs_render f.params
  have htypes := List.forall₂_map_self ResultType.printsAs_render f.results
  have hresults : ResultsPrintAs (f.results.map ResultType.render) f.resultText := by
    unfold resultText
    match f.results with
    | [] => exact .none
    | [only] => exact .one
    | first :: second :: rest => exact .several (by simp)
  exact .signature hparams htypes hresults

/-- The printer writes a function as the grammar has it. -/
theorem Function.printsAs_render (f : Function) : f.PrintsAs f.render := by
  have hlast : ReturnPrintsAs (f.returned.map Returned.render)
      (if f.returned.isEmpty then "" else returnStatement "\t" (f.returned.map Returned.render)) := by
    cases f.returned with
    | nil => exact .none
    | cons first rest => exact .values (List.cons_ne_nil _ _)
  exact .declaration f.signsAs_signature (List.forall₂_map_self Skipped.printsAs_render f.skipped)
    (List.forall₂_map_self (Binding.printsAs_render f.skipped) f.body)
    (List.forall₂_map_self Returned.printsAs_render f.returned) hlast

end Go

namespace Artifact

theorem importsPrintAs_importBlock (artifact : Artifact) :
    ImportsPrintAs artifact.imports artifact.importBlock := by
  unfold importBlock
  cases artifact.imports with
  | nil => exact .none
  | cons first rest =>
      exact .block (List.cons_ne_nil _ _) (List.forall₂_map_self (fun _ => .line) (first :: rest))

/-- A file is written as the grammar has it. -/
theorem printsAs_file (artifact : Artifact) : artifact.PrintsAs artifact.file := by
  have hheader : "// Code generated by weld. DO NOT EDIT.\n\npackage " = header ++ "\n\npackage " :=
    rfl
  unfold file
  rw [← hheader]
  exact .file artifact.importsPrintAs_importBlock artifact.function.printsAs_render

end Artifact

end Wiring
