import Wiring.Artifact
import Wiring.Graph.Order

/-!
Writing the function of a graph. Names are given in a fixed order, so a graph always gives the same
text: types and variables of the parameters, types of the results, then for each provider in binding
order its package and its variable.
-/

namespace Wiring

/-- Why a graph has no function. No graph that a resolution makes is among these. -/
inductive GenerationError where
  /-- A parameter that is no external node. -/
  | untypedParam
  /-- An input is used before it is bound. -/
  | unbound (t : TypeRef)
  | unboundResult (t : TypeRef)
  /-- A constructor can fail, but the function has no error result. -/
  | missingErrorResult (p : Provider) (function : String)
deriving DecidableEq, Repr

namespace GenerationError

def cause : GenerationError → String
  | untypedParam => "external node without a type"
  | unbound t => t.display ++ " used before it is bound"
  | unboundResult t => "result " ++ t.display ++ " is never bound"
  | missingErrorResult p function =>
    p.display ++ " can fail but " ++ function ++ " has no error result"

def message (e : GenerationError) : String :=
  "Code generation error: " ++ e.cause

end GenerationError

/-- The names given while a function is written. -/
structure Draft where
  imports : Imports
  names : List String
  /-- The variable of each node bound so far. -/
  bound : List (NodeId × String)

namespace Draft

def init (target : String) : Draft :=
  ⟨.empty target, ["err"], []⟩

/-- A name like `base` that neither a variable nor an import has. -/
def freshName (draft : Draft) (base : String) : String :=
  Naming.firstFree base (draft.names ++ draft.imports.qualifiers)

def bind (draft : Draft) (node : NodeId) (base : String) : String × Draft :=
  let name := draft.freshName base
  (name, { draft with names := name :: draft.names, bound := (node, name) :: draft.bound })

def boundName? (draft : Draft) (node : NodeId) : Option String :=
  draft.bound.lookup node

/-- The type as the function names it. -/
def typeExpr (catalog : Catalog) (t : TypeRef) (draft : Draft) : Go.TypeExpr × Draft :=
  let package := catalog.packageName t.importPath
  let (qualifier, imports) := draft.imports.addType t.importPath package t.name
  (⟨t.pointer, ⟨qualifier, t.name⟩⟩, { draft with imports })

/-- Names of the builtin types whose zero value is a number. -/
def numericTypes : List String := [
  "int", "int8", "int16", "int32", "int64", "uint", "uint8", "uint16", "uint32", "uint64",
  "uintptr", "float32", "float64", "byte", "rune", "complex64", "complex128"]

def builtinZero (name : String) : Go.Zero :=
  if name = "string" then .emptyString
  else if name = "bool" then .falsehood
  else if numericTypes.contains name then .number
  else .nil

def zero (catalog : Catalog) (t : TypeRef) (draft : Draft) : Go.Zero × Draft :=
  if t.pointer then
    (.nil, draft)
  else if t.isBuiltin then
    (builtinZero t.name, draft)
  else
    match (catalog.typeDecl? t).map TypeDecl.kind with
    | some .interface | some .map | some .slice | some .func | some .chan => (.nil, draft)
    | some .string => (.emptyString, draft)
    | some .bool => (.falsehood, draft)
    | some .number => (.number, draft)
    | some .struct =>
      let (type, draft) := draft.typeExpr catalog t
      (.literal type, draft)
    | none =>
      let (type, draft) := draft.typeExpr catalog t
      (.fresh type, draft)

/-- How a variable that holds a value of type `produced` gives one of type `wanted`. -/
def adapt (name : String) (produced : Option TypeRef) (wanted : TypeRef) : Go.Operand :=
  match produced.map TypeRef.pointer, wanted.pointer with
  | some true, false => ⟨.content, name⟩
  | some false, true => ⟨.address, name⟩
  | _, _ => ⟨.direct, name⟩

/-- The type of the value that a node holds. -/
def produced? (g : Graph) (node : NodeId) : Option TypeRef :=
  g.nodes[node]? >>= Node.produces?

/-- Runs a step on each item, each time on the draft as the step before left it. -/
def each {α β : Type} (step : α → Draft → Except GenerationError (β × Draft)) :
    List α → Draft → Except GenerationError (List β × Draft)
  | [], draft => .ok ([], draft)
  | item :: items, draft => do
    let (made, draft) ← step item draft
    let (more, draft) ← each step items draft
    .ok (made :: more, draft)

/-- Declares a parameter: first its type, then its variable. -/
def param (catalog : Catalog) (g : Graph) (node : NodeId) (draft : Draft) :
    Except GenerationError (Go.Param × Draft) :=
  match g.nodes[node]? >>= Node.type? with
  | none => .error .untypedParam
  | some t =>
    let (type, draft) := draft.typeExpr catalog t
    let package := if t.isBuiltin then "" else catalog.packageName t.importPath
    let (name, draft) := draft.bind node (Naming.variableName package t.name)
    .ok (⟨name, type⟩, draft)

def resultType (catalog : Catalog) (output : Output) (draft : Draft) :
    Except GenerationError (Go.ResultType × Draft) :=
  match output with
  | .error _ => .ok (.error, draft)
  | .value _ requested _ =>
    let (type, draft) := draft.typeExpr catalog requested
    .ok (.value type, draft)

/-- What an early return gives for a result. -/
def skipped (catalog : Catalog) (output : Output) (draft : Draft) :
    Except GenerationError (Go.Skipped × Draft) :=
  match output with
  | .error _ => .ok (.failure, draft)
  | .value _ requested _ =>
    let (value, draft) := draft.zero catalog requested
    .ok (.zero value, draft)

def argument (draft : Draft) (g : Graph) (p : Provider) (edge : Edge) :
    Except GenerationError Go.Argument :=
  match draft.boundName? edge.node with
  | none => .error (.unbound edge.resolved)
  | some name =>
    .ok ⟨p.inputs[edge.position]? >>= Input.field,
      adapt name (produced? g edge.node) edge.resolved⟩

def binding (g : Graph) (node : NodeId) (t : TypeRef) (p : Provider) (edges : List Edge)
    (draft : Draft) : Except GenerationError (Go.Binding × Draft) := do
  let args ← edges.mapM (draft.argument g p)
  let (qualifier, imports) := draft.imports.add p.importPath p.package
  let (name, draft) := { draft with imports }.bind node (Naming.variableName p.package t.name)
  if p.fallible && !g.outputs.any Output.isError then
    .error (.missingErrorResult p g.name)
  else
    .ok (⟨node, name, p, ⟨qualifier, p.name⟩, args⟩, draft)

def bindings (g : Graph) : List NodeId → Draft → Except GenerationError (List Go.Binding × Draft)
  | [], draft => .ok ([], draft)
  | node :: nodes, draft =>
    match g.nodes[node]? with
    | some (.provider t p _) => do
      let (made, draft) ← draft.binding g node t p (g.children node)
      let (more, draft) ← bindings g nodes draft
      .ok (made :: more, draft)
    | _ => bindings g nodes draft

def returned (draft : Draft) (g : Graph) (output : Output) :
    Except GenerationError Go.Returned :=
  match output with
  | .error _ => .ok .noError
  | .value node _ resolved =>
    match draft.boundName? node with
    | none => .error (.unboundResult resolved)
    | some name => .ok (.value (adapt name (produced? g node) resolved))

/-- The function of a graph, written from a draft. -/
def function (catalog : Catalog) (g : Graph) (draft : Draft) :
    Except GenerationError (Go.Function × Draft) := do
  let (params, draft) ← each (param catalog g) g.params draft
  let (results, draft) ← each (resultType catalog) g.outputs draft
  let (skipped, draft) ← each (skipped catalog) g.outputs draft
  let (body, draft) ← bindings g g.order draft
  let returned ← g.outputs.mapM (draft.returned g)
  .ok (⟨g.name, params, results, skipped, body, returned⟩, draft)

end Draft

structure Generator where
  catalog : Catalog
  imports : Imports

namespace Generator

def init (catalog : Catalog) : Generator :=
  ⟨catalog, .empty ""⟩

/-- Writes the function of a graph. Every function starts without imports. -/
def generate (generator : Generator) (g : Graph) :
    Except GenerationError (Artifact × Generator) := do
  let imports := generator.imports.reset g.target
  let (function, draft) ← Draft.function generator.catalog g { Draft.init g.target with imports }
  .ok (⟨generator.catalog.packageName g.target, draft.imports.sorted, function⟩,
    { generator with imports := draft.imports })

/-- The function is written from a new draft, whatever imports there were before. -/
theorem generate_eq (generator : Generator) (g : Graph) :
    generator.generate g =
      Draft.function generator.catalog g (.init g.target) >>= fun (function, draft) =>
        .ok (⟨generator.catalog.packageName g.target, draft.imports.sorted, function⟩,
          ⟨generator.catalog, draft.imports⟩) := by
  rw [generate, Imports.reset_eq]
  rfl

end Generator

namespace Catalog

/-- The function of a graph as a source file. -/
def generate (catalog : Catalog) (g : Graph) : Except GenerationError Artifact :=
  (·.1) <$> (Generator.init catalog).generate g

end Catalog

end Wiring
