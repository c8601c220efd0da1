import Wiring.Proofs.Hygiene
import Wiring.Proofs.Typing

/-!
Pointers between what a consumer declares and what it is given. An expression is adapted to the type
that the declared one comes to. So a consumer is given exactly what it declares as long as nothing
is substituted for it; a substitute that differs by the pointer only is given as it is, though the
signature still says what was declared.
-/

namespace Wiring

/-- Types of one base are the same or differ by the pointer. -/
theorem TypeRef.eq_or_eq_withPointer {t u : TypeRef} (h : t.base = u.base) :
    t = u ∨ t = u.withPointer (!u.pointer) := by
  obtain ⟨hpath, hname⟩ := base_eq_iff.mp h
  obtain ⟨path, name, pointer⟩ := t
  obtain ⟨path', name', pointer'⟩ := u
  cases hpath
  cases hname
  cases pointer <;> cases pointer' <;> simp [withPointer]

/-- The value of a node is of the declared type, up to the pointer. -/
def Graph.Offers (g : Graph) (node : NodeId) (declared : TypeRef) : Prop :=
  ∃ u, Draft.produced? g node = some u ∧ u.base = declared.base

/-- An expression has exactly the declared type wherever the value of the node allows it. -/
def Graph.Suits (g : Graph) (f : Go.Function) (node : NodeId) (declared : TypeRef)
    (operand : Go.Operand) : Prop :=
  g.Offers node declared → operand.HasType (g.Declares f) declared

/-- All arguments and all returned values suit what their consumers declare. -/
structure Artifact.Suited (artifact : Artifact) (g : Graph) : Prop where
  arguments : ∀ b ∈ artifact.function.body, List.Forall₂ (fun e (argument : Go.Argument) =>
    g.Suits artifact.function e.node e.requested argument.value) (g.children b.node) b.args
  returned : List.Forall₂ (Output.Returns fun node requested _ operand =>
    g.Suits artifact.function node requested operand) g.outputs artifact.function.returned

/-- An expression has the declared type exactly if there is no substitute for it. With a substitute
of the same base it has the wrong pointer. -/
structure Graph.Yields (g : Graph) (f : Go.Function) (aliases : Aliases) (node : NodeId)
    (declared : TypeRef) (operand : Go.Operand) : Prop where
  hasType_iff : operand.HasType (g.Declares f) declared ↔ aliases.get? declared = none
  flipped : g.Offers node declared → aliases.get? declared ≠ none →
    operand.HasType (g.Declares f) (declared.withPointer (!declared.pointer))

namespace Registry

variable {registry : Registry} {request : Request} {g : Graph} {node : NodeId} {t r : TypeRef}

section Written

variable {catalog : Catalog} {target : String} {f : Go.Function} {signed typed zeroed last : Draft}
  {operand : Go.Operand}

/-- What an expression of the resolved type is to a consumer of the declared type. -/
theorem yields_of_hasType (h : registry.load request = .ok g)
    (hwritten : Draft.Written catalog g (.init target) f signed typed zeroed last)
    (halias : request.aliases.resolve r = .ok t)
    (hsupplies : (registry.scope request).Supplies g.nodes t node)
    (htyped : operand.HasType (g.Declares f) t) : g.Yields f request.aliases node r operand := by
  refine ⟨⟨fun hdeclared => ?_, fun hplain => ?_⟩, fun hoffers hsubstituted => ?_⟩
  · -- An expression has one type, so what is declared has come to itself.
    have hunique : ∀ x t u, g.Declares f x t → g.Declares f x u → t = u :=
      fun _ _ _ => declares_unique h hwritten
    rw [htyped.unique hunique hdeclared] at halias
    exact Aliases.get?_of_resolve halias
  · have hsame := Aliases.resolve_of_get? hplain
    rw [halias] at hsame
    cases hsame
    exact htyped
  · obtain ⟨u, hproduced, hbase⟩ := hoffers
    obtain ⟨v, hsupplied, hbase'⟩ := produced_of_supplies h hsupplies
    rw [hproduced] at hsupplied
    cases hsupplied
    rcases TypeRef.eq_or_eq_withPointer (hbase'.symm.trans hbase) with rfl | rfl
    · exact absurd (Aliases.get?_of_resolve halias) hsubstituted
    · exact htyped

end Written

/-- Every graph of a request has a file. In it a constructor or the caller is given exactly the type
that is declared if the request has no substitute for this type, and not otherwise. -/
theorem yields_of_load (h : registry.load request = .ok g) (generator : Generator) :
    ∃ artifact after, generator.generate g = .ok (artifact, after) ∧
      (∀ b ∈ artifact.function.body, List.Forall₂ (fun e (argument : Go.Argument) =>
        g.Yields artifact.function request.aliases e.node e.requested argument.value)
        (g.children b.node) b.args) ∧
      List.Forall₂ (Output.Returns fun node requested _ operand =>
        g.Yields artifact.function request.aliases node requested operand)
        g.outputs artifact.function.returned := by
  obtain ⟨artifact, after, signed, typed, zeroed, last, hgenerate, hwritten, -⟩ :=
    written_of_load h generator
  refine ⟨artifact, after, hgenerate, fun b hb => ?_, ?_⟩
  · obtain ⟨t, hnode⟩ := (scoped_of_written h hwritten).calls b hb
    apply List.forall₂_imp_of_mem (hasType_arguments h hwritten hb)
    intro e he argument htyped
    obtain ⟨i, input, -, hlinked⟩ := (wired_of_load h hnode).exists_linked he
    have halias := hlinked.resolved
    rw [← hlinked.requested] at halias
    exact yields_of_hasType h hwritten halias hlinked.supplies htyped
  · apply List.forall₂_imp_of_mem (hasType_returned h hwritten)
    intro output houtput made hreturns
    apply hreturns.imp
    intro node requested resolved operand heq htyped
    obtain ⟨halias, hsupplies⟩ := returned_of_load h (heq ▸ houtput)
    exact yields_of_hasType h hwritten halias hsupplies htyped

end Registry

namespace Sample

/-- A package that opens connections and gives pointers to them. -/
def pool : Registry :=
  .ofList
    [{ importPath := "app/db"
       name := none
       types := [⟨"Conn", .struct, []⟩]
       functions := [⟨"Open", [], [connection.withPointer true]⟩] }]

/-- A connection, for which a pointer to one stands. -/
def poolRequest : Request where
  name := "Load"
  target := "app/web"
  params := []
  results := [.type connection]
  aliases := ⟨.ofList [(connection, connection.withPointer true)]⟩
  hoist := false

def opener : Provider where
  importPath := "app/db"
  package := "db"
  name := "Open"
  kind := .function
  inputs := []
  result := connection.withPointer true
  fallible := false

def poolGraph : Graph where
  name := "Load"
  target := "app/web"
  hoist := false
  nodes := #[.provider (connection.withPointer true) opener []]
  params := []
  outputs := [.value 0 connection (connection.withPointer true)]

/-- The function declares a connection and returns a pointer to one. -/
def poolFunction : Go.Function where
  name := "Load"
  params := []
  results := [.value ⟨false, some "db", "Conn"⟩]
  skipped := [.zero (.literal ⟨false, some "db", "Conn"⟩)]
  body := [⟨0, "dbConn", opener, ⟨some "db", "Open"⟩, []⟩]
  returned := [.value ⟨.direct, "dbConn"⟩]

theorem load_pool : pool.load poolRequest = .ok poolGraph := by
  with_unfolding_all rfl

theorem order_poolGraph : poolGraph.order = [0] := by
  cbv

theorem function_pool : ∃ last,
    Draft.function pool.catalog poolGraph (.init poolGraph.target) = .ok (poolFunction, last) ∧
      last.imports.specs = [("app/db", "db")] := by
  apply Draft.exists_of_map_function
  unfold Draft.function
  rw [order_poolGraph]
  decide +kernel

theorem yields_pool : pool.load poolRequest = .ok poolGraph ∧
    ∃ artifact after, (Generator.init pool.catalog).generate poolGraph = .ok (artifact, after) ∧
      (∀ b ∈ artifact.function.body, List.Forall₂ (fun e (argument : Go.Argument) =>
        poolGraph.Yields artifact.function poolRequest.aliases e.node e.requested argument.value)
        (poolGraph.children b.node) b.args) ∧
      List.Forall₂ (Output.Returns fun node requested _ operand =>
        poolGraph.Yields artifact.function poolRequest.aliases node requested operand)
        poolGraph.outputs artifact.function.returned :=
  ⟨load_pool, Registry.yields_of_load load_pool (.init pool.catalog)⟩

/-- The only variable of the function holds a pointer, and it is returned as it is. -/
theorem not_suited_pool : pool.load poolRequest = .ok poolGraph ∧
    ∃ artifact after, (Generator.init pool.catalog).generate poolGraph = .ok (artifact, after) ∧
      ¬ artifact.Suited poolGraph := by
  obtain ⟨last, hfunction, -⟩ := function_pool
  refine ⟨load_pool, _, _, Except.bind_eq_ok_iff.mpr ⟨_, hfunction, rfl⟩, fun hsuited => ?_⟩
  have honly : ∀ x t, poolGraph.Declares poolFunction x t → t = connection.withPointer true := by
    intro x t hdeclares
    cases hdeclares with
    | param hparam _ => cases hparam
    | binding hb =>
        cases List.mem_singleton.mp hb
        rfl
  obtain ⟨hreturns, -⟩ := List.forall₂_cons.mp hsuited.returned
  cases hreturns with
  | value hsuits =>
      cases hsuits ⟨connection.withPointer true, rfl, rfl⟩ with
      | direct hdeclares => exact absurd (honly _ _ hdeclares) (by decide)

end Sample

end Wiring
