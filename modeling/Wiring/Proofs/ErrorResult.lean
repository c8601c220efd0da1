import Wiring.Proofs.Spelling

/-!
The error result of a graph and of its function. A graph has an error result when one was asked for
or something in it can fail; the function returns the error of a call at once, in the place of the
error result, with zero values in all other places.
-/

namespace Wiring

open Resolution

/-- Where the error of a graph stands and where it comes from. -/
structure Graph.ErrorSettled (request : Request) (g : Graph) : Prop where
  /-- There is an output for each result, in order; an error that was not asked for comes last. -/
  results : g.outputs.map Output.requested? = request.results.map Dependency.type? ++
    if g.isFallible && !request.hasErrorResult then [none] else []
  once : g.outputs.countP Output.isError = if request.hasErrorResult || g.isFallible then 1 else 0
  source : ∀ source, .error source ∈ g.outputs → (source = .propagated ↔ g.isFallible = true)
  /-- A nil error is there to be returned, and for nothing else. -/
  zero : ∀ z : NodeId, g.nodes[z]? = some .zeroError ↔ .error (.zero z) ∈ g.outputs
  unique : ∀ z z' : NodeId, g.nodes[z]? = some .zeroError → g.nodes[z']? = some .zeroError → z = z'

theorem Output.isError_eq (output : Output) : output.isError = output.requested?.isNone := by
  cases output <;> rfl

theorem Graph.isFallible_iff {g : Graph} : g.isFallible = true ↔
    ∃ (id : NodeId) (t : TypeRef) (p : Provider) (edges : List Edge),
      g.nodes[id]? = some (.provider t p edges) ∧ p.fallible = true := by
  rw [isFallible, Array.any_eq_true]
  constructor
  · rintro ⟨id, hid, hfails⟩
    cases hnode : g.nodes[id] with
    | external t position => simp [hnode, Node.isFallible, Node.provider?] at hfails
    | zeroError => simp [hnode, Node.isFallible, Node.provider?] at hfails
    | provider t p edges =>
        refine ⟨id, t, p, edges, by simp [hid, hnode], ?_⟩
        simpa [hnode, Node.isFallible, Node.provider?] using hfails
  · rintro ⟨id, t, p, edges, hnode, hfails⟩
    obtain ⟨hid, heq⟩ := Array.getElem?_eq_some_iff.mp hnode
    refine ⟨id, hid, ?_⟩
    simpa [heq, Node.isFallible, Node.provider?] using hfails

/-- So far the outputs are those that were asked for. -/
theorem Scope.Answered.map_requested? {σ : Type} {R : σ → TypeRef → Supply → σ → Prop} {s s' : σ}
    {results : List Dependency} {outputs : List Output} (h : Answered R results s outputs s') :
    outputs.map Output.requested? = results.map Dependency.type? := by
  induction h with
  | nil => rfl
  | error htype _ ih => rw [List.map_cons, List.map_cons, ih, htype, Output.requested?]
  | value htype _ _ ih => rw [List.map_cons, List.map_cons, ih, htype, Output.requested?]

namespace Registry

section Settling

variable {outputs : List Output} {fallible : Bool} {nodes : Array Node}

/-- The error that an output comes to once it is known whether something can fail. -/
def settled (fallible : Bool) (z : NodeId) (output : Output) : Output :=
  if !fallible && output.isError then .error (.zero z) else output

theorem requested?_settled (fallible : Bool) (z : NodeId) (output : Output) :
    (settled fallible z output).requested? = output.requested? := by
  cases output with
  | error source => cases fallible <;> rfl
  | value node requested resolved => simp [settled, Output.isError]

theorem source_of_settled {output : Output} {z : NodeId} {source : ErrorSource}
    (hopen : ∀ z, output ≠ .error (.zero z)) (h : settled fallible z output = .error source) :
    source = .propagated ↔ fallible = true := by
  cases output with
  | value node requested resolved => simp [settled, Output.isError] at h
  | error before =>
      cases before with
      | zero old => exact absurd rfl (hopen old)
      | propagated =>
          cases fallible with
          | true =>
              cases h
              simp
          | false =>
              cases h
              simp

/-- Settling the error redirects the declared one, and it adds one if something can fail. -/
theorem settleError_eq (hvalue : fallible = true → outputs.any (!Output.isError ·) = true) :
    (settleError outputs fallible nodes).1 = outputs.map (settled fallible nodes.size) ++
      if fallible && !outputs.any Output.isError then [.error .propagated] else [] := by
  unfold settleError
  cases fallible with
  | true =>
      have hsame : outputs.map (settled true nodes.size) = outputs := List.map_id _
      rw [hsame]
      cases hdeclared : outputs.any Output.isError with
      | true => simp
      | false => simp only [hvalue rfl, if_true, Bool.not_false, Bool.and_self]
  | false =>
      cases hdeclared : outputs.any Output.isError with
      | true => simp [settled]
      | false =>
          have hsame : outputs.map (settled false nodes.size) = outputs := by
            refine (List.map_congr_left fun output hmem => ?_).trans (List.map_id outputs)
            have hvalue := List.any_eq_false.mp hdeclared output hmem
            simp [settled, hvalue]
          simp [hsame]

end Settling

variable {registry : Registry} {request : Request} {g : Graph} {outputs : List Output}
  {s : Resolution (registry.scope request) []}

theorem isFallible_graph
    (hresults : (registry.scope request).resolveResults request.hoist request.results false
      (start _) = .ok (outputs, s)) :
    (registry.graph request outputs s).isFallible = s.fallible := by
  rw [Scope.fallible_of_answered (Scope.answered_of_ok hresults), Graph.isFallible, graph]
  rcases settleError_cases outputs s.fallible s.nodes with ⟨more, -, heq⟩ | ⟨-, heq⟩
  · rw [heq]
  · rw [heq]
    simp [Node.isFallible, Node.provider?]

/-- Where something can fail, a value is returned. -/
theorem any_value_of_fallible (h : registry.load request = .ok (registry.graph request outputs s))
    (hfails : (registry.graph request outputs s).isFallible = true) :
    outputs.any (!Output.isError ·) = true := by
  obtain ⟨id, t, p, edges, hnode, -⟩ := Graph.isFallible_iff.mp hfails
  obtain ⟨position, root, r, u, hposition, -⟩ := exists_below h ⟨p, edges, hnode⟩
  have hmem := mem_settleError rfl (List.mem_of_getElem? hposition)
  exact List.any_eq_true.mpr ⟨_, hmem, rfl⟩

/-- The nil error is made where it is returned. -/
theorem zeroError_iff (h : registry.load request = .ok g) (z : NodeId) :
    g.nodes[z]? = some .zeroError ↔ .error (.zero z) ∈ g.outputs := by
  refine ⟨fun hnode => ?_, zero_of_load h⟩
  obtain ⟨m, built, before, slot, after, hlayout⟩ := exists_layout h
  have hslot := (hlayout.zero z).mp hnode
  rw [hlayout.outputs]
  exact List.mem_append_left _ (List.mem_append_right _ hslot)

theorem zeroError_unique (h : registry.load request = .ok g) {z z' : NodeId}
    (hz : g.nodes[z]? = some .zeroError) (hz' : g.nodes[z']? = some .zeroError) : z = z' := by
  obtain ⟨m, built, before, slot, after, hlayout⟩ := exists_layout h
  have hslot := (hlayout.zero z).mp hz
  have hslot' := (hlayout.zero z').mp hz'
  rcases hlayout.nilError with rfl | rfl
  · cases hslot
  · cases List.mem_singleton.mp hslot
    cases List.mem_singleton.mp hslot'
    rfl

theorem any_isError_answered
    (hresults : (registry.scope request).resolveResults request.hoist request.results false
      (start _) = .ok (outputs, s)) :
    outputs.any Output.isError = request.hasErrorResult := by
  have hsame := congrArg (List.any · Option.isNone) (Scope.answered_of_ok hresults).map_requested?
  simp only [List.any_map, Function.comp_def, ← Output.isError_eq, ← Dependency.isError_eq] at hsame
  exact hsame

theorem countP_isError_answered
    (hresults : (registry.scope request).resolveResults request.hoist request.results false
      (start _) = .ok (outputs, s)) :
    outputs.countP Output.isError = if request.hasErrorResult then 1 else 0 := by
  have hmost := ((Scope.resolveResults_ok_iff _ _ _).mp ⟨_, _, hresults⟩).2
  rw [← (Scope.answered_of_ok hresults).countP_isError] at hmost
  rw [← any_isError_answered hresults]
  cases hdeclared : outputs.any Output.isError with
  | true =>
      rw [List.any_eq_true, ← List.countP_pos_iff] at hdeclared
      simp only [if_true]
      omega
  | false =>
      rw [List.any_eq_false, ← List.countP_eq_zero] at hdeclared
      simpa using hdeclared

/-- The outputs of a graph are those that were asked for, and an error that was not. -/
theorem outputs_graph (h : registry.load request = .ok (registry.graph request outputs s))
    (hresults : (registry.scope request).resolveResults request.hoist request.results false
      (start _) = .ok (outputs, s)) :
    (registry.graph request outputs s).outputs = outputs.map (settled s.fallible s.nodes.size) ++
      if s.fallible && !request.hasErrorResult then [.error .propagated] else [] := by
  rw [← any_isError_answered hresults]
  apply settleError_eq
  rw [← isFallible_graph hresults]
  exact any_value_of_fallible h

theorem errorSettled_of_load (h : registry.load request = .ok g) : g.ErrorSettled request := by
  have hload := h
  obtain ⟨-, outputs, s, hresults, -, rfl⟩ := exists_of_load_ok h
  have hanswered := Scope.answered_of_ok hresults
  have hfallible := isFallible_graph hresults
  have houtputs := outputs_graph hload hresults
  refine
    { results := ?_
      once := ?_
      source := ?_
      zero := zeroError_iff hload
      unique := fun z z' => zeroError_unique hload }
  · rw [houtputs, hfallible, List.map_append, List.map_map, ← hanswered.map_requested?]
    congr 1
    · exact List.map_congr_left fun output _ => requested?_settled _ _ output
    · split <;> rfl
  · have hkept : (outputs.map (settled s.fallible s.nodes.size)).countP Output.isError =
        outputs.countP Output.isError := by
      rw [List.countP_map]
      apply List.countP_congr
      intro output _
      simp only [Function.comp, Output.isError_eq, requested?_settled]
    rw [houtputs, hfallible, List.countP_append, hkept, countP_isError_answered hresults]
    cases request.hasErrorResult <;> cases s.fallible <;> rfl
  · intro source hmem
    rw [houtputs] at hmem
    rw [hfallible]
    rcases List.mem_append.mp hmem with hmem | hnew
    · obtain ⟨output, hold, heq⟩ := List.mem_map.mp hmem
      exact source_of_settled (hanswered.ne_zero output hold) heq
    · split at hnew
      case isTrue hboth =>
        cases List.mem_singleton.mp hnew
        exact iff_of_true rfl (Bool.and_eq_true_iff.mp hboth).1
      case isFalse => cases hnew

end Registry

/-- The kind of a type: that of its declaration, if there is one, or what the language says of a
builtin type. One that is neither a text, a truth value nor a number is taken for an interface. -/
def Catalog.kind? (catalog : Catalog) (t : TypeRef) : Option TypeKind :=
  if t.isBuiltin then
    some (if t.name = "string" then .string else if t.name = "bool" then .bool
      else if t.name ∈ Draft.numericTypes then .number else .interface)
  else
    (catalog.typeDecl? t).map TypeDecl.kind

/-- What is written for the zero value of a type, in which `means` says how the type is spelled. -/
inductive ZeroOf (catalog : Catalog) (means : TypeRef → Go.TypeExpr → Prop) (t : TypeRef) :
    Go.Zero → Prop where
  | pointer (hpointer : t.pointer = true) : ZeroOf catalog means t .nil
  | nilable {kind : TypeKind} (hvalue : t.pointer = false) (hkind : catalog.kind? t = some kind)
      (hnil : kind.isNilable = true) : ZeroOf catalog means t .nil
  | string (hvalue : t.pointer = false) (hkind : catalog.kind? t = some .string) :
      ZeroOf catalog means t .emptyString
  | bool (hvalue : t.pointer = false) (hkind : catalog.kind? t = some .bool) :
      ZeroOf catalog means t .falsehood
  | number (hvalue : t.pointer = false) (hkind : catalog.kind? t = some .number) :
      ZeroOf catalog means t .number
  | struct {e : Go.TypeExpr} (hvalue : t.pointer = false)
      (hkind : catalog.kind? t = some .struct) (he : means t e) :
      ZeroOf catalog means t (.literal e)
  /-- Nothing is known of the type, so the zero value is that of a fresh variable. -/
  | unknown {e : Go.TypeExpr} (hvalue : t.pointer = false) (hkind : catalog.kind? t = none)
      (he : means t e) : ZeroOf catalog means t (.fresh e)

theorem ZeroOf.imp {catalog : Catalog} {means means' : TypeRef → Go.TypeExpr → Prop} {t : TypeRef}
    {z : Go.Zero} (h : ZeroOf catalog means t z)
    (himp : ∀ e, z.type? = some e → means t e → means' t e) : ZeroOf catalog means' t z := by
  cases h with
  | pointer hpointer => exact .pointer hpointer
  | nilable hvalue hkind hnil => exact .nilable hvalue hkind hnil
  | string hvalue hkind => exact .string hvalue hkind
  | bool hvalue hkind => exact .bool hvalue hkind
  | number hvalue hkind => exact .number hvalue hkind
  | struct hvalue hkind he => exact .struct hvalue hkind (himp _ rfl he)
  | unknown hvalue hkind he => exact .unknown hvalue hkind (himp _ rfl he)

/-- What stands for an output: one thing for the error, and for a value something that fits it. -/
inductive Output.Gives {α : Type} (failure : α) (R : NodeId → TypeRef → TypeRef → α → Prop) :
    Output → α → Prop where
  | error {source : ErrorSource} : Gives failure R (.error source) failure
  | value {node : NodeId} {requested resolved : TypeRef} {a : α} (h : R node requested resolved a) :
      Gives failure R (.value node requested resolved) a

namespace Draft

variable {catalog : Catalog} {draft draft' : Draft}

end Draft

namespace Draft.Written

variable {catalog : Catalog} {g : Graph} {f : Go.Function} {target : String}
  {signed typed zeroed last : Draft}

end Draft.Written

namespace Registry

variable {registry : Registry} {request : Request} {g : Graph}

end Registry

namespace Sample

end Sample

end Wiring
