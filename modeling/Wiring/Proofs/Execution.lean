import Mathlib.Logic.Function.Basic
import Wiring.Proofs.Drafting
import Wiring.Proofs.Evaluation

/-!
Running a generated function: its statements are taken from top to bottom, each call as the
constructor that it was written for, and the first one that fails ends the run. A graph is run in
the same way, in its order and with values at its nodes. The function that is written for a graph
does what the graph does, since every variable holds the value of its node.
-/

namespace Wiring

universe u

variable {V E : Type u}

/-- The values that are known so far, by their names or by their nodes. -/
abbrev Store (κ : Type) (V : Type u) :=
  κ → Option V

namespace Store

variable {κ : Type} [DecidableEq κ]

def empty : Store κ V :=
  fun _ => none

def set (store : Store κ V) (key : κ) (value : V) : Store κ V :=
  Function.update store key (some value)

/-- Takes in several values in order. -/
def setAll (store : Store κ V) : List κ → List V → Store κ V
  | key :: keys, value :: values => (store.set key value).setAll keys values
  | _, _ => store

theorem set_self (store : Store κ V) (key : κ) (value : V) : store.set key value key = some value :=
  Function.update_self ..

theorem set_of_ne {key other : κ} (store : Store κ V) (value : V) (h : other ≠ key) :
    store.set key value other = store other :=
  Function.update_of_ne h ..

end Store

namespace Go

/-- Calls the constructor with the values of its arguments and binds the variable. -/
def Binding.exec (interp : Interpretation V E) (env : Store String V) (binding : Binding) :
    Except (Halt E) (Store String V) := do
  let values ← binding.args.mapM fun argument => Halt.expect (env argument.value.name)
  let value ← interp.apply binding.provider values
  .ok (env.set binding.name value)

def Returned.outcome (env : Store String V) : Returned → Except (Halt E) (Outcome V E)
  | value operand => .value <$> Halt.expect (env operand.name)
  | noError => .ok (.error none)

def Skipped.outcome (e : E) : Skipped → Outcome V E
  | zero _ => .zero
  | failure => .error (some e)

/-- What a call of the function returns: its last return, or the early one after the first statement
that fails. -/
def Function.run (interp : Interpretation V E) (function : Function) (args : List V) :
    Option (List (Outcome V E)) :=
  Halt.conclude
    (do
      let env ← function.body.foldlM (Binding.exec interp)
        (Store.empty.setAll (function.params.map Param.name) args)
      function.returned.mapM (Returned.outcome env))
    fun e => function.skipped.map (Skipped.outcome e)

end Go

namespace Output

def outcome (store : Store NodeId V) : Output → Except (Halt E) (Outcome V E)
  | value node _ _ => .value <$> Halt.expect (store node)
  | error _ => .ok (.error none)

/-- What the caller gets if something fails. -/
def failed (e : E) (output : Output) : Outcome V E :=
  if output.isError then .error (some e) else .zero

end Output

namespace Graph

/-- Constructs the value of a provider node from those of the nodes it consumes. -/
def step (g : Graph) (interp : Interpretation V E) (store : Store NodeId V) (id : NodeId) :
    Except (Halt E) (Store NodeId V) :=
  match g.nodes[id]? with
  | some (.provider _ p _) => do
    let values ← (g.children id).mapM fun edge => Halt.expect (store edge.node)
    let value ← interp.apply p values
    .ok (store.set id value)
  | _ => .ok store

/-- Takes the nodes in order, and returns the values that the outputs name. -/
def run (interp : Interpretation V E) (g : Graph) (args : List V) : Option (List (Outcome V E)) :=
  Halt.conclude
    (do
      let store ← g.order.foldlM (g.step interp) (Store.empty.setAll g.params args)
      g.outputs.mapM (Output.outcome store))
    fun e => g.outputs.map (Output.failed e)

variable {g : Graph} {interp : Interpretation V E} {store : Store NodeId V} {id : NodeId}

theorem step_of_provider {t : TypeRef} {p : Provider} {edges : List Edge}
    (hnode : g.nodes[id]? = some (.provider t p edges)) :
    g.step interp store id = (do
      let values ← (g.children id).mapM fun edge => Halt.expect (store edge.node)
      let value ← interp.apply p values
      .ok (store.set id value)) := by
  rw [step, hnode]

theorem step_of_other (hnode : ∀ t p edges, g.nodes[id]? ≠ some (.provider t p edges)) :
    g.step interp store id = .ok store := by
  unfold step
  split
  · exact absurd ‹_› (hnode _ _ _)
  · rfl

end Graph

namespace Draft

variable {catalog : Catalog} {g : Graph} {draft draft' : Draft} {env : Store String V}
  {store : Store NodeId V} {node : NodeId} {name : String}

/-- Every variable holds the value of its node. -/
def Agrees (draft : Draft) (env : Store String V) (store : Store NodeId V) : Prop :=
  ∀ id name, draft.boundName? id = some name → name ∈ draft.names ∧ env name = store id

theorem agrees_init (target : String) :
    (Draft.init target).Agrees (V := V) .empty .empty := by
  intro id name hname
  cases hname

theorem Agrees.keeps (h : draft.Agrees env store) (hkeeps : draft.Keeps draft') :
    draft'.Agrees env store := by
  intro id name hname
  rw [hkeeps.boundName?] at hname
  rw [hkeeps.names]
  exact h id name hname

/-- A new variable does not hide one that is in use. -/
theorem Agrees.gives (h : draft.Agrees env store) (hgives : draft.Gives node name draft')
    (value : V) : draft'.Agrees (env.set name value) (store.set node value) := by
  intro id other hother
  rw [hgives.names]
  by_cases heq : id = node
  · rw [heq, hgives.boundName?_self] at hother
    cases hother
    rw [heq, Store.set_self, Store.set_self]
    exact ⟨List.mem_cons_self, rfl⟩
  · rw [hgives.boundName?_of_ne heq] at hother
    obtain ⟨hmem, hsame⟩ := h id other hother
    have hne : other ≠ name := by
      rintro rfl
      exact hgives.fresh hmem
    rw [Store.set_of_ne env value hne, Store.set_of_ne store value heq]
    exact ⟨List.mem_cons_of_mem _ hmem, hsame⟩

theorem Agrees.params {nodes : List NodeId} {params : List Go.Param} {args : List V}
    (h : draft.Agrees env store)
    (hparams : Each (fun node draft made draft' => draft.Gives node made.name draft') nodes draft
      params draft') (hargs : args.length = nodes.length) :
    draft'.Agrees (env.setAll (params.map Go.Param.name) args) (store.setAll nodes args) := by
  induction hparams generalizing env store args with
  | nil =>
      cases args with
      | nil => exact h
      | cons value args => cases hargs
  | cons hfirst _ ih =>
      cases args with
      | nil => cases hargs
      | cons value args =>
          simp only [List.length_cons, Nat.add_right_cancel_iff] at hargs
          exact ih (h.gives hfirst value) hargs

/-- The arguments of a call have the values of the nodes that the constructor consumes. -/
theorem Agrees.arguments {p : Provider} {edges : List Edge} {args : List Go.Argument}
    (h : draft.Agrees env store) (hargs : edges.mapM (draft.argument g p) = .ok args) :
    (args.mapM fun argument => (Halt.expect (env argument.value.name) : Except (Halt E) V)) =
      edges.mapM fun edge => Halt.expect (store edge.node) := by
  have hmade := (List.mapM_eq_ok_iff.mp hargs).flip
  refine List.mapM_congr_of_forall₂ hmade fun argument edge hargument => ?_
  rw [(h _ _ (boundName?_of_argument hargument)).2]

/-- A statement makes the same call as its node. -/
theorem Agrees.binding {t : TypeRef} {p : Provider} {edges : List Edge} {made : Go.Binding}
    (h : draft.Agrees env store) (interp : Interpretation V E)
    (hnode : g.nodes[node]? = some (.provider t p edges))
    (hwrites : draft.Writes g node t p (g.children node) made draft') :
    ∃ call : Except (Halt E) V,
      made.exec interp env = (do let value ← call; .ok (env.set made.name value)) ∧
      g.step interp store node = (do let value ← call; .ok (store.set node value)) := by
  refine ⟨(do
    let values ← (g.children node).mapM fun edge => Halt.expect (store edge.node)
    interp.apply p values), ?_, ?_⟩
  · rw [Go.Binding.exec, h.arguments hwrites.args, hwrites.provider, bind_assoc]
  · rw [Graph.step_of_provider hnode, bind_assoc]

/-- The statements of a function fail where the nodes of its graph do, or both run to the end. -/
theorem Agrees.body {nodes : List NodeId} {body : List Go.Binding} (h : draft.Agrees env store)
    (interp : Interpretation V E) (hbinds : Binds g nodes draft body draft') :
    (∃ halt, body.foldlM (Go.Binding.exec interp) env = .error halt ∧
      nodes.foldlM (g.step interp) store = .error halt) ∨
    ∃ env' store', body.foldlM (Go.Binding.exec interp) env = .ok env' ∧
      nodes.foldlM (g.step interp) store = .ok store' ∧ draft'.Agrees env' store' := by
  induction hbinds generalizing env store with
  | nil => exact Or.inr ⟨env, store, rfl, rfl, h⟩
  | @provider node nodes draft mid draft' made more t p edges hnode hfirst _ ih =>
      obtain ⟨call, hexec, hstep⟩ := h.binding interp hnode hfirst
      rw [List.foldlM_cons, List.foldlM_cons, hexec, hstep]
      cases call with
      | error halt => exact Or.inl ⟨halt, rfl, rfl⟩
      | ok value => exact ih (h.gives hfirst.gives value)
  | other hnode _ ih =>
      rw [List.foldlM_cons, Graph.step_of_other hnode]
      exact ih h

theorem Agrees.returned {outputs : List Output} {returned : List Go.Returned}
    (h : draft.Agrees env store) (hreturned : outputs.mapM (draft.returned g) = .ok returned) :
    (returned.mapM (Go.Returned.outcome env) : Except (Halt E) (List (Outcome V E))) =
      outputs.mapM (Output.outcome store) := by
  have hmade := (List.mapM_eq_ok_iff.mp hreturned).flip
  refine List.mapM_congr_of_forall₂ hmade fun made output hone => ?_
  cases output with
  | error source =>
      cases hone
      rfl
  | value id requested resolved =>
      simp only [Draft.returned] at hone
      split at hone
      case h_1 => cases hone
      case h_2 name hname =>
        cases hone
        rw [Go.Returned.outcome, adapt_name, (h _ _ hname).2, Output.outcome]

/-- An early return has the error where the last one has the nil error. -/
theorem map_skipped {outputs : List Output} {skipped : List Go.Skipped} (e : E)
    (h : Each (fun output draft made draft' =>
      Draft.skipped catalog output draft = .ok (made, draft')) outputs draft skipped draft') :
    (skipped.map (Go.Skipped.outcome e) : List (Outcome V E)) = outputs.map (Output.failed e) := by
  induction h with
  | nil => rfl
  | @cons output outputs draft mid draft' made more hfirst _ ih =>
      rw [List.map_cons, List.map_cons, ih]
      cases output with
      | error source =>
          cases hfirst
          rfl
      | value id requested resolved =>
          cases hfirst
          rfl

/-- The function that is written for a graph does what the graph does. -/
theorem run_function {target : String} {f : Go.Function}
    (h : function catalog g (.init target) = .ok (f, draft')) {args : List V}
    (hargs : args.length = g.params.length) (interp : Interpretation V E) :
    f.run interp args = g.run interp args := by
  obtain ⟨signed, typed, zeroed, hwritten⟩ := exists_written h
  have hparams := hwritten.params.mono fun _ _ _ _ => gives_of_param
  have hsigned := (agrees_init target).params hparams hargs
  have hzeroed := hsigned.keeps hwritten.keeps
  have hfailed : (fun e => (f.skipped.map (Go.Skipped.outcome e) : List (Outcome V E))) =
      fun e => g.outputs.map (Output.failed e) := funext fun e => map_skipped e hwritten.skipped
  rw [Go.Function.run, Graph.run, hfailed]
  rcases hzeroed.body interp hwritten.body with
    ⟨halt, hbody, horder⟩ | ⟨env, store, hbody, horder, hagrees⟩
  · rw [hbody, horder]
    rfl
  · rw [hbody, horder]
    exact congrArg (Halt.conclude · _) (hagrees.returned hwritten.returned)

end Draft

end Wiring
