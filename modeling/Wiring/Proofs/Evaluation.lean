import Wiring.Proofs.Expansion
import Wiring.Proofs.Failure
import Wiring.Proofs.Request

/-!
The meaning of a request, without any graph. Given what the constructors of the registry do, each
result is evaluated in turn: a type that a parameter supplies has the value of the parameter, and any
other one what its provider constructs from the values of its inputs, taken from left to right. The
first constructor that fails ends the evaluation.
-/

namespace Wiring

universe u

variable {V E : Type u}

/-- What the constructors do: they take the values of their inputs and give a value, or an error if
they are declared to. A value and a pointer to it are not told apart. -/
structure Interpretation (V E : Type u) where
  construct : Provider → List V → Except E V
  infallible : ∀ p values e, p.fallible = false → construct p values ≠ .error e

/-- Why an evaluation or a run has no value. -/
inductive Halt (E : Type u) where
  /-- A constructor has failed. -/
  | failed (e : E)
  /-- Nothing says how to go on: a variable has no value, or a type cannot be built. -/
  | stuck
deriving DecidableEq, Repr

/-- What the caller of a function gets in one position of its results. -/
inductive Outcome (V E : Type u) where
  | value (v : V)
  /-- The zero value of the type, since the function has given up. -/
  | zero
  /-- The error, or nil. -/
  | error (e : Option E)
deriving DecidableEq, Repr

namespace Halt

/-- A value that has to be there. -/
def expect : Option V → Except (Halt E) V
  | some v => .ok v
  | none => .error .stuck

/-- What the caller gets from an evaluation of all results, if a failure is reported as `failed`
says. -/
def conclude (run : Except (Halt E) (List (Outcome V E))) (failed : E → List (Outcome V E)) :
    Option (List (Outcome V E)) :=
  match run with
  | .ok outcomes => some outcomes
  | .error (.failed e) => some (failed e)
  | .error .stuck => none

end Halt

namespace Interpretation

/-- Constructs a value, under whichever pointer the constructor is used. Only a constructor that is
declared to can report an error. -/
def apply (interp : Interpretation V E) (p : Provider) (values : List V) : Except (Halt E) V :=
  match interp.construct p.erased values with
  | .ok v => .ok v
  | .error e => if p.fallible then .error (.failed e) else .error .stuck

/-- Whether some constructor involved may fail: an interpretation without any values. -/
def fallibility : Interpretation Bool Empty where
  construct p values := .ok (p.fallible || values.any id)
  infallible := by simp

/-- A constructor gives a value or fails. -/
theorem apply_cases (interp : Interpretation V E) (p : Provider) (values : List V) :
    (∃ v, interp.apply p values = .ok v) ∨ ∃ e, interp.apply p values = .error (.failed e) := by
  unfold apply
  cases hconstruct : interp.construct p.erased values with
  | ok v => exact Or.inl ⟨v, rfl⟩
  | error e =>
      cases hfallible : p.fallible with
      | true => exact Or.inr ⟨e, rfl⟩
      | false =>
          have hsafe : p.erased.fallible = false := by rwa [Provider.erased_fallible]
          exact absurd hconstruct (interp.infallible _ values e hsafe)

theorem apply_erased (interp : Interpretation V E) (p : Provider) (values : List V) :
    interp.apply p.erased values = interp.apply p values := by
  rw [apply, apply, Provider.erased_erased, Provider.erased_fallible]

end Interpretation

namespace Scope

/-- The value of a requested type. The types on the path are being evaluated, so that meeting one of
them again leads nowhere. -/
def evaluate (scope : Scope) (interp : Interpretation V E) (args : List V) (path : List TypeRef)
    (r : TypeRef) : Except (Halt E) V :=
  match scope.aliases.resolve r with
  | .error _ => .error .stuck
  | .ok t =>
    match scope.external? t with
    | some id => Halt.expect args[id]?
    | none =>
      if hpath : t.base ∈ path.map TypeRef.base then
        .error .stuck
      else
        match hfind : scope.registry.find t with
        | .error _ => .error .stuck
        | .ok p => do
          have := Registry.unopened_append_lt hfind hpath
          let values ← p.inputs.mapM fun input =>
            scope.evaluate interp args (path ++ [t]) input.type
          interp.apply p values
termination_by scope.registry.unopened path

/-- Something that a type is built from may fail. -/
def mayFail (scope : Scope) (r : TypeRef) : Bool :=
  scope.evaluate .fallibility (scope.params.map fun _ => false) [] r matches .ok true

/-- What the caller gets for a result if nothing fails. -/
def evaluateResult (scope : Scope) (interp : Interpretation V E) (args : List V)
    (result : Dependency) : Except (Halt E) (Outcome V E) :=
  match result.type? with
  | some r => .value <$> scope.evaluate interp args [] r
  | none => .ok (.error none)

end Scope

/-- What the caller gets for a result if something fails. -/
def Dependency.failed (e : E) (result : Dependency) : Outcome V E :=
  if result.isError then .error (some e) else .zero

namespace Registry

/-- The results of the function of a request: those requested, and an error after them if something
may fail and no error is requested. -/
def returned (registry : Registry) (request : Request) : List Dependency :=
  if !request.hasErrorResult && request.resultTypes.any (registry.scope request).mayFail then
    request.results ++ [.error]
  else
    request.results

/-- What a request comes to: the values of its results, evaluated in order, or the first failure. -/
def evaluate (registry : Registry) (request : Request) (interp : Interpretation V E)
    (args : List V) : Option (List (Outcome V E)) :=
  Halt.conclude
    ((registry.returned request).mapM ((registry.scope request).evaluateResult interp args))
    fun e => (registry.returned request).map (Dependency.failed e)

end Registry

namespace BuildTree

mutual

/-- The value of a tree: that of a parameter, or what the constructor at the root makes of the values
of its inputs. -/
def eval (interp : Interpretation V E) (args : List V) : BuildTree → Except (Halt E) V
  | .external position => Halt.expect args[position]?
  | .provider _ p inputs => do
    let values ← evalInputs interp args inputs
    interp.apply p values
  | .nilError => .error .stuck

def evalInputs (interp : Interpretation V E) (args : List V) :
    List (Use × BuildTree) → Except (Halt E) (List V)
  | [] => .ok []
  | (_, tree) :: inputs => do
    let value ← tree.eval interp args
    let values ← evalInputs interp args inputs
    .ok (value :: values)

end

variable {interp : Interpretation V E} {args : List V}

theorem evalInputs_eq_mapM (inputs : List (Use × BuildTree)) :
    evalInputs interp args inputs = inputs.mapM fun input => input.2.eval interp args := by
  induction inputs with
  | nil => rfl
  | cons input inputs ih =>
      rw [evalInputs, List.mapM_cons, ih]
      rfl

theorem eval_provider (base : TypeRef) (p : Provider) (inputs : List (Use × BuildTree)) :
    (provider base p inputs).eval interp args = (do
      let values ← inputs.mapM fun input => input.2.eval interp args
      interp.apply p values) := by
  rw [eval, evalInputs_eq_mapM]

end BuildTree

namespace Scope

variable {scope : Scope} {interp : Interpretation V E} {args : List V} {path : List TypeRef}
  {r t : TypeRef}

theorem evaluate_of_external {id : NodeId} (halias : scope.aliases.resolve r = .ok t)
    (hext : scope.external? t = some id) :
    scope.evaluate interp args path r = Halt.expect args[id]? := by
  rw [evaluate, halias]
  simp only [hext]

theorem evaluate_of_provider {p : Provider} (halias : scope.aliases.resolve r = .ok t)
    (hext : scope.external? t = none) (hpath : t.base ∉ path.map TypeRef.base)
    (hfind : scope.registry.find t = .ok p) :
    scope.evaluate interp args path r = (do
      let values ← p.inputs.mapM fun input =>
        scope.evaluate interp args (path ++ [t]) input.type
      interp.apply p values) := by
  rw [evaluate, halias]
  simp only [hext, dif_neg hpath]
  split
  case h_1 cause hcause =>
    rw [hfind] at hcause
    cases hcause
  case h_2 q hq =>
    rw [hfind] at hq
    cases hq
    rfl

theorem mapM_evaluate_of_expandInputs {evaluate : TypeRef → Except (Halt E) V}
    {expand : TypeRef → Except ResolveError (TypeRef × BuildTree)} {inputs : List Input}
    {trees : List (Use × BuildTree)} {position : Nat}
    (hexpand : expandInputs expand inputs position = .ok trees)
    (heval : ∀ r t tree, expand r = .ok (t, tree) → evaluate r = tree.eval interp args) :
    (inputs.mapM fun input => evaluate input.type) =
      trees.mapM fun input => input.2.eval interp args := by
  induction inputs generalizing position trees with
  | nil =>
      cases hexpand
      rfl
  | cons input inputs ih =>
      rw [expandInputs] at hexpand
      obtain ⟨⟨resolved, tree⟩, hfirst, h⟩ := Except.bind_eq_ok_iff.mp hexpand
      obtain ⟨rest, hrest, h⟩ := Except.bind_eq_ok_iff.mp h
      cases h
      rw [List.mapM_cons, List.mapM_cons, heval _ _ _ hfirst, ih hrest]

/-- A type has the value of the tree that it expands to. -/
theorem evaluate_of_expand {path : List TypeRef} {r t : TypeRef} {tree : BuildTree}
    (h : scope.expand path r = .ok (t, tree)) :
    scope.evaluate interp args path r = tree.eval interp args := by
  cases halias : scope.aliases.resolve r with
  | error cycle =>
      rw [expand_of_aliasCycle halias] at h
      cases h
  | ok u =>
      cases hext : scope.external? u with
      | some id =>
          rw [expand_of_external halias hext] at h
          cases h
          rw [evaluate_of_external halias hext, BuildTree.eval]
      | none =>
          by_cases hpath : u.base ∈ path.map TypeRef.base
          · rw [expand_of_mem_path halias hext hpath] at h
            cases h
          cases hfind : scope.registry.find u with
          | error cause =>
              rw [expand_of_lookup halias hext hpath hfind] at h
              cases h
          | ok p =>
              rw [expand_of_provider halias hext hpath hfind] at h
              obtain ⟨trees, htrees, h⟩ := Except.bind_eq_ok_iff.mp h
              cases h
              have hless := Registry.unopened_append_lt hfind hpath
              have hbelow : ∀ r' t' tree, scope.expand (path ++ [t]) r' = .ok (t', tree) →
                  scope.evaluate interp args (path ++ [t]) r' = tree.eval interp args :=
                fun _ _ _ hinput => evaluate_of_expand hinput
              rw [evaluate_of_provider halias hext hpath hfind, BuildTree.eval_provider,
                mapM_evaluate_of_expandInputs htrees hbelow]
              simp only [Interpretation.apply_erased]
termination_by scope.registry.unopened path

/-- The value of a resolvable type is put together from the values of what it needs. -/
theorem evaluate_inputs {p : Provider} (h : scope.Resolvable r)
    (halias : scope.aliases.resolve r = .ok t) (hext : scope.external? t = none)
    (hfind : scope.registry.find t = .ok p) :
    scope.evaluate interp args [] r = (do
      let values ← p.inputs.mapM fun input => scope.evaluate interp args [] input.type
      interp.apply p values) := by
  obtain ⟨x, hx⟩ := h.expand
  have hexpand := hx [] (clear_nil r)
  rw [h.expand_inputs halias hext hfind] at hexpand
  obtain ⟨trees, htrees, -⟩ := Except.bind_eq_ok_iff.mp hexpand
  have htree : scope.expand [] r = .ok (t, .provider t.base p.erased trees) := by
    rw [h.expand_inputs halias hext hfind, htrees]
    rfl
  rw [evaluate_of_expand htree, BuildTree.eval_provider,
    mapM_evaluate_of_expandInputs htrees fun _ _ _ hinput => evaluate_of_expand hinput]
  simp only [Interpretation.apply_erased]

theorem exists_mapM_any {inputs : List Input} {f : Input → Except (Halt Empty) Bool}
    {P : Input → Prop} (h : ∀ input ∈ inputs, ∃ b, f input = .ok b ∧ (b = true ↔ P input)) :
    ∃ values, inputs.mapM f = .ok values ∧
      (values.any id = true ↔ ∃ input ∈ inputs, P input) := by
  induction inputs with
  | nil => exact ⟨[], rfl, by simp⟩
  | cons input inputs ih =>
      obtain ⟨b, hb, hiff⟩ := h input (by simp)
      obtain ⟨values, hvalues, hrest⟩ := ih fun i hi => h i (by simp [hi])
      refine ⟨b :: values, ?_, ?_⟩
      · rw [List.mapM_cons, hb, hvalues]
        rfl
      · rw [List.any_cons, Bool.or_eq_true, hrest, id, hiff, List.exists_mem_cons_iff]

/-- The interpretation that only keeps track of failures finds out whether a provider that can fail
is needed. -/
theorem evaluate_fallibility (h : scope.Resolvable r) :
    ∃ b, scope.evaluate .fallibility (scope.params.map fun _ => false) [] r = .ok b ∧
      (b = true ↔ scope.Fails r) := by
  have hexternal : ∀ {r t id}, scope.aliases.resolve r = .ok t → scope.external? t = some id →
      ∃ b, scope.evaluate .fallibility (scope.params.map fun _ => false) [] r = .ok b ∧
        (b = true ↔ scope.Fails r) := by
    intro r t id halias hext
    obtain ⟨u, hu, -⟩ := exists_param_of_external hext
    refine ⟨false, ?_, ?_⟩
    · rw [evaluate_of_external halias hext, List.getElem?_map, hu]
      rfl
    · simp [not_fails_of_external halias hext]
  have hres := h
  induction h with
  | @param r t u halias hparam hbase =>
      have hsome : scope.external? t ≠ none := fun hnone =>
        external?_eq_none_iff.mp hnone u hparam hbase
      obtain ⟨id, hid⟩ := Option.ne_none_iff_exists'.mp hsome
      exact hexternal halias hid
  | @provider r t p halias hfind hinputs ih =>
      cases hext : scope.external? t with
      | some id => exact hexternal halias hext
      | none =>
          obtain ⟨values, hvalues, hany⟩ :=
            exists_mapM_any fun input hmem => ih input hmem (hinputs input hmem)
          refine ⟨p.erased.fallible || values.any id, ?_, ?_⟩
          · rw [evaluate_inputs hres halias hext hfind, hvalues]
            rfl
          · rw [Bool.or_eq_true, hany, Provider.erased_fallible,
              fails_iff_of_provider halias hext hfind]

theorem mayFail_iff (h : scope.Resolvable r) : scope.mayFail r = true ↔ scope.Fails r := by
  obtain ⟨b, hb, hiff⟩ := evaluate_fallibility h
  rw [← hiff, mayFail, hb]
  cases b <;> simp

end Scope

end Wiring
