import Wiring.Proofs.Sharing
import Wiring.Proofs.Valuation
import Wiring.Proofs.Writing

/-!
What generated functions mean. A call returns what evaluating the request gives: the results in
order, or the first failure. The evaluation knows nothing of the graph, so that functions generated
with and without hoisting return the same.
-/

namespace Wiring

open Resolution

universe u

variable {V E : Type u} {interp : Interpretation V E} {args : List V}

namespace Graph

variable {g : Graph}

/-- Only provider nodes do anything in a run. -/
theorem foldlM_providers (g : Graph) (interp : Interpretation V E) (store : Store NodeId V)
    (ids : List NodeId) :
    (ids.filter fun id => g.nodes[id]?.any Node.isProvider).foldlM (g.step interp) store =
      ids.foldlM (g.step interp) store := by
  rw [List.foldlM_filter]
  congr 1
  funext store id
  split
  · rfl
  · rename_i hother
    rw [step_of_other]
    · rfl
    · intro t p edges hnode
      rw [hnode] at hother
      exact hother rfl

end Graph

namespace Store

/-- Values taken in for consecutive numbers stand at these. -/
theorem setAll_range' (store : Store Nat V) (args : List V) (n id : Nat) :
    store.setAll (List.range' n args.length) args id =
      if n ≤ id ∧ id < n + args.length then args[id - n]? else store id := by
  induction args generalizing store n with
  | nil =>
      rw [if_neg (by simp)]
      rfl
  | cons value args ih =>
      rw [List.length_cons, List.range'_succ, setAll, ih]
      rcases Nat.lt_trichotomy id n with hlt | rfl | hgt
      · rw [if_neg (by omega), if_neg (by omega), set_of_ne store value (Nat.ne_of_lt hlt)]
      · rw [if_neg (by omega), if_pos (by omega), set_self, Nat.sub_self]
        rfl
      · have hnext : id - n = id - (n + 1) + 1 := by omega
        by_cases hin : id < n + 1 + args.length
        · rw [if_pos (by omega), if_pos (by omega), hnext, List.getElem?_cons_succ]
        · rw [if_neg (by omega), if_neg (by omega), set_of_ne store value (Nat.ne_of_gt hgt)]

end Store

namespace Output

/-- What the caller gets for an output if nothing fails. -/
def evaluate (nodes : Array Node) (interp : Interpretation V E) (args : List V) :
    Output → Except (Halt E) (Outcome V E)
  | value node _ _ => .value <$> (unfold nodes node).eval interp args
  | error _ => .ok (.error none)

/-- If a value cannot be evaluated, then neither can the outputs. -/
theorem mapM_evaluate_of_error {nodes : Array Node} {outputs : List Output} {halt : Halt E}
    (h : ((outputs.filterMap Output.value?).mapM fun id => (unfold nodes id).eval interp args) =
      .error halt) : outputs.mapM (evaluate nodes interp args) = .error halt := by
  induction outputs with
  | nil => cases h
  | cons output outputs ih =>
      rw [List.mapM_cons_eq_error_iff]
      cases output with
      | error source => exact Or.inr ⟨.error none, rfl, ih h⟩
      | value node requested resolved =>
          have hvalues : (value node requested resolved :: outputs).filterMap Output.value? =
              node :: outputs.filterMap Output.value? := rfl
          rw [hvalues, List.mapM_cons_eq_error_iff] at h
          rcases h with hfirst | ⟨v, hfirst, hrest⟩
          · refine Or.inl ?_
            rw [evaluate, hfirst]
            rfl
          · refine Or.inr ⟨.value v, ?_, ih hrest⟩
            rw [evaluate, hfirst]
            rfl

end Output

/-- After a run that ends well, the outputs return what they evaluate to. -/
theorem Graph.Holds.outcomes {g : Graph} {store : Store NodeId V} {n : Nat} {outputs : List Output}
    (h : g.Holds interp args store n)
    (hbound : ∀ output ∈ outputs, ∀ node, output.value? = some node → node < n) :
    ∃ outcomes, outputs.mapM (Output.outcome store) = .ok outcomes ∧
      outputs.mapM (Output.evaluate g.nodes interp args) = .ok outcomes := by
  induction outputs with
  | nil => exact ⟨[], rfl, rfl⟩
  | cons output outputs ih =>
      obtain ⟨outcomes, hread, heval⟩ := ih fun o ho => hbound o (List.mem_cons_of_mem _ ho)
      have hone : ∃ outcome, output.outcome store = .ok outcome ∧
          output.evaluate g.nodes interp args = .ok outcome := by
        cases output with
        | error source => exact ⟨_, rfl, rfl⟩
        | value node requested resolved =>
            obtain ⟨value, hstore, hvalue⟩ := h node (hbound _ List.mem_cons_self node rfl)
            rw [Output.outcome, Output.evaluate, hstore, hvalue]
            exact ⟨.value value, rfl, rfl⟩
      obtain ⟨outcome, hfirst, hfirst'⟩ := hone
      refine ⟨outcome :: outcomes, ?_, ?_⟩
      · rw [List.mapM_cons, hfirst, hread]
        rfl
      · rw [List.mapM_cons, hfirst', heval]
        rfl

namespace Scope

variable {scope : Scope} {nodes : Array Node} {results : List Dependency} {outputs : List Output}

/-- A result and the output that stands for it come to the same. -/
structure Fits (scope : Scope) (interp : Interpretation V E) (args : List V) (nodes : Array Node)
    (result : Dependency) (output : Output) : Prop where
  kind : result.isError = output.isError
  value : scope.evaluateResult interp args result = output.evaluate nodes interp args
  bound : ∀ node, output.value? = some node → node < nodes.size

theorem Fits.of_grown {before after : Array Node} {result : Dependency} {output : Output}
    (h : scope.Fits interp args before result output) (hgrown : before.toList <+: after.toList) :
    scope.Fits interp args after result output where
  kind := h.kind
  value := by
    rw [h.value]
    cases output with
    | error source => rfl
    | value node requested resolved =>
        rw [Output.evaluate, Output.evaluate, unfold_of_grown hgrown (h.bound node rfl)]
  bound node hvalue := Nat.lt_of_lt_of_le (h.bound node hvalue) (by simpa using hgrown.length_le)

theorem fits_error {dependency : Dependency} (htype : dependency.type? = none)
    (source : ErrorSource) : scope.Fits interp args nodes dependency (.error source) where
  kind := by
    rw [Dependency.isError_eq, htype]
    rfl
  value := by
    rw [evaluateResult, htype]
    rfl
  bound := by
    intro node hvalue
    cases hvalue

/-- Outputs that are what the results expand to fit these. -/
theorem fits_of_expandResults {hasError : Bool}
    (hbound : ∀ output ∈ outputs, ∀ node, output.value? = some node → node < nodes.size)
    (h : scope.expandResults results hasError = .ok (outputs.map (Answer.ofOutput nodes))) :
    List.Forall₂ (scope.Fits interp args nodes) results outputs := by
  induction results generalizing outputs hasError with
  | nil =>
      cases outputs with
      | nil => exact .nil
      | cons output rest => cases h
  | cons dependency results ih =>
      rw [expandResults] at h
      cases htype : dependency.type? with
      | none =>
          simp only [htype] at h
          split at h
          · cases h
          obtain ⟨answers, hanswers, h⟩ := Except.bind_eq_ok_iff.mp h
          cases outputs with
          | nil => cases h
          | cons output rest =>
              obtain ⟨hfirst, hrest⟩ := List.cons.inj (Except.ok.inj h)
              rw [hrest] at hanswers
              cases output with
              | value node requested t => cases hfirst
              | error source =>
                  exact .cons (fits_error htype source)
                    (ih (fun output hmem => hbound output (List.mem_cons_of_mem _ hmem)) hanswers)
      | some r =>
          simp only [htype] at h
          obtain ⟨⟨resolved, tree⟩, htree, h⟩ := Except.bind_eq_ok_iff.mp h
          obtain ⟨answers, hanswers, h⟩ := Except.bind_eq_ok_iff.mp h
          cases outputs with
          | nil => cases h
          | cons output rest =>
              obtain ⟨hfirst, hrest⟩ := List.cons.inj (Except.ok.inj h)
              rw [hrest] at hanswers
              cases output with
              | error source => cases source <;> cases hfirst
              | value node requested t =>
                  cases hfirst
                  refine .cons ⟨?_, ?_, hbound _ List.mem_cons_self⟩
                    (ih (fun output hmem => hbound output (List.mem_cons_of_mem _ hmem)) hanswers)
                  · rw [Dependency.isError_eq, htype]
                    rfl
                  · rw [evaluateResult, htype, Output.evaluate]
                    simp only [evaluate_of_expand htree]

theorem any_isError_of_fits (h : List.Forall₂ (scope.Fits interp args nodes) results outputs) :
    results.any Dependency.isError = outputs.any Output.isError := by
  induction h with
  | nil => rfl
  | cons hfirst _ ih => rw [List.any_cons, List.any_cons, hfirst.kind, ih]

/-- Outputs fit the results when the error is settled, too. -/
theorem fits_settleError (h : List.Forall₂ (scope.Fits interp args nodes) results outputs)
    {fallible : Bool} (hvalue : fallible = true → outputs.any (!Output.isError ·) = true) :
    List.Forall₂ (scope.Fits interp args (Registry.settleError outputs fallible nodes).2)
      (if !results.any Dependency.isError && fallible then results ++ [.error] else results)
      (Registry.settleError outputs fallible nodes).1 := by
  rw [any_isError_of_fits h]
  unfold Registry.settleError
  cases fallible with
  | true =>
      simp only [if_true, hvalue rfl, Bool.and_true]
      split
      · exact List.rel_append h (.cons (fits_error rfl .propagated) .nil)
      · exact h
  | false =>
      simp only [Bool.and_false, Bool.false_eq_true, if_false]
      split
      · rw [List.forall₂_map_right_iff]
        refine h.imp fun result output hfit => ?_
        split
        case isTrue herror =>
          have htype : result.type? = none := by
            rw [← hfit.kind, Dependency.isError_eq, Option.isNone_iff_eq_none] at herror
            exact herror
          exact fits_error htype _
        case isFalse => exact hfit.of_grown (by simp)
      · exact h

end Scope

namespace Registry

variable {registry : Registry} {request : Request} {g : Graph} {outputs : List Output}
  {s : Resolution (registry.scope request) []}

/-- The provider nodes are those made after the parameters and before the nil error. -/
theorem isProvider_graph_iff (hframed : s.Framed) (id : Nat) :
    ((registry.graph request outputs s).nodes[id]?.any Node.isProvider) = true ↔
      request.paramTypes.length ≤ id ∧ id < s.nodes.size := by
  have hgrown := nodes_prefix_settleError outputs s.fallible s.nodes
  rw [← size_start, Option.any_eq_true]
  constructor
  · rintro ⟨node, hnode, hprovider⟩
    refine ⟨Nat.le_of_not_lt fun hlt => ?_, ?_⟩
    · obtain ⟨t, ht⟩ := external_of_lt_start hlt
      have hold := getElem?_eq_of_grown (hframed.frame.params.trans hgrown) hlt
      rw [ht] at hold
      have heq : some node = some (.external t id) := hnode.symm.trans hold
      cases heq
      cases hprovider
    · rcases getElem?_settleError hnode with hold | rfl
      · exact (Array.getElem?_eq_some_iff.mp hold).1
      · cases hprovider
  · rintro ⟨hle, hlt⟩
    rw [size_start] at hle
    obtain ⟨d, p, edges, heq, -⟩ :=
      hframed.frame.others id _ hle (Array.getElem?_eq_getElem hlt)
    refine ⟨.provider d p edges, ?_, rfl⟩
    rw [← heq, ← Array.getElem?_eq_getElem hlt]
    exact getElem?_eq_of_grown hgrown hlt

/-- The provider nodes come in the order in which they were made, after the parameters. -/
theorem providers_graph (hframed : s.Framed)
    (hload : registry.load request = .ok (registry.graph request outputs s)) :
    (registry.graph request outputs s).providers =
      List.range' request.paramTypes.length (s.nodes.size - request.paramTypes.length) := by
  obtain ⟨m, built, before, slot, after, hlayout⟩ := exists_layout hload
  have hlow : request.paramTypes.length ≤ s.nodes.size := by
    rw [← size_start]
    simpa using hframed.frame.params.length_le
  have hhigh : s.nodes.size ≤ (registry.graph request outputs s).nodes.size := by
    rw [← Array.length_toList, ← Array.length_toList]
    exact (nodes_prefix_settleError outputs s.fallible s.nodes).length_le
  have hkind : ∀ id : Nat,
      ((registry.graph request outputs s).nodes[id]?.any Node.isProvider) = true ↔
        request.paramTypes.length ≤ id ∧ id < s.nodes.size := isProvider_graph_iff hframed
  rw [hlayout.providers, Graph.ids, ← Graph.range_append_range' hhigh,
    ← Graph.range_append_range' hlow, List.filter_append, List.filter_append]
  have hparams : (List.range request.paramTypes.length).filter (fun id =>
      (registry.graph request outputs s).nodes[id]?.any Node.isProvider) = [] := by
    rw [List.filter_eq_nil_iff]
    intro id hid hprovider
    exact absurd ((hkind id).mp hprovider).1 (Nat.not_le_of_lt (List.mem_range.mp hid))
  have hmade : ∀ id ∈ List.range' request.paramTypes.length
      (s.nodes.size - request.paramTypes.length),
      ((registry.graph request outputs s).nodes[id]?.any Node.isProvider) = true := by
    intro id hid
    rw [List.mem_range'_1, Nat.add_sub_cancel' hlow] at hid
    exact (hkind id).mpr hid
  have hlast : (List.range' s.nodes.size
      ((registry.graph request outputs s).nodes.size - s.nodes.size)).filter (fun id =>
      (registry.graph request outputs s).nodes[id]?.any Node.isProvider) = [] := by
    rw [List.filter_eq_nil_iff]
    intro id hid hprovider
    exact absurd ((hkind id).mp hprovider).2 (Nat.not_lt_of_le (List.mem_range'_1.mp hid).1)
  rw [hparams, List.filter_eq_self.mpr hmade, hlast, List.nil_append, List.append_nil]

/-- At first the nodes of the parameters have the values of the arguments. -/
theorem holds_start (hload : registry.load request = .ok g)
    (hargs : args.length = request.paramTypes.length) (hparams : g.params = List.range request.paramTypes.length) :
    g.Holds interp args (Store.empty.setAll g.params args) request.paramTypes.length := by
  intro id hid
  obtain ⟨t, ht⟩ := param_of_load hload hid
  have harg : id < args.length := hargs ▸ hid
  refine ⟨args[id], ?_, ?_⟩
  · rw [hparams, ← hargs, List.range_eq_range', Store.setAll_range', if_pos (by omega),
      Nat.sub_zero, List.getElem?_eq_getElem harg]
  · rw [unfold_external ht, BuildTree.eval, List.getElem?_eq_getElem harg]
    rfl

/-- Whether something can fail is known of the request. -/
theorem fallible_eq_any
    (hresults : (registry.scope request).resolveResults request.hoist request.results false
      (start _) = .ok (outputs, s)) :
    s.fallible = request.resultTypes.any (registry.scope request).mayFail := by
  have hdelivers := Scope.delivers_of_resolveResults hresults (sound_start _)
  rw [Bool.eq_iff_iff, hdelivers.fallible, List.any_eq_true]
  constructor
  · rintro (hstart | ⟨r, hr, hfails⟩)
    · cases hstart
    · exact ⟨r, hr, (Scope.mayFail_iff (hdelivers.resolvable r hr)).mpr hfails⟩
  · rintro ⟨r, hr, hmay⟩
    exact Or.inr ⟨r, hr, (Scope.mayFail_iff (hdelivers.resolvable r hr)).mp hmay⟩

/-- The outputs of a graph fit the results that its function returns. -/
theorem fits_graph
    (hresults : (registry.scope request).resolveResults request.hoist request.results false
      (start _) = .ok (outputs, s)) :
    List.Forall₂
      ((registry.scope request).Fits interp args (registry.graph request outputs s).nodes)
      (registry.returned request) (registry.graph request outputs s).outputs := by
  have hdelivers := Scope.delivers_of_resolveResults hresults (sound_start _)
  have hexpand := Scope.resolveResults_eq_expandResults request.hoist request.results false
    (sound_start (registry.scope request))
  rw [hresults] at hexpand
  have hfits : List.Forall₂ ((registry.scope request).Fits interp args s.nodes) request.results
      outputs := Scope.fits_of_expandResults hdelivers.bound hexpand.symm
  have hvalue : s.fallible = true → outputs.any (!Output.isError ·) = true := by
    intro hfallible
    rcases hdelivers.fallible.mp hfallible with hstart | ⟨r, hr, -⟩
    · cases hstart
    · obtain ⟨id, t, hmem⟩ := ((Scope.answered_of_ok hresults).exists_value_iff r).mpr hr
      exact List.any_eq_true.mpr ⟨_, hmem, rfl⟩
  have hsettled := Scope.fits_settleError hfits hvalue
  rw [fallible_eq_any hresults] at hsettled
  rw [returned, Request.hasErrorResult, graph, fallible_eq_any hresults]
  exact hsettled

/-- Evaluating a request gives what evaluating the outputs of its graph gives. -/
theorem evaluate_eq_conclude
    (hresults : (registry.scope request).resolveResults request.hoist request.results false
      (start _) = .ok (outputs, s)) (interp : Interpretation V E) (args : List V) :
    registry.evaluate request interp args =
      Halt.conclude
        ((registry.graph request outputs s).outputs.mapM
          (Output.evaluate (registry.graph request outputs s).nodes interp args))
        fun e => (registry.graph request outputs s).outputs.map (Output.failed e) := by
  have hfits : List.Forall₂ ((registry.scope request).Fits interp args
      (registry.graph request outputs s).nodes) (registry.returned request)
      (registry.graph request outputs s).outputs := fits_graph hresults
  have hfailed : ∀ e : E, ((registry.returned request).map (Dependency.failed e) :
      List (Outcome V E)) = (registry.graph request outputs s).outputs.map (Output.failed e) := by
    intro e
    rw [← List.forall₂_eq_eq_eq, List.forall₂_map_left_iff, List.forall₂_map_right_iff]
    refine hfits.imp fun result output hfit => ?_
    rw [Dependency.failed, Output.failed, hfit.kind]
  rw [evaluate, List.mapM_congr_of_forall₂ hfits fun _ _ hfit => hfit.value]
  simp only [hfailed]

/-- A node that is returned was made before the error was settled. -/
theorem lt_size_of_returned
    (hresults : (registry.scope request).resolveResults request.hoist request.results false
      (start _) = .ok (outputs, s)) {output : Output}
    (hmem : output ∈ (registry.graph request outputs s).outputs) {node : NodeId}
    (hvalue : output.value? = some node) : node < s.nodes.size := by
  cases output with
  | error source => cases hvalue
  | value id r t =>
      have hdelivers := Scope.delivers_of_resolveResults hresults (sound_start _)
      exact hdelivers.bound _ (mem_settleError rfl hmem) node hvalue

/-- Running the nodes that were made for a request gives them their values, or it fails as evaluating
what is returned does. -/
theorem runs_graph (hload : registry.load request = .ok (registry.graph request outputs s))
    (hresults : (registry.scope request).resolveResults request.hoist request.results false
      (start _) = .ok (outputs, s)) (interp : Interpretation V E)
    (hargs : args.length = request.paramTypes.length) :
    (registry.graph request outputs s).Runs interp args
      (Store.empty.setAll (registry.graph request outputs s).params args)
      request.paramTypes.length s.nodes.size
      ((registry.graph request outputs s).outputs.filterMap Output.value?) := by
  have hanswered := Scope.answered_of_ok hresults
  have hassembled := (Scope.assembled_of_answered hanswered (framed_start _)).2
  have hreturned : outputs.filterMap Output.root? =
      (registry.graph request outputs s).outputs.filterMap Output.value? := by
    rw [hanswered.filterMap_root?]
    exact (filterMap_value?_settleError outputs s.fallible s.nodes).symm
  have hstart : (registry.graph request outputs s).Holds interp args
      (Store.empty.setAll (registry.graph request outputs s).params args)
      (start (registry.scope request)).nodes.size := by
    rw [size_start]
    exact holds_start hload hargs rfl
  have hruns := hassembled.runs (g := registry.graph request outputs s)
    (nodes_prefix_settleError outputs s.fallible s.nodes) hstart
  rwa [hreturned, size_start] at hruns

/-- Running the graph of a request gives what evaluating the request gives. -/
theorem run_of_load (h : registry.load request = .ok g) (interp : Interpretation V E)
    (hargs : args.length = request.paramTypes.length) :
    ∃ answer, g.run interp args = some answer ∧
      registry.evaluate request interp args = some answer := by
  have hload := h
  obtain ⟨-, outputs, s, hresults, -, rfl⟩ := exists_of_load_ok h
  have hframed := (Scope.framed_of_resolveResults hresults).1
  have hproviders : (registry.graph request outputs s).order.filter (fun id =>
      (registry.graph request outputs s).nodes[id]?.any Node.isProvider) = _ :=
    providers_graph hframed hload
  rw [evaluate_eq_conclude hresults, Graph.run, ← Graph.foldlM_providers, hproviders]
  rcases runs_graph hload hresults interp hargs with
    ⟨store, hrun, hholds⟩ | ⟨e, hrun, hfailed⟩
  · obtain ⟨outcomes, hread, heval⟩ :=
      hholds.outcomes fun output hmem node => lt_size_of_returned hresults hmem
    rw [hrun, heval]
    exact ⟨outcomes, congrArg (Halt.conclude · _) hread, rfl⟩
  · rw [hrun, Output.mapM_evaluate_of_error hfailed]
    exact ⟨_, rfl, rfl⟩

theorem length_paramTypes (hdeclares : request.Declares) :
    request.paramTypes.length = request.params.length := by
  rw [Request.paramTypes, List.filterMap_length_eq_length]
  intro param hmem
  have htype := hdeclares.types param hmem
  rw [Dependency.isError_eq] at htype
  simpa using htype

/-- A function that is generated for a request returns what evaluating the request gives. -/
theorem run_of_generate (h : registry.load request = .ok g) {generator after : Generator}
    {artifact : Artifact} (hgenerate : generator.generate g = .ok (artifact, after))
    (interp : Interpretation V E) (hargs : args.length = request.params.length) :
    ∃ answer, artifact.function.run interp args = some answer ∧
      registry.evaluate request interp args = some answer := by
  obtain ⟨hdeclares, outputs, s, -, -, hgraph⟩ := exists_of_load_ok h
  rw [← length_paramTypes hdeclares] at hargs
  obtain ⟨⟨f, draft⟩, hfunction, hartifact⟩ := Except.bind_eq_ok_iff.mp hgenerate
  cases hartifact
  have hparams : args.length = g.params.length := by
    rw [hgraph, graph, List.length_range, hargs]
  rw [Draft.run_function hfunction hparams interp]
  exact run_of_load h interp hargs

/-- Every graph of a request has a function, and its calls return what evaluating the request gives.
So it makes no difference to a call whether the function was generated with or without hoisting. -/
theorem run_generate (registry : Registry) (request : Request) (interp : Interpretation V E)
    (args : List V) (hargs : args.length = request.params.length) :
    (∀ g, registry.load request = .ok g → ∀ generator : Generator, ∃ artifact after answer,
      generator.generate g = .ok (artifact, after) ∧
        artifact.function.run interp args = some answer ∧
        registry.evaluate request interp args = some answer) ∧
    ∀ shared copied, registry.load { request with hoist := true } = .ok shared →
      registry.load { request with hoist := false } = .ok copied →
      ∀ (generator after generator' after' : Generator) (artifact artifact' : Artifact),
        generator.generate shared = .ok (artifact, after) →
        generator'.generate copied = .ok (artifact', after') →
        artifact.function.run interp args = artifact'.function.run interp args := by
  constructor
  · intro g h generator
    obtain ⟨artifact, after, hgenerate⟩ := generator.exists_generate (writable_of_load h)
    obtain ⟨answer, hrun, hevaluate⟩ := run_of_generate h hgenerate interp hargs
    exact ⟨artifact, after, answer, hgenerate, hrun, hevaluate⟩
  · intro shared copied hshared hcopied generator after generator' after' artifact artifact'
      hgenerate hgenerate'
    obtain ⟨answer, hrun, hevaluate⟩ := run_of_generate hshared hgenerate interp hargs
    obtain ⟨answer', hrun', hevaluate'⟩ := run_of_generate hcopied hgenerate' interp hargs
    -- The evaluation does not look at hoisting.
    have hsame : registry.evaluate { request with hoist := true } interp args =
        registry.evaluate { request with hoist := false } interp args := rfl
    rw [hevaluate, hevaluate'] at hsame
    rw [hrun, hrun', hsame]

end Registry

namespace Sample

/-- Values are written out as calls. If the shop is closed, its store cannot be opened. -/
def building (closed : Bool) : Interpretation String String where
  construct p values :=
    if p.fallible && closed then .error p.name
    else .ok (p.name ++ "(" ++ ", ".intercalate values ++ ")")
  infallible := by simp +contextual

theorem evaluate_open : guarded.evaluate request (building false) ["noon"] =
    some [.value "Cart(OpenStore(noon), noon)", .error none, .value "Ledger(OpenStore(noon))"] := by
  with_unfolding_all rfl

theorem evaluate_closed : guarded.evaluate request (building true) ["noon"] =
    some [.zero, .error (some "OpenStore"), .zero] := by
  with_unfolding_all rfl

theorem run_guarded : ["noon"].length = request.params.length ∧ ∀ generator : Generator,
    ∃ artifact after, generator.generate guardedGraph = .ok (artifact, after) ∧
      artifact.function.run (building false) ["noon"] = some
        [.value "Cart(OpenStore(noon), noon)", .error none, .value "Ledger(OpenStore(noon))"] ∧
      artifact.function.run (building true) ["noon"] =
        some [.zero, .error (some "OpenStore"), .zero] := by
  refine ⟨rfl, fun generator => ?_⟩
  have hruns := fun closed =>
    (Registry.run_generate guarded request (building closed) ["noon"] rfl).1 guardedGraph
      load_guarded generator
  obtain ⟨artifact, after, opened, hgenerate, hopened, hevaluate⟩ := hruns false
  obtain ⟨_, _, failed, hsame, hfailed, hevaluate'⟩ := hruns true
  rw [hgenerate] at hsame
  rw [evaluate_open] at hevaluate
  rw [evaluate_closed] at hevaluate'
  cases hsame
  cases hevaluate
  cases hevaluate'
  exact ⟨artifact, after, hgenerate, hopened, hfailed⟩

end Sample

end Wiring
