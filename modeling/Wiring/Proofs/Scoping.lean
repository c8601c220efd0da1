import Wiring.Proofs.Economy
import Wiring.Proofs.SourceText
import Wiring.Proofs.Writing

/-!
The variables of a generated function. Every parameter and every binding introduces one of its own;
an expression reads variables that were introduced before it, each for the node whose value it
holds, and none is introduced in vain.
-/

namespace Wiring

namespace Go

/-- The variables that a statement reads, in the order of its arguments. -/
def Binding.reads (binding : Binding) : List String :=
  binding.args.map fun argument => argument.value.name

def Returned.reads? : Returned → Option String
  | value operand => some operand.name
  | noError => none

namespace Function

/-- The variables that the last return reads. -/
def returns (f : Function) : List String :=
  f.returned.filterMap Returned.reads?

/-- The variables of a function in the order in which they are introduced. -/
def locals (f : Function) : List String :=
  f.params.map Param.name ++ f.body.map Binding.name

end Function

end Go

/-- What is returned for an output: an expression for the value of its node, or no error. -/
inductive Output.Returns (R : NodeId → TypeRef → TypeRef → Go.Operand → Prop) :
    Output → Go.Returned → Prop where
  | value {node : NodeId} {requested resolved : TypeRef} {operand : Go.Operand}
      (h : R node requested resolved operand) :
      Returns R (.value node requested resolved) (.value operand)
  | error {source : ErrorSource} : Returns R (.error source) .noError

theorem Output.Returns.imp {R R' : NodeId → TypeRef → TypeRef → Go.Operand → Prop}
    {output : Output} {made : Go.Returned} (h : output.Returns R made)
    (himp : ∀ node requested resolved operand, output = .value node requested resolved →
      R node requested resolved operand → R' node requested resolved operand) :
    output.Returns R' made := by
  cases h with
  | value h => exact .value (himp _ _ _ _ rfl h)
  | error => exact .error

namespace Graph

variable {g : Graph} {id : NodeId}

/-- The variables that are in scope once some bindings were made, each with the node whose value it
holds. -/
def inScope (g : Graph) (f : Go.Function) (made : List Go.Binding) : List (NodeId × String) :=
  g.params.zip (f.params.map Go.Param.name) ++
    made.map fun binding => (binding.node, binding.name)

/-- An expression takes the value of a node from one of some variables, in the way that a type asks
for it. -/
structure Passes (g : Graph) (scope : List (NodeId × String)) (node : NodeId) (wanted : TypeRef)
    (operand : Go.Operand) : Prop where
  inScope : (node, operand.name) ∈ scope
  adapted : operand = Draft.adapt operand.name (Draft.produced? g node) wanted

/-- How the variables of a function stand for the nodes of its graph. -/
structure Scoped (g : Graph) (f : Go.Function) : Prop where
  /-- The text has a statement for each binding, with its variable and its call, and nothing else but
  the signature and the last return. -/
  text : f.PrintsAs f.render
  params : f.params.length = g.params.length
  /-- The bindings are those of the provider nodes, in order. -/
  order : f.body.map Go.Binding.node = g.providers
  once : (f.body.map Go.Binding.node).Nodup
  bound : ∀ id t p edges, g.nodes[id]? = some (.provider t p edges) →
    id ∈ f.body.map Go.Binding.node
  calls : ∀ b ∈ f.body, ∃ t, g.nodes[b.node]? = some (.provider t b.provider (g.children b.node))
  distinct : f.locals.Nodup
  unreserved : "err" ∉ f.locals
  /-- There is an argument for each input, in order. -/
  fields : ∀ b ∈ f.body, b.args.map Go.Argument.field = b.provider.inputs.map Input.field
  positions : ∀ b ∈ f.body,
    (g.children b.node).map Edge.position = List.range b.provider.inputs.length
  /-- An argument reads the variable of its node, which was introduced before. -/
  arguments : ∀ before b after, f.body = before ++ b :: after →
    List.Forall₂ (fun e (argument : Go.Argument) =>
      (e.node, argument.value.name) ∈ g.inScope f before) (g.children b.node) b.args
  returned : List.Forall₂ (Output.Returns fun node _ _ operand =>
    (node, operand.name) ∈ g.inScope f f.body) g.outputs f.returned
  /-- No parameter is left unread. -/
  paramsRead : ∀ param ∈ f.params,
    (∃ b ∈ f.body, param.name ∈ b.reads) ∨ param.name ∈ f.returns
  /-- What is bound is read later. -/
  bindingsRead : ∀ b ∈ f.body,
    (∃ before reader after, f.body = before ++ reader :: after ∧ b ∈ before ∧
      b.name ∈ reader.reads) ∨ b.name ∈ f.returns

theorem any_isProvider_iff : g.nodes[id]?.any Node.isProvider = true ↔ ∃ t, g.Builds id t := by
  rw [Option.any_eq_true]
  constructor
  · rintro ⟨node, hnode, hprovider⟩
    cases node with
    | external t position => cases hprovider
    | zeroError => cases hprovider
    | provider t p edges => exact ⟨t, p, edges, hnode⟩
  · rintro ⟨t, p, edges, hnode⟩
    exact ⟨_, hnode, rfl⟩

/-- What has a consumer feeds a node or is returned. -/
theorem consumed_or_returned_of_consumers (h : 0 < g.consumers id) :
    (∃ consumer, g.Consumes consumer id) ∨ ∃ r t, .value id r t ∈ g.outputs := by
  rcases Nat.add_pos_iff_pos_or_pos.mp h with hedges | houtputs
  · obtain ⟨e, he, heq⟩ := List.countP_pos_iff.mp hedges
    obtain ⟨node, hnode, he⟩ := List.mem_flatMap.mp he
    obtain ⟨consumer, hconsumer⟩ := List.mem_iff_getElem?.mp hnode
    rw [Array.getElem?_toList] at hconsumer
    refine Or.inl ⟨consumer, e, ?_, by simpa using heq⟩
    exact (mem_children_iff hconsumer).mpr he
  · obtain ⟨output, hmem, hvalue⟩ := List.countP_pos_iff.mp houtputs
    cases output with
    | error source => simp [Output.value?] at hvalue
    | value node r t =>
        simp only [Output.value?, beq_iff_eq, Option.some.injEq] at hvalue
        exact Or.inr ⟨r, t, hvalue ▸ hmem⟩

section InScope

variable {f : Go.Function} {before after : List Go.Binding} {reader : Go.Binding} {name : String}

theorem map_fst_inScope (hparams : f.params.length = g.params.length) (made : List Go.Binding) :
    (g.inScope f made).map Prod.fst = g.params ++ made.map Go.Binding.node := by
  rw [inScope, List.map_append, List.map_fst_zip (by simp [hparams]), List.map_map]
  rfl

theorem map_snd_inScope (hparams : f.params.length = g.params.length) :
    (g.inScope f f.body).map Prod.snd = f.locals := by
  rw [inScope, List.map_append, List.map_snd_zip (by simp [hparams]), List.map_map]
  rfl

/-- What is in scope stays so. -/
theorem inScope_mono (hbody : f.body = before ++ reader :: after) {entry : NodeId × String}
    (hentry : entry ∈ g.inScope f before) : entry ∈ g.inScope f f.body := by
  rw [inScope, hbody, List.map_append, ← List.append_assoc]
  exact List.mem_append_left _ hentry

/-- What is in scope was declared as a parameter or bound. -/
theorem mem_inScope_iff {made : List Go.Binding} :
    (id, name) ∈ g.inScope f made ↔
      (∃ param, (id, param) ∈ g.params.zip f.params ∧ param.name = name) ∨
        ∃ b ∈ made, b.node = id ∧ b.name = name := by
  rw [inScope, List.zip_map_right, List.mem_append, List.mem_map, List.mem_map]
  simp [Prod.map]

/-- A variable in scope that stands for no parameter was bound. -/
theorem exists_binding_of_inScope {made : List Go.Binding} (hentry : (id, name) ∈ g.inScope f made)
    (hid : id ∉ g.params) : ∃ b ∈ made, b.node = id := by
  rcases mem_inScope_iff.mp hentry with ⟨param, hparam, -⟩ | ⟨b, hb, hnode, -⟩
  · exact absurd (List.of_mem_zip hparam).1 hid
  · exact ⟨b, hb, hnode⟩

theorem exists_inScope_of_param (hparams : f.params.length = g.params.length) {param : Go.Param}
    (hparam : param ∈ f.params) :
    ∃ id ∈ g.params, (id, param.name) ∈ g.inScope f f.body := by
  obtain ⟨i, hi, rfl⟩ := List.mem_iff_getElem.mp hparam
  have hid : i < g.params.length := hparams ▸ hi
  refine ⟨g.params[i], List.getElem_mem hid, List.mem_append_left _ ?_⟩
  exact List.mem_iff_getElem.mpr ⟨i, by simp [hid, hparams], by simp⟩

end InScope

end Graph

namespace Draft

variable {catalog : Catalog} {g : Graph} {draft mid draft' : Draft} {node id : NodeId}
  {name : String}

/-- Several nodes were given names, one after the other. -/
structure GivesAll (draft : Draft) (given : List (NodeId × String)) (draft' : Draft) : Prop where
  names : draft'.names = (given.map Prod.snd).reverse ++ draft.names
  bound : draft'.bound = given.reverse ++ draft.bound
  distinct : draft.names.Nodup → draft'.names.Nodup

theorem Keeps.givesAll (h : draft.Keeps draft') : draft.GivesAll [] draft' where
  names := h.names
  bound := h.bound
  distinct hnodup := h.names ▸ hnodup

theorem Gives.givesAll (h : draft.Gives node name draft') :
    draft.GivesAll [(node, name)] draft' where
  names := h.names
  bound := h.bound
  distinct hnodup := by
    rw [h.names]
    exact List.nodup_cons.mpr ⟨h.fresh, hnodup⟩

theorem GivesAll.trans {given more : List (NodeId × String)} (h : draft.GivesAll given mid)
    (h' : mid.GivesAll more draft') : draft.GivesAll (given ++ more) draft' where
  names := by
    rw [h'.names, h.names, List.map_append, List.reverse_append, List.append_assoc]
  bound := by
    rw [h'.bound, h.bound, List.reverse_append, List.append_assoc]
  distinct hnodup := h'.distinct (h.distinct hnodup)

theorem Each.givesAll {nodes : List NodeId} {params : List Go.Param}
    (h : Each (fun node draft made draft' => draft.Gives node made.name draft') nodes draft params
      draft') :
    params.length = nodes.length ∧
      draft.GivesAll (nodes.zip (params.map Go.Param.name)) draft' := by
  induction h with
  | nil => exact ⟨rfl, (Keeps.refl _).givesAll⟩
  | cons hfirst _ ih => exact ⟨congrArg (· + 1) ih.1, hfirst.givesAll.trans ih.2⟩

theorem Binds.givesAll {nodes : List NodeId} {body : List Go.Binding}
    (h : Binds g nodes draft body draft') :
    draft.GivesAll (body.map fun binding => (binding.node, binding.name)) draft' := by
  induction h with
  | nil => exact (Keeps.refl _).givesAll
  | provider _ hfirst _ ih =>
      have hgives := hfirst.gives.givesAll
      rw [← hfirst.node] at hgives
      exact hgives.trans ih
  | other _ _ ih => exact ih

/-- The bindings are those of the provider nodes, in order. -/
theorem Binds.map_node {nodes : List NodeId} {body : List Go.Binding}
    (h : Binds g nodes draft body draft') :
    body.map Go.Binding.node = nodes.filter fun id => g.nodes[id]?.any Node.isProvider := by
  induction h with
  | nil => rfl
  | @provider node nodes draft mid draft' made more t p edges hnode hfirst _ ih =>
      have hprovider : g.nodes[node]?.any Node.isProvider = true :=
        Graph.any_isProvider_iff.mpr ⟨t, p, edges, hnode⟩
      simp only [List.map_cons, List.filter_cons, hprovider, if_true, hfirst.node, ih]
  | @other node nodes draft draft' body hnode _ ih =>
      have hother : ¬ g.nodes[node]?.any Node.isProvider = true := by
        rw [Graph.any_isProvider_iff]
        rintro ⟨t, p, edges, heq⟩
        exact hnode t p edges heq
      simp only [List.filter_cons, hother, if_false, Bool.false_eq_true, ih]

/-- A node has the variable that it was given. -/
theorem GivesAll.mem_of_boundName? {target : String} {given : List (NodeId × String)}
    (h : (Draft.init target).GivesAll given draft) (hname : draft.boundName? id = some name) :
    (id, name) ∈ given := by
  rw [boundName?, h.bound, init, List.append_nil, List.lookup_eq_some_iff] at hname
  obtain ⟨before, after, heq, -⟩ := hname
  rw [← List.mem_reverse, heq]
  exact List.mem_append_right _ List.mem_cons_self

/-- An argument passes on the value of its node. -/
theorem passes_of_argument {target : String} {scope : List (NodeId × String)} {p : Provider}
    {e : Edge} {made : Go.Argument} (hscope : (Draft.init target).GivesAll scope draft)
    (h : draft.argument g p e = .ok made) :
    g.Passes scope e.node e.resolved made.value ∧
      made.field = (p.inputs[e.position]? >>= Input.field) := by
  refine ⟨⟨hscope.mem_of_boundName? (boundName?_of_argument h), ?_⟩, ?_⟩
  all_goals
    unfold argument at h
    split at h
    · cases h
    · cases h
      simp only [adapt_name]

theorem returns_of_returned {target : String} {scope : List (NodeId × String)} {output : Output}
    {made : Go.Returned} (hscope : (Draft.init target).GivesAll scope draft)
    (h : draft.returned g output = .ok made) :
    output.Returns (fun node _ resolved operand => g.Passes scope node resolved operand) made := by
  cases output with
  | error source =>
      cases h
      exact .error
  | value node requested resolved =>
      simp only [Draft.returned] at h
      split at h
      case h_1 => cases h
      case h_2 name hname =>
        cases h
        refine .value ⟨?_, ?_⟩
        · rw [adapt_name]
          exact hscope.mem_of_boundName? hname
        · rw [adapt_name]

namespace Written

variable {f : Go.Function} {target : String} {signed typed zeroed : Draft}

theorem params_length (h : Written catalog g draft f signed typed zeroed draft') :
    f.params.length = g.params.length :=
  (h.params.mono fun _ _ _ _ => gives_of_param).givesAll.1

/-- Some bindings are made with the parameters and what was bound before in scope. -/
theorem givesAll_inScope (h : Written catalog g (.init target) f signed typed zeroed draft')
    {nodes : List NodeId} {made : List Go.Binding} (hbinds : Binds g nodes zeroed made mid) :
    (Draft.init target).GivesAll (g.inScope f made) mid := by
  have hsigned := (h.params.mono fun _ _ _ _ => gives_of_param).givesAll.2
  have hzeroed := hsigned.trans h.keeps.givesAll
  rw [List.append_nil] at hzeroed
  exact hzeroed.trans hbinds.givesAll

/-- A statement calls the provider of its node with the values that this one consumes. -/
theorem call (h : Written catalog g (.init target) f signed typed zeroed draft')
    {before after : List Go.Binding} {b : Go.Binding} (hbody : f.body = before ++ b :: after) :
    (∃ t edges, g.nodes[b.node]? = some (.provider t b.provider edges)) ∧
      List.Forall₂ (fun e (argument : Go.Argument) =>
        g.Passes (g.inScope f before) e.node e.resolved argument.value ∧
          argument.field = (b.provider.inputs[e.position]? >>= Input.field))
        (g.children b.node) b.args := by
  have hbinds := h.body
  rw [hbody] at hbinds
  obtain ⟨front, t, p, edges, back, mid, next, hnode, hbefore, hwrites, -⟩ := hbinds.split
  have hscope := h.givesAll_inScope hbefore
  have hprovider := hwrites.provider
  have hargs := List.mapM_eq_ok_iff.mp hwrites.args
  rw [hprovider]
  exact ⟨⟨t, edges, hnode⟩, hargs.imp fun e argument hmade => passes_of_argument hscope hmade⟩

theorem returns (h : Written catalog g (.init target) f signed typed zeroed draft') :
    List.Forall₂ (Output.Returns fun node _ resolved operand =>
      g.Passes (g.inScope f f.body) node resolved operand) g.outputs f.returned :=
  (List.mapM_eq_ok_iff.mp h.returned).imp fun _ _ hmade =>
    returns_of_returned (h.givesAll_inScope h.body) hmade

/-- The variables are different, and none is the one of the errors. -/
theorem locals (h : Written catalog g (.init target) f signed typed zeroed draft') :
    f.locals.Nodup ∧ "err" ∉ f.locals := by
  have hgives := h.givesAll_inScope h.body
  have hnodup := hgives.distinct (by simp [init])
  rw [hgives.names, Graph.map_snd_inScope h.params_length, init, List.nodup_append,
    List.nodup_reverse] at hnodup
  refine ⟨hnodup.1, fun hmem => ?_⟩
  exact hnodup.2.2 "err" (List.mem_reverse.mpr hmem) "err" (by simp) rfl

/-- What consumes a node reads its variable, once it was introduced. -/
theorem exists_reader (h : Written catalog g (.init target) f signed typed zeroed draft')
    {consumer : NodeId} (hconsumes : g.Consumes consumer id)
    (hmem : consumer ∈ f.body.map Go.Binding.node) :
    ∃ before reader after name, f.body = before ++ reader :: after ∧
      (id, name) ∈ g.inScope f before ∧ name ∈ reader.reads := by
  obtain ⟨reader, hreader, rfl⟩ := List.mem_map.mp hmem
  obtain ⟨before, after, hbody⟩ := List.append_of_mem hreader
  obtain ⟨e, he, rfl⟩ := hconsumes
  obtain ⟨argument, hargument, hpasses, -⟩ := List.exists_mem_of_forall₂ (h.call hbody).2 he
  exact ⟨before, reader, after, argument.value.name, hbody, hpasses.inScope,
    List.mem_map.mpr ⟨argument, hargument, rfl⟩⟩

/-- What is returned is read by the last return. -/
theorem exists_returned (h : Written catalog g (.init target) f signed typed zeroed draft')
    {requested resolved : TypeRef} (hmem : .value id requested resolved ∈ g.outputs) :
    ∃ name, (id, name) ∈ g.inScope f f.body ∧ name ∈ f.returns := by
  obtain ⟨made, hmade, hreturns⟩ := List.exists_mem_of_forall₂ h.returns hmem
  cases hreturns with
  | @value _ _ _ operand hpasses =>
      exact ⟨operand.name, hpasses.inScope, List.mem_filterMap.mpr ⟨_, hmade, rfl⟩⟩

end Written

end Draft

theorem Generator.exists_written {g : Graph} {generator after : Generator} {artifact : Artifact}
    (h : generator.generate g = .ok (artifact, after)) :
    ∃ signed typed zeroed last, Draft.Written generator.catalog g (.init g.target)
      artifact.function signed typed zeroed last ∧ artifact.imports = last.imports.sorted := by
  obtain ⟨⟨f, last⟩, hfunction, heq⟩ := Except.bind_eq_ok_iff.mp h
  cases heq
  obtain ⟨signed, typed, zeroed, hwritten⟩ := Draft.exists_written hfunction
  exact ⟨signed, typed, zeroed, last, hwritten, rfl⟩

namespace Registry

variable {registry : Registry} {request : Request} {g : Graph} {id : NodeId}
  {generator after : Generator} {artifact : Artifact}

/-- The provider nodes are put in order. -/
theorem mem_providers_iff (h : registry.load request = .ok g) :
    id ∈ g.providers ↔ ∃ t, g.Builds id t := by
  obtain ⟨m, built, before, slot, after, hlayout⟩ := exists_layout h
  rw [Graph.providers, List.mem_filter, Graph.any_isProvider_iff, hlayout.complete.mem_iff]
  refine and_iff_right_of_imp ?_
  rintro ⟨t, hbuilds⟩
  exact List.mem_range.mpr hbuilds.lt_size

theorem nodup_params_providers (h : registry.load request = .ok g) :
    (g.params ++ g.providers).Nodup := by
  obtain ⟨m, built, before, slot, after, hlayout⟩ := exists_layout h
  have horder : g.order.Nodup := hlayout.complete.nodup_iff.mpr List.nodup_range
  rw [List.nodup_append]
  refine ⟨hlayout.params ▸ List.nodup_range, horder.filter _, ?_⟩
  rintro id hparam _ hprovider rfl
  obtain ⟨t, p, edges, hnode⟩ := (mem_providers_iff h).mp hprovider
  obtain ⟨u, position, hexternal⟩ := (writable_of_load h).params id hparam
  rw [hnode] at hexternal
  cases hexternal

/-- Every parameter and every provider node is consumed or returned. -/
theorem consumed_or_returned (h : registry.load request = .ok g)
    (hid : id ∈ g.params ∨ ∃ t, g.Builds id t) :
    (∃ consumer, g.Consumes consumer id) ∨ ∃ r t, .value id r t ∈ g.outputs := by
  rcases hid with hparam | ⟨t, hbuilds⟩
  · obtain ⟨t, position, hnode⟩ := (writable_of_load h).params id hparam
    exact Graph.consumed_or_returned_of_consumers (consumers_of_external h hnode)
  · obtain ⟨position, root, r, u, hposition, hreach⟩ := exists_below h hbuilds
    rcases Relation.ReflTransGen.cases_tail hreach with rfl | ⟨consumer, -, hconsumes⟩
    · exact Or.inr ⟨r, u, List.mem_of_getElem? hposition⟩
    · exact Or.inl ⟨consumer, hconsumes⟩

/-- The edges of a provider node feed its inputs in order. -/
theorem map_position_of_load (h : registry.load request = .ok g) {t : TypeRef} {p : Provider}
    {edges : List Edge} (hnode : g.nodes[id]? = some (.provider t p edges)) :
    edges.map Edge.position = List.range p.inputs.length := by
  have hwired := wired_of_load h hnode
  refine List.ext_getElem (by simp [hwired.length]) fun i hi hi' => ?_
  rw [List.length_map] at hi
  rw [List.length_range] at hi'
  rw [List.getElem_map, List.getElem_range]
  exact (hwired.linked i hi' hi).position

theorem map_field_of_forall₂ {p : Provider} {edges : List Edge} {args : List Go.Argument}
    (hpositions : edges.map Edge.position = List.range p.inputs.length)
    (hfields : List.Forall₂ (fun e (argument : Go.Argument) =>
      argument.field = (p.inputs[e.position]? >>= Input.field)) edges args) :
    args.map Go.Argument.field = p.inputs.map Input.field := by
  have hargs : args.map Go.Argument.field =
      edges.map fun e => p.inputs[e.position]? >>= Input.field := by
    rw [← List.forall₂_eq_eq_eq, List.forall₂_map_left_iff, List.forall₂_map_right_iff]
    exact hfields.flip
  have hinputs : p.inputs.map Input.field =
      (List.range p.inputs.length).map fun i => p.inputs[i]? >>= Input.field := by
    apply List.ext_getElem
    · simp
    · intro i hi hi'
      rw [List.length_map] at hi
      simp [hi]
  rw [hargs, hinputs, ← hpositions, List.map_map]
  rfl

section Written

variable {catalog : Catalog} {target : String} {f : Go.Function} {signed typed zeroed last : Draft}
  {name : String}

theorem once_of_written (h : registry.load request = .ok g)
    (hwritten : Draft.Written catalog g (.init target) f signed typed zeroed last) :
    (f.body.map Go.Binding.node).Nodup := by
  rw [hwritten.body.map_node]
  exact (List.nodup_append.mp (nodup_params_providers h)).2.1

/-- A node has one variable only. -/
theorem name_unique (h : registry.load request = .ok g)
    (hwritten : Draft.Written catalog g (.init target) f signed typed zeroed last) {other : String}
    (hname : (id, name) ∈ g.inScope f f.body) (hother : (id, other) ∈ g.inScope f f.body) :
    name = other := by
  have hnodes : ((g.inScope f f.body).map Prod.fst).Nodup := by
    rw [Graph.map_fst_inScope hwritten.params_length, hwritten.body.map_node]
    exact nodup_params_providers h
  exact congrArg Prod.snd (List.inj_on_of_nodup_map hnodes hname hother rfl)

/-- The variable of a parameter or a provider node is read by a statement that has it in scope, or by
the last return. -/
theorem read_of_inScope (h : registry.load request = .ok g)
    (hwritten : Draft.Written catalog g (.init target) f signed typed zeroed last)
    (hid : id ∈ g.params ∨ ∃ t, g.Builds id t) (hname : (id, name) ∈ g.inScope f f.body) :
    (∃ before reader after, f.body = before ++ reader :: after ∧
      (id, name) ∈ g.inScope f before ∧ name ∈ reader.reads) ∨ name ∈ f.returns := by
  rcases consumed_or_returned h hid with ⟨consumer, hconsumes⟩ | ⟨r, t, hmem⟩
  · have hbound : consumer ∈ f.body.map Go.Binding.node := by
      rw [hwritten.body.map_node]
      exact (mem_providers_iff h).mpr (Graph.builds_of_consumes hconsumes)
    obtain ⟨before, reader, after, other, hbody, hother, hreads⟩ :=
      hwritten.exists_reader hconsumes hbound
    -- What the consumer reads is some variable of the node, and a node has only one.
    obtain rfl := name_unique h hwritten (Graph.inScope_mono hbody hother) hname
    exact Or.inl ⟨before, reader, after, hbody, hother, hreads⟩
  · obtain ⟨other, hother, hreturned⟩ := hwritten.exists_returned hmem
    obtain rfl := name_unique h hwritten hother hname
    exact Or.inr hreturned

/-- A binding whose variable is in scope was made before. -/
theorem mem_of_inScope (h : registry.load request = .ok g)
    (hwritten : Draft.Written catalog g (.init target) f signed typed zeroed last)
    {before after : List Go.Binding} {reader b : Go.Binding}
    (hbody : f.body = before ++ reader :: after) (hb : b ∈ f.body)
    (hname : (b.node, name) ∈ g.inScope f before) : b ∈ before := by
  have hparam : b.node ∉ g.params := by
    intro hmem
    have hprovider : b.node ∈ g.providers := by
      have hbound := List.mem_map_of_mem (f := Go.Binding.node) hb
      rwa [hwritten.body.map_node] at hbound
    exact (List.nodup_append.mp (nodup_params_providers h)).2.2 _ hmem _ hprovider rfl
  obtain ⟨b', hb', hsame⟩ := Graph.exists_binding_of_inScope hname hparam
  have hearlier : b' ∈ f.body := hbody ▸ List.mem_append_left _ hb'
  rwa [← List.inj_on_of_nodup_map (once_of_written h hwritten) hearlier hb hsame]

/-- What is written for the graph of a request is well scoped. -/
theorem scoped_of_written (h : registry.load request = .ok g)
    (hwritten : Draft.Written catalog g (.init target) f signed typed zeroed last) :
    g.Scoped f := by
  have horder : f.body.map Go.Binding.node = g.providers := hwritten.body.map_node
  have hcalls : ∀ b ∈ f.body,
      ∃ t, g.nodes[b.node]? = some (.provider t b.provider (g.children b.node)) := by
    intro b hb
    obtain ⟨before, after, hbody⟩ := List.append_of_mem hb
    obtain ⟨t, edges, hnode⟩ := (hwritten.call hbody).1
    exact ⟨t, by rw [children_of_load h hnode, hnode]; rfl⟩
  refine
    { text := f.printsAs_render
      params := hwritten.params_length
      order := horder
      once := once_of_written h hwritten
      bound := ?_
      calls := hcalls
      distinct := hwritten.locals.1
      unreserved := hwritten.locals.2
      fields := ?_
      positions := ?_
      arguments := ?_
      returned := ?_
      paramsRead := ?_
      bindingsRead := ?_ }
  · intro id t p edges hnode
    rw [horder]
    exact (mem_providers_iff h).mpr ⟨t, p, edges, hnode⟩
  · intro b hb
    obtain ⟨before, after, hbody⟩ := List.append_of_mem hb
    obtain ⟨t, hnode⟩ := hcalls b hb
    have hargs := (hwritten.call hbody).2
    exact map_field_of_forall₂ (map_position_of_load h hnode) (hargs.imp fun _ _ hone => hone.2)
  · intro b hb
    obtain ⟨t, hnode⟩ := hcalls b hb
    exact map_position_of_load h hnode
  · intro before b after hbody
    exact (hwritten.call hbody).2.imp fun _ _ hone => hone.1.inScope
  · exact hwritten.returns.imp fun _ _ hone => hone.imp fun _ _ _ _ _ hpasses => hpasses.inScope
  · intro param hparam
    obtain ⟨id, hid, hname⟩ := Graph.exists_inScope_of_param hwritten.params_length hparam
    refine (read_of_inScope h hwritten (Or.inl hid) hname).imp_left ?_
    rintro ⟨before, reader, after, hbody, -, hreads⟩
    exact ⟨reader, hbody ▸ List.mem_append_right _ List.mem_cons_self, hreads⟩
  · intro b hb
    obtain ⟨t, hnode⟩ := hcalls b hb
    have hname : (b.node, b.name) ∈ g.inScope f f.body :=
      List.mem_append_right _ (List.mem_map.mpr ⟨b, hb, rfl⟩)
    refine (read_of_inScope h hwritten (Or.inr ⟨t, _, _, hnode⟩) hname).imp_left ?_
    rintro ⟨before, reader, after, hbody, hscope, hreads⟩
    exact ⟨before, reader, after, hbody, mem_of_inScope h hwritten hbody hb hscope, hreads⟩

end Written

/-- The function of the graph of a request is written in five steps. -/
theorem written_of_load (h : registry.load request = .ok g) (generator : Generator) :
    ∃ artifact after signed typed zeroed last, generator.generate g = .ok (artifact, after) ∧
      Draft.Written generator.catalog g (.init g.target) artifact.function signed typed zeroed
        last ∧
      artifact.imports = last.imports.sorted := by
  obtain ⟨artifact, after, hgenerate⟩ := generator.exists_generate (writable_of_load h)
  obtain ⟨signed, typed, zeroed, last, hwritten, himports⟩ := Generator.exists_written hgenerate
  exact ⟨artifact, after, signed, typed, zeroed, last, hgenerate, hwritten, himports⟩

/-- Every graph of a request has a function, whose text has a statement for each provider node. Its
variables are introduced once, in binding order, and before they are read; each argument and each
returned value reads the variable of its own node, and every variable is read. -/
theorem wellScoped_of_load (h : registry.load request = .ok g) (generator : Generator) :
    ∃ artifact after, generator.generate g = .ok (artifact, after) ∧
      g.Scoped artifact.function := by
  obtain ⟨artifact, after, signed, typed, zeroed, last, hgenerate, hwritten, -⟩ :=
    written_of_load h generator
  exact ⟨artifact, after, hgenerate, scoped_of_written h hwritten⟩

end Registry

namespace Sample

theorem wellScoped_guarded : guarded.load request = .ok guardedGraph ∧
    ∃ artifact after, (Generator.init guarded.catalog).generate guardedGraph =
      .ok (artifact, after) ∧ guardedGraph.Scoped artifact.function :=
  ⟨load_guarded, Registry.wellScoped_of_load load_guarded (.init guarded.catalog)⟩

end Sample

end Wiring
