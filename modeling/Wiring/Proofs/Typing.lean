import Wiring.Proofs.Spelling

/-!
The types of the expressions in a generated function. A variable has the type of the value that its
node holds. Where this differs from the type that is wanted it does so by a pointer, and then the
expression takes the address or the content of the variable, so that it has the wanted type.
-/

namespace Wiring

/-- The types of expressions, given those of variables. Only a value has its address taken, and only
a pointer its content. -/
inductive Go.Operand.HasType (context : String → TypeRef → Prop) : Go.Operand → TypeRef → Prop where
  | direct {x : String} {t : TypeRef} (hx : context x t) : HasType context ⟨.direct, x⟩ t
  | address {x : String} {t : TypeRef} (hx : context x t) (hvalue : t.pointer = false) :
      HasType context ⟨.address, x⟩ (t.withPointer true)
  | content {x : String} {t : TypeRef} (hx : context x t) (hpointer : t.pointer = true) :
      HasType context ⟨.content, x⟩ (t.withPointer false)

section HasType

variable {context : String → TypeRef → Prop} {operand : Go.Operand} {x : String} {t u : TypeRef}

/-- An expression has one type only if each variable does. -/
theorem Go.Operand.HasType.unique (hcontext : ∀ x t u, context x t → context x u → t = u)
    (h : operand.HasType context t) (h' : operand.HasType context u) : t = u := by
  cases h with
  | direct hx =>
      cases h' with
      | direct hx' => exact hcontext _ _ _ hx hx'
  | address hx _ =>
      cases h' with
      | address hx' _ => rw [hcontext _ _ _ hx hx']
  | content hx _ =>
      cases h' with
      | content hx' _ => rw [hcontext _ _ _ hx hx']

/-- A variable gives every type of its base. -/
theorem Draft.hasType_adapt (hx : context x u) (hbase : u.base = t.base) :
    (adapt x (some u) t).HasType context t := by
  obtain ⟨hpath, hname⟩ := TypeRef.base_eq_iff.mp hbase
  obtain ⟨path, name, pointer⟩ := u
  obtain ⟨path', name', pointer'⟩ := t
  cases hpath
  cases hname
  cases pointer <;> cases pointer'
  · exact .direct hx
  · exact .address hx rfl
  · exact .content hx rfl
  · exact .direct hx

end HasType

namespace Graph

variable {g : Graph} {f : Go.Function} {id : NodeId} {name : String} {t u : TypeRef}

/-- The type of a variable: that of its node for a parameter, and what the provider makes for a
binding. -/
inductive Declares (g : Graph) (f : Go.Function) : String → TypeRef → Prop where
  | param {id : NodeId} {param : Go.Param} {t : TypeRef} (hparam : (id, param) ∈ g.params.zip f.params)
      (ht : g.type? id = some t) : Declares g f param.name t
  | binding {b : Go.Binding} (hb : b ∈ f.body) : Declares g f b.name b.provider.result

end Graph

namespace Scope

variable {scope : Scope} {nodes : Array Node} {id : NodeId} {t : TypeRef}

/-- The value of the node that supplies a type differs from that type by a pointer at most. -/
theorem Supplies.exists_produced (h : scope.Supplies nodes t id)
    (hresult : ∀ d p edges, nodes[id]? = some (.provider d p edges) → p.result.base = d.base) :
    ∃ u, (nodes[id]? >>= Node.produces?) = some u ∧ u.base = t.base := by
  cases h with
  | @external u hchosen hparam hnode =>
      refine ⟨u, by rw [hnode]; rfl, ?_⟩
      rcases hchosen with hexact | ⟨-, v, hv, hbase, -⟩
      · rw [hparam] at hexact
        cases hexact
        rfl
      · rw [hparam] at hv
        cases hv
        exact hbase
  | @provider u p edges _ hnode hbase =>
      exact ⟨p.result, by rw [hnode]; rfl, (hresult u p edges hnode).trans hbase⟩

end Scope

namespace Registry

variable {registry : Registry} {request : Request} {g : Graph} {id : NodeId} {t u : TypeRef}

theorem produced_of_supplies (h : registry.load request = .ok g)
    (hsupplies : (registry.scope request).Supplies g.nodes t id) :
    ∃ u, Draft.produced? g id = some u ∧ u.base = t.base :=
  hsupplies.exists_produced fun _ _ _ hnode => (wired_of_load h hnode).result

section Written

variable {catalog : Catalog} {target : String} {f : Go.Function} {signed typed zeroed last : Draft}
  {name : String} {operand : Go.Operand}

/-- The variable of a node has the type of its value. -/
theorem declares_of_inScope (h : registry.load request = .ok g)
    (hwritten : Draft.Written catalog g (.init target) f signed typed zeroed last)
    (hname : (id, name) ∈ g.inScope f f.body) (hproduced : Draft.produced? g id = some t) :
    g.Declares f name t := by
  rcases Graph.mem_inScope_iff.mp hname with ⟨param, hparam, rfl⟩ | ⟨b, hb, rfl, rfl⟩
  · obtain ⟨u, position, hnode⟩ := (writable_of_load h).params id (List.of_mem_zip hparam).1
    rw [Draft.produced?, hnode] at hproduced
    cases hproduced
    exact .param hparam (by rw [Graph.type?, hnode]; rfl)
  · obtain ⟨u, hnode⟩ := (scoped_of_written h hwritten).calls b hb
    rw [Draft.produced?, hnode] at hproduced
    cases hproduced
    exact .binding hb

/-- Every declared variable is the one of a node, with the type of its value. -/
theorem exists_inScope_of_declares (h : registry.load request = .ok g)
    (hwritten : Draft.Written catalog g (.init target) f signed typed zeroed last)
    (hdeclares : g.Declares f name t) :
    ∃ id, (id, name) ∈ g.inScope f f.body ∧ Draft.produced? g id = some t := by
  cases hdeclares with
  | @param id param t hparam ht =>
      obtain ⟨u, position, hnode⟩ := (writable_of_load h).params id (List.of_mem_zip hparam).1
      rw [Graph.type?, hnode] at ht
      cases ht
      exact ⟨id, Graph.mem_inScope_iff.mpr (Or.inl ⟨param, hparam, rfl⟩),
        by rw [Draft.produced?, hnode]; rfl⟩
  | @binding b hb =>
      obtain ⟨u, hnode⟩ := (scoped_of_written h hwritten).calls b hb
      exact ⟨b.node, Graph.mem_inScope_iff.mpr (Or.inr ⟨b, hb, rfl, rfl⟩),
        by rw [Draft.produced?, hnode]; rfl⟩

theorem declares_unique (h : registry.load request = .ok g)
    (hwritten : Draft.Written catalog g (.init target) f signed typed zeroed last)
    (ht : g.Declares f name t) (hu : g.Declares f name u) : t = u := by
  obtain ⟨id, hid, hproduced⟩ := exists_inScope_of_declares h hwritten ht
  obtain ⟨id', hid', hproduced'⟩ := exists_inScope_of_declares h hwritten hu
  have hnames : ((g.inScope f f.body).map Prod.snd).Nodup := by
    rw [Graph.map_snd_inScope hwritten.params_length]
    exact hwritten.locals.1
  obtain rfl : id = id' := congrArg Prod.fst (List.inj_on_of_nodup_map hnames hid hid' rfl)
  rw [hproduced] at hproduced'
  exact Option.some.inj hproduced'

/-- An expression for the value of a node has the type that the node supplies. -/
theorem hasType_of_passes (h : registry.load request = .ok g)
    (hwritten : Draft.Written catalog g (.init target) f signed typed zeroed last)
    (hpasses : g.Passes (g.inScope f f.body) id t operand)
    (hsupplies : (registry.scope request).Supplies g.nodes t id) :
    operand.HasType (g.Declares f) t := by
  obtain ⟨u, hproduced, hbase⟩ := produced_of_supplies h hsupplies
  have hdeclares := declares_of_inScope h hwritten hpasses.inScope hproduced
  rw [hpasses.adapted, hproduced]
  exact Draft.hasType_adapt hdeclares hbase

/-- Each argument has the type that its edge is resolved to. -/
theorem hasType_arguments (h : registry.load request = .ok g)
    (hwritten : Draft.Written catalog g (.init target) f signed typed zeroed last)
    {b : Go.Binding} (hb : b ∈ f.body) :
    List.Forall₂ (fun e (argument : Go.Argument) =>
      argument.value.HasType (g.Declares f) e.resolved) (g.children b.node) b.args := by
  obtain ⟨before, after, hbody⟩ := List.append_of_mem hb
  obtain ⟨t, hnode⟩ := (scoped_of_written h hwritten).calls b hb
  refine List.forall₂_imp_of_mem (hwritten.call hbody).2 ?_
  rintro e he argument ⟨hpasses, -⟩
  obtain ⟨_, _, _, _, _, hsupplies⟩ := (wired_of_load h hnode).exists_input he
  have hscope := Graph.inScope_mono hbody hpasses.inScope
  exact hasType_of_passes h hwritten ⟨hscope, hpasses.adapted⟩ hsupplies

/-- Each returned expression has the type that its output is resolved to. -/
theorem hasType_returned (h : registry.load request = .ok g)
    (hwritten : Draft.Written catalog g (.init target) f signed typed zeroed last) :
    List.Forall₂ (Output.Returns fun _ _ resolved operand =>
      operand.HasType (g.Declares f) resolved) g.outputs f.returned := by
  refine List.forall₂_imp_of_mem hwritten.returns fun output houtput made hreturns => ?_
  refine hreturns.imp fun node requested resolved operand heq hpasses => ?_
  exact hasType_of_passes h hwritten hpasses (returned_of_load h (heq ▸ houtput)).2

/-- An input without a substitute is given an argument of the type that it declares. -/
theorem hasType_inputs (h : registry.load request = .ok g)
    (hwritten : Draft.Written catalog g (.init target) f signed typed zeroed last)
    {b : Go.Binding} (hb : b ∈ f.body) :
    List.Forall₂ (fun (input : Input) (argument : Go.Argument) =>
      request.aliases.get? input.type = none →
        argument.value.HasType (g.Declares f) input.type) b.provider.inputs b.args := by
  obtain ⟨t, hnode⟩ := (scoped_of_written h hwritten).calls b hb
  have hwired := wired_of_load h hnode
  obtain ⟨hlength, htyped⟩ := List.forall₂_iff_get.mp (hasType_arguments h hwritten hb)
  refine List.forall₂_iff_get.mpr ⟨hwired.length.symm.trans hlength, ?_⟩
  intro i hi hi' hplain
  have he : i < (g.children b.node).length := hlength ▸ hi'
  -- A type without a substitute comes to itself, so the edge is resolved to what is declared.
  have hresolved := (hwired.linked i hi he).resolved
  have hsame := Aliases.resolve_of_get? hplain
  have heq : (g.children b.node)[i].resolved = b.provider.inputs[i].type :=
    Except.ok.inj (hresolved.symm.trans hsame)
  exact heq ▸ htyped i he hi'

/-- A result without a substitute is given a value of the type that was requested. -/
theorem hasType_results (h : registry.load request = .ok g)
    (hwritten : Draft.Written catalog g (.init target) f signed typed zeroed last) :
    List.Forall₂ (Output.Returns fun _ requested _ operand =>
      request.aliases.get? requested = none → operand.HasType (g.Declares f) requested)
      g.outputs f.returned := by
  refine List.forall₂_imp_of_mem (hasType_returned h hwritten) ?_
  intro output houtput made hreturns
  refine hreturns.imp fun node requested resolved operand heq htyped hplain => ?_
  have hresolved := (returned_of_load h (heq ▸ houtput)).1
  have hsame := Aliases.resolve_of_get? hplain
  rwa [← Except.ok.inj (hresolved.symm.trans hsame)]

end Written

end Registry

/-- The expressions of a file have the types that its graph gives them. -/
structure Artifact.WellTyped (artifact : Artifact) (g : Graph) (aliases : Aliases) : Prop where
  /-- The expressions are in the text: a variable by its name, its address after an ampersand and its
  content after a star. -/
  text : artifact.function.PrintsAs artifact.function.render
  /-- An expression has one type at most. -/
  unique : ∀ operand t u, Go.Operand.HasType (g.Declares artifact.function) operand t →
    operand.HasType (g.Declares artifact.function) u → t = u
  arguments : ∀ b ∈ artifact.function.body,
    List.Forall₂ (fun e (argument : Go.Argument) =>
      argument.value.HasType (g.Declares artifact.function) e.resolved) (g.children b.node) b.args
  returned : List.Forall₂ (Output.Returns fun _ _ resolved operand =>
    operand.HasType (g.Declares artifact.function) resolved) g.outputs artifact.function.returned
  /-- Without a substitute an input is given what its provider declares. -/
  inputs : ∀ b ∈ artifact.function.body,
    List.Forall₂ (fun (input : Input) (argument : Go.Argument) =>
      aliases.get? input.type = none →
        argument.value.HasType (g.Declares artifact.function) input.type) b.provider.inputs b.args
  /-- Without a substitute a result is given what was requested. -/
  results : List.Forall₂ (Output.Returns fun _ requested _ operand =>
    aliases.get? requested = none → operand.HasType (g.Declares artifact.function) requested)
    g.outputs artifact.function.returned
  /-- The signature declares what was requested. -/
  signature : List.Forall₂ (fun (output : Output) (made : Go.ResultType) =>
    Spelled g.target artifact.specs output.requested? made.type?)
    g.outputs artifact.function.results

namespace Registry

variable {registry : Registry} {request : Request} {g : Graph}

/-- Every graph of a request has a file in which each argument has the type of its edge and each
returned value that of its output, be it through the variable itself, its address or its content. So
constructors and signature get what they declare, where nothing is substituted for it. -/
theorem wellTyped_of_load (h : registry.load request = .ok g) (generator : Generator) :
    ∃ artifact after, generator.generate g = .ok (artifact, after) ∧
      artifact.WellTyped g request.aliases := by
  obtain ⟨artifact, after, signed, typed, zeroed, last, hgenerate, hwritten, himports⟩ :=
    written_of_load h generator
  refine ⟨artifact, after, hgenerate, ?_⟩
  exact
    { text := artifact.function.printsAs_render
      unique := fun _ _ _ => Go.Operand.HasType.unique fun _ _ _ => declares_unique h hwritten
      arguments := fun _ hb => hasType_arguments h hwritten hb
      returned := hasType_returned h hwritten
      inputs := fun _ hb => hasType_inputs h hwritten hb
      results := hasType_results h hwritten
      signature := (wellSpelled_of_written h hwritten himports).results }

end Registry

namespace Sample

theorem wellTyped_guarded : guarded.load request = .ok guardedGraph ∧
    ∃ artifact after, (Generator.init guarded.catalog).generate guardedGraph =
      .ok (artifact, after) ∧ artifact.WellTyped guardedGraph request.aliases :=
  ⟨load_guarded, Registry.wellTyped_of_load load_guarded (.init guarded.catalog)⟩

end Sample

end Wiring
