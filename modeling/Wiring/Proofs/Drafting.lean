import Wiring.Generation
import Wiring.Proofs.Failure
import Wiring.Proofs.Naming

/-!
What writing a function does to the draft, step by step. A parameter or a binding gives its node a
name that no node has; every other step at most uses imports.
-/

namespace Wiring.Draft

section Steps

variable {catalog : Catalog} {g : Graph} {draft mid draft' : Draft} {node id : NodeId}
  {name : String}

/-- Nothing was named from one draft to the next. -/
structure Keeps (draft draft' : Draft) : Prop where
  names : draft'.names = draft.names
  bound : draft'.bound = draft.bound

/-- A node was given a name that was not given before and that no import has so far. -/
structure Gives (draft : Draft) (node : NodeId) (name : String) (draft' : Draft) : Prop where
  fresh : name ∉ draft.names
  names : draft'.names = name :: draft.names
  bound : draft'.bound = (node, name) :: draft.bound
  unimported : name ∉ draft'.imports.qualifiers

/-- A node has a variable. -/
def Knows (draft : Draft) (node : NodeId) : Prop :=
  ∃ name, draft.boundName? node = some name

theorem Keeps.refl (draft : Draft) : draft.Keeps draft :=
  ⟨rfl, rfl⟩

theorem Keeps.trans (h : draft.Keeps mid) (h' : mid.Keeps draft') : draft.Keeps draft' :=
  ⟨h'.names.trans h.names, h'.bound.trans h.bound⟩

theorem Keeps.boundName? (h : draft.Keeps draft') (id : NodeId) :
    draft'.boundName? id = draft.boundName? id := by
  rw [Draft.boundName?, Draft.boundName?, h.bound]

theorem Keeps.knows_iff (h : draft.Keeps draft') : draft'.Knows id ↔ draft.Knows id := by
  rw [Knows, Knows, h.boundName?]

theorem Keeps.gives (h : draft.Keeps mid) (h' : mid.Gives node name draft') :
    draft.Gives node name draft' where
  fresh := h.names ▸ h'.fresh
  names := h.names ▸ h'.names
  bound := h.bound ▸ h'.bound
  unimported := h'.unimported

theorem Gives.boundName?_self (h : draft.Gives node name draft') :
    draft'.boundName? node = some name := by
  rw [Draft.boundName?, h.bound, List.lookup_cons_self]

theorem Gives.boundName?_of_ne (h : draft.Gives node name draft') (hne : id ≠ node) :
    draft'.boundName? id = draft.boundName? id := by
  have hkey : (id == node) = false := beq_eq_false_iff_ne.mpr hne
  rw [Draft.boundName?, h.bound, List.lookup_cons, hkey]
  rfl

theorem Gives.knows_iff (h : draft.Gives node name draft') :
    draft'.Knows id ↔ id = node ∨ draft.Knows id := by
  by_cases heq : id = node
  · rw [heq]
    exact iff_of_true ⟨name, h.boundName?_self⟩ (Or.inl rfl)
  · rw [Knows, h.boundName?_of_ne heq, or_iff_right heq, Knows]

theorem freshName_not_mem (draft : Draft) (base : String) : draft.freshName base ∉ draft.names :=
  fun hmem => Naming.firstFree_not_mem base _ (List.mem_append_left _ hmem)

theorem freshName_not_mem_qualifiers (draft : Draft) (base : String) :
    draft.freshName base ∉ draft.imports.qualifiers :=
  fun hmem => Naming.firstFree_not_mem base _ (List.mem_append_right _ hmem)

theorem gives_bind (draft : Draft) (node : NodeId) (base : String) :
    draft.Gives node (draft.bind node base).1 (draft.bind node base).2 :=
  ⟨draft.freshName_not_mem base, rfl, rfl, draft.freshName_not_mem_qualifiers base⟩

theorem keeps_typeExpr (catalog : Catalog) (t : TypeRef) (draft : Draft) :
    draft.Keeps (typeExpr catalog t draft).2 :=
  ⟨rfl, rfl⟩

theorem keeps_zero (catalog : Catalog) (t : TypeRef) (draft : Draft) :
    draft.Keeps (zero catalog t draft).2 := by
  unfold zero
  split
  · exact .refl draft
  split
  · exact .refl draft
  split <;> first | exact .refl draft | exact keeps_typeExpr catalog t draft

theorem gives_of_param {made : Go.Param} (h : param catalog g node draft = .ok (made, draft')) :
    draft.Gives node made.name draft' := by
  unfold param at h
  split at h
  case h_1 => cases h
  case h_2 t ht =>
    cases h
    exact (keeps_typeExpr catalog t draft).gives (gives_bind _ _ _)

theorem keeps_of_resultType {output : Output} {made : Go.ResultType}
    (h : resultType catalog output draft = .ok (made, draft')) : draft.Keeps draft' := by
  cases output with
  | error source =>
      cases h
      exact .refl draft
  | value id requested resolved =>
      cases h
      exact keeps_typeExpr catalog requested draft

theorem keeps_of_skipped {output : Output} {made : Go.Skipped}
    (h : skipped catalog output draft = .ok (made, draft')) : draft.Keeps draft' := by
  cases output with
  | error source =>
      cases h
      exact .refl draft
  | value id requested resolved =>
      cases h
      exact keeps_zero catalog requested draft

theorem adapt_name (name : String) (produced : Option TypeRef) (wanted : TypeRef) :
    (adapt name produced wanted).name = name := by
  unfold adapt
  split <;> rfl

theorem boundName?_of_argument {p : Provider} {edge : Edge} {made : Go.Argument}
    (h : draft.argument g p edge = .ok made) :
    draft.boundName? edge.node = some made.value.name := by
  unfold argument at h
  split at h
  case h_1 => cases h
  case h_2 name hname =>
    cases h
    rw [hname, adapt_name]

/-- A binding calls its provider with the variables of its inputs, and it imports the provider's
package. -/
structure Writes (g : Graph) (draft : Draft) (node : NodeId) (t : TypeRef) (p : Provider)
    (edges : List Edge) (made : Go.Binding) (draft' : Draft) : Prop where
  args : edges.mapM (draft.argument g p) = .ok made.args
  gives : draft.Gives node made.name draft'
  /-- The variable is named after the package and the type. -/
  after : draft' = (bind { draft with imports := (draft.imports.add p.importPath p.package).2 } node
    (Naming.variableName p.package t.name)).2
  node : made.node = node
  provider : made.provider = p
  constructor : made.constructor = ⟨(draft.imports.add p.importPath p.package).1, p.name⟩
  imports : draft'.imports = (draft.imports.add p.importPath p.package).2

theorem writes_of_binding {t : TypeRef} {p : Provider} {edges : List Edge} {made : Go.Binding}
    (h : draft.binding g node t p edges = .ok (made, draft')) :
    draft.Writes g node t p edges made draft' := by
  unfold binding at h
  obtain ⟨args, hargs, h⟩ := Except.bind_eq_ok_iff.mp h
  simp only at h
  split at h
  case isTrue => cases h
  case isFalse =>
    cases h
    have hkeeps :
        draft.Keeps { draft with imports := (draft.imports.add p.importPath p.package).2 } :=
      ⟨rfl, rfl⟩
    exact ⟨hargs, hkeeps.gives (gives_bind _ _ _), rfl, rfl, rfl, rfl, rfl⟩

end Steps

/-- Items were worked off in order, each in the way that `R` says. -/
inductive Each {α β : Type} (R : α → Draft → β → Draft → Prop) :
    List α → Draft → List β → Draft → Prop where
  | nil {draft : Draft} : Each R [] draft [] draft
  | cons {item : α} {items : List α} {draft mid draft' : Draft} {made : β} {more : List β}
      (hfirst : R item draft made mid) (hrest : Each R items mid more draft') :
      Each R (item :: items) draft (made :: more) draft'

section Sequences

variable {α β : Type} {items : List α} {draft draft' : Draft} {made : List β}

theorem Each.mono {R R' : α → Draft → β → Draft → Prop} (h : Each R items draft made draft')
    (himp : ∀ item draft made draft', R item draft made draft' → R' item draft made draft') :
    Each R' items draft made draft' := by
  induction h with
  | nil => exact .nil
  | cons hfirst _ ih => exact .cons (himp _ _ _ _ hfirst) ih

theorem Each.keeps (h : Each (fun _ draft _ draft' => draft.Keeps draft') items draft made draft') :
    draft.Keeps draft' := by
  induction h with
  | nil => exact .refl _
  | cons hfirst _ ih => exact hfirst.trans ih

/-- Where an item was worked off, the items before it were worked off first and the others after. -/
theorem Each.split {R : α → Draft → β → Draft → Prop} {before after : List β} {one : β}
    (h : Each R items draft (before ++ one :: after) draft') :
    ∃ front item back mid next, items = front ++ item :: back ∧ front.length = before.length ∧
      Each R front draft before mid ∧ R item mid one next ∧ Each R back next after draft' := by
  induction before generalizing items draft with
  | nil =>
      cases h with
      | cons hfirst hrest => exact ⟨[], _, _, _, _, rfl, rfl, .nil, hfirst, hrest⟩
  | cons made before ih =>
      cases h with
      | cons hfirst hrest =>
          obtain ⟨front, item, back, mid, next, rfl, hlength, hbefore, hone, hafter⟩ := ih hrest
          exact ⟨_ :: front, item, back, mid, next, rfl, congrArg (· + 1) hlength,
            .cons hfirst hbefore, hone, hafter⟩

theorem each_of_ok {step : α → Draft → Except GenerationError (β × Draft)}
    (h : each step items draft = .ok (made, draft')) :
    Each (fun item draft made draft' => step item draft = .ok (made, draft')) items draft made
      draft' := by
  induction items generalizing draft made with
  | nil =>
      cases h
      exact .nil
  | cons item items ih =>
      rw [each] at h
      obtain ⟨⟨one, mid⟩, hone, h⟩ := Except.bind_eq_ok_iff.mp h
      obtain ⟨⟨more, last⟩, hmore, h⟩ := Except.bind_eq_ok_iff.mp h
      cases h
      exact .cons hone (ih hmore)

theorem keeps_of_resultTypes {catalog : Catalog} {outputs : List Output} {made : List Go.ResultType}
    (h : Each (fun output draft made draft' => resultType catalog output draft = .ok (made, draft'))
      outputs draft made draft') : draft.Keeps draft' :=
  (h.mono fun _ _ _ _ => keeps_of_resultType).keeps

theorem keeps_of_skips {catalog : Catalog} {outputs : List Output} {made : List Go.Skipped}
    (h : Each (fun output draft made draft' => skipped catalog output draft = .ok (made, draft'))
      outputs draft made draft') : draft.Keeps draft' :=
  (h.mono fun _ _ _ _ => keeps_of_skipped).keeps

/-- The steps succeed if each of them does on every draft. -/
theorem exists_each {step : α → Draft → Except GenerationError (β × Draft)}
    (h : ∀ item ∈ items, ∀ draft, ∃ result, step item draft = .ok result) (draft : Draft) :
    ∃ result, each step items draft = .ok result := by
  induction items generalizing draft with
  | nil => exact ⟨([], draft), rfl⟩
  | cons item items ih =>
      obtain ⟨⟨one, mid⟩, hone⟩ := h item (by simp) draft
      obtain ⟨⟨more, last⟩, hmore⟩ := ih (fun i hi => h i (by simp [hi])) mid
      refine ⟨(one :: more, last), ?_⟩
      rw [each]
      exact Except.bind_eq_ok_iff.mpr ⟨_, hone, Except.bind_eq_ok_iff.mpr ⟨_, hmore, rfl⟩⟩

end Sequences

section Bodies

variable {g : Graph} {node id : NodeId} {nodes : List NodeId} {draft draft' : Draft}
  {body : List Go.Binding} {t : TypeRef} {p : Provider} {edges : List Edge}

/-- The provider nodes among some nodes were bound in order. -/
inductive Binds (g : Graph) : List NodeId → Draft → List Go.Binding → Draft → Prop where
  | nil {draft : Draft} : Binds g [] draft [] draft
  | provider {node : NodeId} {nodes : List NodeId} {draft mid draft' : Draft} {made : Go.Binding}
      {more : List Go.Binding} {t : TypeRef} {p : Provider} {edges : List Edge}
      (hnode : g.nodes[node]? = some (.provider t p edges))
      (hfirst : draft.Writes g node t p (g.children node) made mid)
      (hrest : Binds g nodes mid more draft') : Binds g (node :: nodes) draft (made :: more) draft'
  | other {node : NodeId} {nodes : List NodeId} {draft draft' : Draft} {body : List Go.Binding}
      (hnode : ∀ t p edges, g.nodes[node]? ≠ some (.provider t p edges))
      (hrest : Binds g nodes draft body draft') : Binds g (node :: nodes) draft body draft'

theorem bindings_of_provider (hnode : g.nodes[node]? = some (.provider t p edges)) :
    bindings g (node :: nodes) draft = (do
      let (made, draft) ← draft.binding g node t p (g.children node)
      let (more, draft) ← bindings g nodes draft
      .ok (made :: more, draft)) := by
  rw [bindings, hnode]

theorem bindings_of_other (hnode : ∀ t p edges, g.nodes[node]? ≠ some (.provider t p edges)) :
    bindings g (node :: nodes) draft = bindings g nodes draft := by
  rw [bindings]
  split
  · exact absurd ‹_› (hnode _ _ _)
  · rfl

theorem binds_of_ok (h : bindings g nodes draft = .ok (body, draft')) :
    Binds g nodes draft body draft' := by
  induction nodes generalizing draft body with
  | nil =>
      cases h
      exact .nil
  | cons node nodes ih =>
      by_cases hprovider : ∃ t p edges, g.nodes[node]? = some (.provider t p edges)
      · obtain ⟨t, p, edges, hnode⟩ := hprovider
        rw [bindings_of_provider hnode] at h
        obtain ⟨⟨made, mid⟩, hfirst, h⟩ := Except.bind_eq_ok_iff.mp h
        obtain ⟨⟨more, last⟩, hrest, h⟩ := Except.bind_eq_ok_iff.mp h
        cases h
        exact .provider hnode (writes_of_binding hfirst) (ih hrest)
      · have hnode : ∀ t p edges, g.nodes[node]? ≠ some (.provider t p edges) :=
          fun t p edges heq => hprovider ⟨t, p, edges, heq⟩
        rw [bindings_of_other hnode] at h
        exact .other hnode (ih h)

/-- What is known after some nodes were bound: the providers among them, and what was known. -/
theorem Binds.knows_iff (h : Binds g nodes draft body draft') :
    draft'.Knows id ↔
      draft.Knows id ∨ id ∈ nodes ∧ ∃ t p edges, g.nodes[id]? = some (.provider t p edges) := by
  induction h with
  | nil => simp
  | @provider node nodes draft mid draft' made more t p edges hnode hfirst _ ih =>
      rw [ih, hfirst.gives.knows_iff, List.mem_cons]
      constructor
      · rintro ((rfl | hold) | ⟨hmem, hprovider⟩)
        · exact Or.inr ⟨Or.inl rfl, t, p, edges, hnode⟩
        · exact Or.inl hold
        · exact Or.inr ⟨Or.inr hmem, hprovider⟩
      · rintro (hold | ⟨rfl | hmem, hprovider⟩)
        · exact Or.inl (Or.inr hold)
        · exact Or.inl (Or.inl rfl)
        · exact Or.inr ⟨hmem, hprovider⟩
  | @other node nodes draft draft' body hnode _ ih =>
      rw [ih, List.mem_cons]
      refine or_congr_right (and_congr_left fun hprovider => ?_)
      refine (or_iff_right ?_).symm
      rintro rfl
      obtain ⟨t, p, edges, heq⟩ := hprovider
      exact hnode t p edges heq

/-- Where a node was bound, the nodes before it were bound first and the others after. -/
theorem Binds.split {before after : List Go.Binding} {one : Go.Binding}
    (h : Binds g nodes draft (before ++ one :: after) draft') :
    ∃ front t p edges back mid next, g.nodes[one.node]? = some (.provider t p edges) ∧
      Binds g front draft before mid ∧ mid.Writes g one.node t p (g.children one.node) one next ∧
      Binds g back next after draft' := by
  induction nodes generalizing before draft with
  | nil => cases before <;> cases h
  | cons node nodes ih =>
      generalize hbody : before ++ one :: after = body at h
      cases h with
      | other hnode hrest =>
          rw [← hbody] at hrest
          obtain ⟨front, t, p, edges, back, mid, next, hone, hbefore, hwrites, hafter⟩ := ih hrest
          exact ⟨node :: front, t, p, edges, back, mid, next, hone, .other hnode hbefore, hwrites,
            hafter⟩
      | provider hnode hfirst hrest =>
          cases before with
          | nil =>
              cases hbody
              obtain rfl := hfirst.node
              exact ⟨[], _, _, _, _, _, _, hnode, .nil, hfirst, hrest⟩
          | cons made before =>
              cases hbody
              obtain ⟨front, t, p, edges, back, mid, next, hone, hbefore, hwrites, hafter⟩ :=
                ih hrest
              exact ⟨node :: front, t, p, edges, back, mid, next, hone,
                .provider hnode hfirst hbefore, hwrites, hafter⟩

end Bodies

section Functions

variable {catalog : Catalog} {g : Graph} {draft draft' : Draft} {f : Go.Function}

/-- How a function is written from one draft to another, in five steps. -/
structure Written (catalog : Catalog) (g : Graph) (draft : Draft) (f : Go.Function)
    (signed typed zeroed draft' : Draft) : Prop where
  name : f.name = g.name
  params : Each (fun node draft made draft' => param catalog g node draft = .ok (made, draft'))
    g.params draft f.params signed
  results : Each (fun output draft made draft' =>
    resultType catalog output draft = .ok (made, draft')) g.outputs signed f.results typed
  skipped : Each (fun output draft made draft' =>
    Draft.skipped catalog output draft = .ok (made, draft')) g.outputs typed f.skipped zeroed
  body : Binds g g.order zeroed f.body draft'
  returned : g.outputs.mapM (draft'.returned g) = .ok f.returned

theorem exists_written (h : function catalog g draft = .ok (f, draft')) :
    ∃ signed typed zeroed, Written catalog g draft f signed typed zeroed draft' := by
  unfold function at h
  obtain ⟨⟨params, signed⟩, hparams, h⟩ := Except.bind_eq_ok_iff.mp h
  obtain ⟨⟨results, typed⟩, hresults, h⟩ := Except.bind_eq_ok_iff.mp h
  obtain ⟨⟨skipped, zeroed⟩, hskipped, h⟩ := Except.bind_eq_ok_iff.mp h
  obtain ⟨⟨body, last⟩, hbody, h⟩ := Except.bind_eq_ok_iff.mp h
  obtain ⟨returned, hreturned, h⟩ := Except.bind_eq_ok_iff.mp h
  cases h
  exact ⟨signed, typed, zeroed, rfl, each_of_ok hparams, each_of_ok hresults, each_of_ok hskipped,
    binds_of_ok hbody, hreturned⟩

theorem Written.keeps {signed typed zeroed : Draft}
    (h : Written catalog g draft f signed typed zeroed draft') : signed.Keeps zeroed :=
  (keeps_of_resultTypes h.results).trans (keeps_of_skips h.skipped)

end Functions

end Wiring.Draft
