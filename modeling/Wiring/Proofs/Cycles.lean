import Mathlib.Data.List.Chain
import Wiring.Proofs.Rejection
import Wiring.Proofs.Structure
import Wiring.Proofs.Success

/-!
A cycle that is reported is there, and a cycle that is there is not overlooked. Types are linked
when one is the substitute of what the provider of the other one takes; where a parameter supplies a
type, nothing is linked to it.
-/

namespace Wiring

open Resolution

namespace Scope

/-- The provider of a type, which no parameter supplies, takes something that comes to another
type. -/
def Takes (scope : Scope) (t u : TypeRef) : Prop :=
  (∀ param ∈ scope.params, param.base ≠ t.base) ∧ ∃ p, scope.registry.find t = .ok p ∧
    ∃ input ∈ p.inputs, scope.aliases.resolve input.type = .ok u

/-- What is requested comes to a type that takes another one, at once or step by step. -/
def LeadsTo (scope : Scope) (r u : TypeRef) : Prop :=
  ∃ t, scope.aliases.resolve r = .ok t ∧ Relation.ReflTransGen scope.Takes t u

/-- Each type takes the next one, and the last one is the first one, up to the pointer. -/
structure IsCycle (scope : Scope) (cycle : List TypeRef) : Prop where
  length : 2 ≤ cycle.length
  closes : cycle.getLast?.map TypeRef.base = cycle.head?.map TypeRef.base
  distinct : (cycle.dropLast.map TypeRef.base).Nodup
  takes : cycle.IsChain scope.Takes
  unsupplied : ∀ t ∈ cycle, ∀ param ∈ scope.params, param.base ≠ t.base

variable {scope : Scope} {path : List TypeRef} {r r' t u v : TypeRef}

/-- The types on a path and the one they lead to: each takes the next one, and the requested type
leads to them all. -/
structure Trail (scope : Scope) (r : TypeRef) (path : List TypeRef) (t : TypeRef) : Prop where
  takes : (path ++ [t]).IsChain scope.Takes
  distinct : (path.map TypeRef.base).Nodup
  unsupplied : ∀ u ∈ path, scope.external? u = none
  reached : ∀ u ∈ path ++ [t], scope.LeadsTo r u

theorem trail_nil (halias : scope.aliases.resolve r = .ok t) : scope.Trail r [] t where
  takes := .singleton t
  distinct := List.nodup_nil
  unsupplied := by simp
  reached := by
    intro u hu
    cases List.mem_singleton.mp hu
    exact ⟨t, halias, .refl⟩

/-- A trail is continued with what the provider of its last type takes. -/
theorem Trail.append {p : Provider} {input : Input} (h : scope.Trail r path t)
    (hext : scope.external? t = none) (hpath : t.base ∉ path.map TypeRef.base)
    (hfind : scope.registry.find t = .ok p) (hmem : input ∈ p.inputs)
    (halias : scope.aliases.resolve input.type = .ok u) : scope.Trail r (path ++ [t]) u := by
  have htakes : scope.Takes t u := ⟨external?_eq_none_iff.mp hext, p, hfind, input, hmem, halias⟩
  refine
    { takes := ?_
      distinct := ?_
      unsupplied := ?_
      reached := ?_ }
  · apply h.takes.append (.singleton u)
    simpa using htakes
  · rw [List.map_append, List.nodup_append]
    refine ⟨h.distinct, by simp, ?_⟩
    intro b hb c hc
    cases List.mem_singleton.mp hc
    rintro rfl
    exact hpath hb
  · intro v hv
    rcases List.mem_append.mp hv with hold | hnew
    · exact h.unsupplied v hold
    · cases List.mem_singleton.mp hnew
      exact hext
  · intro v hv
    rcases List.mem_append.mp hv with hold | hnew
    · exact h.reached v hold
    · cases List.mem_singleton.mp hnew
      obtain ⟨first, hfirst, hleads⟩ := h.reached t (by simp)
      exact ⟨first, hfirst, hleads.tail htakes⟩

/-- An expansion that fails with a cycle has come along a trail to a type of the trail. -/
theorem exists_trail_of_expand {path cycle : List TypeRef} {root r : TypeRef}
    (htrail : ∀ t, scope.aliases.resolve r = .ok t → scope.Trail root path t)
    (h : scope.expand path r = .error (.cycle cycle)) :
    ∃ path t, scope.Trail root path t ∧ scope.external? t = none ∧
      t.base ∈ path.map TypeRef.base ∧ cycle = cycleOf path t := by
  cases halias : scope.aliases.resolve r with
  | error loop => simp [expand_of_aliasCycle halias] at h
  | ok t =>
      cases hext : scope.external? t with
      | some id => simp [expand_of_external halias hext] at h
      | none =>
          by_cases hpath : t.base ∈ path.map TypeRef.base
          · rw [expand_of_mem_path halias hext hpath] at h
            cases h
            exact ⟨path, t, htrail t halias, hext, hpath, rfl⟩
          cases hfind : scope.registry.find t with
          | error cause => simp [expand_of_lookup halias hext hpath hfind] at h
          | ok p =>
              have hless := Registry.unopened_append_lt hfind hpath
              rw [expand_of_provider halias hext hpath hfind, Except.bind_eq_error_iff] at h
              rcases h with hinputs | ⟨trees, -, hdone⟩
              · obtain ⟨input, hmem, herror⟩ := exists_input_of_expandInputs hinputs
                apply exists_trail_of_expand _ herror
                intro u hu
                exact (htrail t halias).append hext hpath hfind hmem hu
              · cases hdone
termination_by scope.registry.unopened path

/-- The cycle that a type closes starts where the path first has its base. -/
theorem exists_cycleOf (h : t.base ∈ path.map TypeRef.base) : ∃ before first rest,
    path = before ++ first :: rest ∧ first.base = t.base ∧
      cycleOf path t = first :: rest ++ [t] := by
  cases hindex : path.findIdx? t.sameBase with
  | none =>
      obtain ⟨u, hu, hbase⟩ := List.mem_map.mp h
      have hnot := List.findIdx?_eq_none_iff.mp hindex u hu
      rw [TypeRef.sameBase_iff.mpr hbase.symm] at hnot
      cases hnot
  | some index =>
      obtain ⟨hlt, hsame, -⟩ := List.findIdx?_eq_some_iff_getElem.mp hindex
      refine ⟨path.take index, path[index], path.drop (index + 1), ?_, ?_, ?_⟩
      · rw [← List.drop_eq_getElem_cons hlt, List.take_append_drop]
      · exact (TypeRef.sameBase_iff.mp hsame).symm
      · rw [cycleOf, hindex, Option.getD_some, List.drop_eq_getElem_cons hlt]

/-- Where a trail meets itself, there is a cycle. -/
theorem Trail.isCycle (h : scope.Trail r path t) (hext : scope.external? t = none)
    (hpath : t.base ∈ path.map TypeRef.base) : scope.IsCycle (cycleOf path t) := by
  obtain ⟨before, first, rest, rfl, hbase, hcycle⟩ := exists_cycleOf hpath
  rw [hcycle]
  refine
    { length := by simp
      closes := ?_
      distinct := ?_
      takes := ?_
      unsupplied := ?_ }
  · rw [List.getLast?_concat]
    exact congrArg some hbase.symm
  · rw [List.dropLast_concat]
    apply List.Nodup.sublist _ h.distinct
    apply List.Sublist.map
    exact List.sublist_append_right before _
  · apply h.takes.suffix
    rw [List.append_assoc]
    exact List.suffix_append before _
  · intro u hu
    rcases List.mem_append.mp hu with hold | hnew
    · exact external?_eq_none_iff.mp (h.unsupplied u (List.mem_append_right _ hold))
    · cases List.mem_singleton.mp hnew
      exact external?_eq_none_iff.mp hext

/-- What a type takes is what some type that it needs comes to. -/
theorem Takes.exists_needs (h : scope.Takes t u) (halias : scope.aliases.resolve r = .ok t) :
    ∃ needed, scope.Needs r needed ∧ scope.aliases.resolve needed = .ok u := by
  obtain ⟨hparams, p, hfind, input, hmem, hcomes⟩ := h
  have hext := external?_eq_none_iff.mpr hparams
  exact ⟨input.type, ⟨t, p, halias, hext, hfind, input, hmem, rfl⟩, hcomes⟩

theorem LeadsTo.exists_asks (h : scope.LeadsTo r u) :
    ∃ needed, scope.Asks r needed ∧ scope.aliases.resolve needed = .ok u := by
  obtain ⟨t, halias, hleads⟩ := h
  induction hleads with
  | refl => exact ⟨r, .refl, halias⟩
  | tail _ htakes ih =>
      obtain ⟨mid, hasks, hmid⟩ := ih
      obtain ⟨needed, hneeds, hcomes⟩ := htakes.exists_needs hmid
      exact ⟨needed, hasks.tail hneeds, hcomes⟩

/-- A resolvable type leads to no type that takes one of its own base, at once or step by step: what
comes to the last type would need itself. -/
theorem Resolvable.not_takes_base (hres : scope.Resolvable r) (hleads : scope.LeadsTo r u)
    (htakes : Relation.TransGen scope.Takes u v) : v.base ≠ u.base := by
  intro hbase
  obtain ⟨start, hasks, hstart⟩ := hleads.exists_asks
  have hloop : ∃ last, Relation.TransGen scope.Needs start last ∧
      scope.aliases.resolve last = .ok v := by
    clear hbase
    induction htakes with
    | single hone =>
        obtain ⟨last, hneeds, hlast⟩ := hone.exists_needs hstart
        exact ⟨last, .single hneeds, hlast⟩
    | tail _ hone ih =>
        obtain ⟨mid, hmore, hmid⟩ := ih
        obtain ⟨last, hneeds, hlast⟩ := hone.exists_needs hmid
        exact ⟨last, hmore.tail hneeds, hlast⟩
  obtain ⟨last, hneeds, hlast⟩ := hloop
  obtain ⟨first, hfirst, hrest⟩ := Relation.TransGen.head'_iff.mp hneeds
  have hagain : scope.Needs last first := hfirst.congr hstart hlast hbase.symm
  have hasksLast : scope.Asks r last := hasks.trans hneeds.to_reflTransGen
  exact (hres.asks hasksLast).not_needs_self (.head' hagain hrest)

end Scope

namespace Registry

/-- Only the expansion of a result can come to a cycle. -/
theorem exists_expand_of_cycle {registry : Registry} {request : Request} {cycle : List TypeRef}
    (h : registry.load request = .error (.cycle cycle)) : ∃ r ∈ request.resultTypes,
      (registry.scope request).expand [] r = .error (.cycle cycle) := by
  cases rejects_of_load h with
  | search hr _ hexpand => exact ⟨_, hr, hexpand⟩

/-- A cycle that is reported is a cycle of types that take each other, and some result leads to it.
A request with a result that leads to any such cycle is not resolved. -/
theorem cycle_of_load (registry : Registry) (request : Request) :
    (∀ cycle, registry.load request = .error (.cycle cycle) →
      (registry.scope request).IsCycle cycle ∧ ∃ r ∈ request.resultTypes, ∃ first,
        cycle.head? = some first ∧ (registry.scope request).LeadsTo r first) ∧
    ∀ r ∈ request.resultTypes, ∀ t u, (registry.scope request).LeadsTo r t →
      Relation.TransGen (registry.scope request).Takes t u → u.base = t.base →
      ∀ g, registry.load request ≠ .ok g := by
  constructor
  · intro cycle hload
    obtain ⟨r, hr, hexpand⟩ := exists_expand_of_cycle hload
    obtain ⟨path, t, htrail, hext, hpath, rfl⟩ :=
      Scope.exists_trail_of_expand (fun t halias => Scope.trail_nil halias) hexpand
    refine ⟨htrail.isCycle hext hpath, r, hr, ?_⟩
    obtain ⟨before, first, rest, rfl, -, hcycle⟩ := Scope.exists_cycleOf hpath
    rw [hcycle]
    exact ⟨first, rfl, htrail.reached first (by simp)⟩
  · intro r hr t u hleads htakes hbase g hload
    have haccepts := (load_ok_iff registry request).mp ⟨g, hload⟩
    exact (haccepts.resolvable r hr).not_takes_base hleads htakes hbase

end Registry

namespace Sample

/-- A shop in which a cart and a store are built from pointers to each other. -/
def ring : Registry :=
  .ofList
    [{ importPath := "shop"
       name := none
       types :=
         [⟨"Store", .struct, [⟨"Cart", (type "Cart").withPointer true⟩]⟩,
          ⟨"Cart", .struct, [⟨"Store", (type "Store").withPointer true⟩]⟩,
          ⟨"Ledger", .struct, [⟨"Clock", type "Clock"⟩, ⟨"Cart", type "Cart"⟩]⟩]
       functions := [] }]

def ringCycle : List TypeRef :=
  [type "Cart", (type "Store").withPointer true, (type "Cart").withPointer true]

/-- A journal only, for which the ledger stands. -/
def journal : Request :=
  { request with results := [.type (type "Journal")] }

theorem load_ring : ring.load journal = .error (.cycle ringCycle) := by
  with_unfolding_all rfl

/-- The cycle leaves out the ledger, and its types keep their pointers. -/
theorem cycle_ring :
    ring.load journal = .error (.cycle ringCycle) ∧ (ring.scope journal).IsCycle ringCycle ∧
      ∀ g, ring.load journal ≠ .ok g := by
  obtain ⟨hreported, hmissed⟩ := Registry.cycle_of_load ring journal
  obtain ⟨hcycle, r, hr, first, hfirst, hleads⟩ := hreported ringCycle load_ring
  cases hfirst
  have htakes := hcycle.takes
  simp only [ringCycle, List.isChain_cons_cons] at htakes
  obtain ⟨hcart, hstore, -⟩ := htakes
  exact ⟨load_ring, hcycle, hmissed r hr _ _ hleads (.tail (.single hcart) hstore) rfl⟩

end Sample

end Wiring
