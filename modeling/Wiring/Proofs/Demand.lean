import Mathlib.Logic.Relation
import Wiring.Proofs.Aliases
import Wiring.Proofs.Providers
import Wiring.Resolution.State

/-!
What a request asks for, without regard to how it is resolved. A requested type needs the inputs of
the provider that it comes to, unless a parameter supplies it. A type is resolvable when everything
that it needs is, all the way down; a resolvable type never comes to need itself.
-/

namespace Wiring.Scope

variable {scope : Scope} {r r' t u : TypeRef}

theorem external?_eq_none_iff : scope.external? t = none ↔ ∀ u ∈ scope.params, u.base ≠ t.base := by
  rw [external?, Option.or_eq_none_iff, List.findIdx?_eq_none_iff, List.findIdx?_eq_none_iff]
  constructor
  · rintro ⟨-, hbase⟩ u hu heq
    have hsame := TypeRef.sameBase_iff.mpr heq.symm
    simp [hbase u hu] at hsame
  · intro hnone
    refine ⟨fun u hu => ?_, fun u hu => ?_⟩
    · rw [beq_eq_false_iff_ne]
      rintro rfl
      exact hnone u hu rfl
    · rw [Bool.eq_false_iff]
      intro hsame
      exact hnone u hu (TypeRef.sameBase_iff.mp hsame).symm

/-- The parameter to choose for a type: the one of exactly this type, and if there is none the first
one of its base. -/
def Chosen (scope : Scope) (t : TypeRef) (id : NodeId) : Prop :=
  scope.params[id]? = some t ∨
    t ∉ scope.params ∧ ∃ u, scope.params[id]? = some u ∧ u.base = t.base ∧
      ∀ j v, j < id → scope.params[j]? = some v → v.base ≠ t.base

theorem chosen_of_external {id : NodeId} (h : scope.external? t = some id) :
    scope.Chosen t id := by
  rcases Option.or_eq_some_iff.mp h with hexact | ⟨hnone, hbase⟩
  · obtain ⟨hlt, heq, -⟩ := List.findIdx?_eq_some_iff_getElem.mp hexact
    exact Or.inl (List.getElem?_eq_some_iff.mpr ⟨hlt, beq_iff_eq.mp heq⟩)
  · obtain ⟨hlt, hsame, hfirst⟩ := List.findIdx?_eq_some_iff_getElem.mp hbase
    refine Or.inr ⟨?_, scope.params[id], by simp [hlt], (TypeRef.sameBase_iff.mp hsame).symm, ?_⟩
    · intro hmem
      simpa using List.findIdx?_eq_none_iff.mp hnone t hmem
    · intro j v hj hv heq
      obtain ⟨hjlt, rfl⟩ := List.getElem?_eq_some_iff.mp hv
      exact hfirst j hj (TypeRef.sameBase_iff.mpr heq.symm)

/-- A parameter that is to be chosen is the only one, as long as no two parameters are equal. -/
theorem Chosen.unique {i j : NodeId} (hnodup : scope.params.Nodup) (hi : scope.Chosen t i)
    (hj : scope.Chosen t j) : i = j := by
  rcases hi with hi | ⟨hnot, u, hu, hubase, hufirst⟩
  · rcases hj with hj | ⟨hnot, -⟩
    · have hlt := (List.getElem?_eq_some_iff.mp hi).1
      exact (List.getElem?_inj hlt hnodup).mp (hi.trans hj.symm)
    · exact absurd (List.mem_of_getElem? hi) hnot
  · rcases hj with hj | ⟨-, v, hv, hvbase, hvfirst⟩
    · exact absurd (List.mem_of_getElem? hj) hnot
    · rcases Nat.lt_trichotomy i j with hlt | heq | hgt
      · exact absurd hubase (hvfirst i u hlt hu)
      · exact heq
      · exact absurd hvbase (hufirst j v hgt hv)

/-- A type is supplied by the parameter to choose for it. -/
theorem external?_eq_some_iff (scope : Scope) {id : NodeId} (hnodup : scope.params.Nodup) :
    scope.external? t = some id ↔ scope.Chosen t id := by
  constructor
  · exact chosen_of_external
  · intro hchosen
    cases hext : scope.external? t with
    | some j => rw [(chosen_of_external hext).unique hnodup hchosen]
    | none =>
        have hnone := external?_eq_none_iff.mp hext
        rcases hchosen with hid | ⟨-, u, hu, hbase, -⟩
        · exact absurd rfl (hnone t (List.mem_of_getElem? hid))
        · exact absurd hbase (hnone u (List.mem_of_getElem? hu))

/-- The parameter that supplies a type has its base. -/
theorem exists_param_of_external {id : NodeId} (h : scope.external? t = some id) :
    ∃ u, scope.params[id]? = some u ∧ u.base = t.base := by
  rcases chosen_of_external h with hexact | ⟨-, u, hu, hbase, -⟩
  · exact ⟨t, hexact, rfl⟩
  · exact ⟨u, hu, hbase⟩

/-- Whether a parameter supplies a type does not depend on the pointer. -/
theorem external?_none_congr (h : t.base = u.base) :
    scope.external? t = none ↔ scope.external? u = none := by
  rw [external?_eq_none_iff, external?_eq_none_iff, h]

/-- A requested type needs what its provider takes. -/
def Needs (scope : Scope) (r r' : TypeRef) : Prop :=
  ∃ t p, scope.aliases.resolve r = .ok t ∧ scope.external? t = none ∧
    scope.registry.find t = .ok p ∧ ∃ input ∈ p.inputs, input.type = r'

/-- A requested type asks for another one, directly, through what it needs, or by being it. -/
def Asks (scope : Scope) : TypeRef → TypeRef → Prop :=
  Relation.ReflTransGen scope.Needs

/-- A requested type can be supplied: its substitute is known, and either some parameter has its
base type or its provider takes resolvable types only. -/
inductive Resolvable (scope : Scope) : TypeRef → Prop where
  | param {r t u : TypeRef} (halias : scope.aliases.resolve r = .ok t) (hparam : u ∈ scope.params)
      (hbase : u.base = t.base) : Resolvable scope r
  | provider {r t : TypeRef} {p : Provider} (halias : scope.aliases.resolve r = .ok t)
      (hfind : scope.registry.find t = .ok p)
      (hinputs : ∀ input ∈ p.inputs, Resolvable scope input.type) : Resolvable scope r

theorem Resolvable.needs (h : scope.Resolvable r) (hneeds : scope.Needs r r') :
    scope.Resolvable r' := by
  obtain ⟨t, p, halias, hext, hfind, input, hmem, rfl⟩ := hneeds
  cases h with
  | @param _ t' u halias' hparam hbase =>
      rw [halias] at halias'
      cases halias'
      exact absurd hbase (external?_eq_none_iff.mp hext u hparam)
  | provider halias' hfind' hinputs =>
      rw [halias] at halias'
      cases halias'
      rw [hfind] at hfind'
      cases hfind'
      exact hinputs input hmem

theorem Resolvable.asks (h : scope.Resolvable r) (hasks : scope.Asks r r') :
    scope.Resolvable r' := by
  induction hasks with
  | refl => exact h
  | tail _ hneeds ih => exact ih.needs hneeds

/-- A resolvable type does not need itself, directly or through what it needs. -/
theorem Resolvable.not_needs_self (h : scope.Resolvable r) :
    ¬ Relation.TransGen scope.Needs r r := by
  induction h with
  | @param r t u halias hparam hbase =>
      intro hloop
      obtain ⟨r', ⟨t', p, halias', hext, -⟩, -⟩ := Relation.TransGen.head'_iff.mp hloop
      rw [halias] at halias'
      cases halias'
      exact external?_eq_none_iff.mp hext u hparam hbase
  | @provider r t p halias hfind hinputs ih =>
      intro hloop
      obtain ⟨r', hneeds, hback⟩ := Relation.TransGen.head'_iff.mp hloop
      have hagain : Relation.TransGen scope.Needs r' r' := Relation.TransGen.tail' hback hneeds
      obtain ⟨t', p', halias', -, hfind', input, hmem, rfl⟩ := hneeds
      rw [halias] at halias'
      cases halias'
      rw [hfind] at hfind'
      cases hfind'
      exact ih input hmem hagain

/-- Requests that come to types of one base need the same. -/
theorem Needs.congr {r₁ r₂ t₁ t₂ : TypeRef} (h : scope.Needs r₁ r')
    (h₁ : scope.aliases.resolve r₁ = .ok t₁) (h₂ : scope.aliases.resolve r₂ = .ok t₂)
    (hbase : t₁.base = t₂.base) : scope.Needs r₂ r' := by
  obtain ⟨t, p, halias, hext, hfind, input, hmem, rfl⟩ := h
  rw [h₁] at halias
  cases halias
  obtain ⟨q, hq, hpq⟩ := Registry.find_ok_congr hbase hfind
  refine ⟨t₂, q, h₂, (external?_none_congr hbase).mp hext, hq, input, ?_, rfl⟩
  rwa [Provider.inputs_of_erased hpq]

/-- Nothing that a request asks for comes to a type whose base is on the path. -/
def Clear (scope : Scope) (path : List TypeRef) (r : TypeRef) : Prop :=
  ∀ r' t, scope.Asks r r' → scope.aliases.resolve r' = .ok t → scope.external? t = none →
    t.base ∉ path.map TypeRef.base

/-- Each type on the path came to need the requested one. -/
def Leading (scope : Scope) (path : List TypeRef) (r : TypeRef) : Prop :=
  ∀ u ∈ path, scope.aliases.resolve u = .ok u ∧ Relation.TransGen scope.Needs u r

theorem leading_nil (r : TypeRef) : scope.Leading [] r := by
  intro u hu
  cases hu

theorem clear_nil (r : TypeRef) : scope.Clear [] r := by
  intro r' t _ _ _ hmem
  cases hmem

/-- The path of a request leads to what the request needs when it is extended by its type. -/
theorem Leading.append {path : List TypeRef} {p : Provider} {input : Input}
    (hlead : scope.Leading path r) (halias : scope.aliases.resolve r = .ok t)
    (hext : scope.external? t = none) (hfind : scope.registry.find t = .ok p)
    (hmem : input ∈ p.inputs) : scope.Leading (path ++ [t]) input.type := by
  intro u hu
  rcases List.mem_append.mp hu with hold | hnew
  · obtain ⟨hfixed, hreach⟩ := hlead u hold
    exact ⟨hfixed, hreach.tail ⟨t, p, halias, hext, hfind, input, hmem, rfl⟩⟩
  · cases List.mem_singleton.mp hnew
    have hfixed := Aliases.resolve_resolve halias
    exact ⟨hfixed, .single ⟨t, p, hfixed, hext, hfind, input, hmem, rfl⟩⟩

/-- A path that leads to a resolvable type is not met again below it: the type met would need
itself. -/
theorem Leading.clear {path : List TypeRef} (hlead : scope.Leading path r)
    (hres : scope.Resolvable r) : scope.Clear path r := by
  intro r' t hasks halias hext hmem
  obtain ⟨u, hu, hbase⟩ := List.mem_map.mp hmem
  obtain ⟨hfixed, hreach⟩ := hlead u hu
  obtain ⟨x, hneeds, hback⟩ := Relation.TransGen.head'_iff.mp hreach
  have hloop : scope.Needs r' x := hneeds.congr hfixed halias hbase
  exact (hres.asks hasks).not_needs_self (.head' hloop (hback.trans hasks))

/-- What a request needs is clear of the path when it is extended by the type of the request. -/
theorem Clear.append {path : List TypeRef} {p : Provider} {input : Input}
    (hclear : scope.Clear path r) (hres : scope.Resolvable r)
    (halias : scope.aliases.resolve r = .ok t) (hext : scope.external? t = none)
    (hfind : scope.registry.find t = .ok p) (hmem : input ∈ p.inputs) :
    scope.Clear (path ++ [t]) input.type := by
  have hneeds : scope.Needs r input.type := ⟨t, p, halias, hext, hfind, input, hmem, rfl⟩
  intro r' t' hasks halias' hext' hpath
  rw [List.map_append, List.mem_append] at hpath
  rcases hpath with hold | hnew
  · exact hclear r' t' (.head hneeds hasks) halias' hext' hold
  · have hbase : t.base = t'.base := (List.mem_singleton.mp hnew).symm
    have hloop : scope.Needs r' input.type := hneeds.congr halias halias' hbase
    exact ((hres.needs hneeds).asks hasks).not_needs_self (.head' hloop hasks)

/-- A parameter supplies something that a request asks for. -/
def Feeds (scope : Scope) (id : NodeId) (r : TypeRef) : Prop :=
  ∃ r' t, scope.Asks r r' ∧ scope.aliases.resolve r' = .ok t ∧ scope.external? t = some id

/-- Something that a request asks for is built by a provider that can fail. -/
def Fails (scope : Scope) (r : TypeRef) : Prop :=
  ∃ r' t p, scope.Asks r r' ∧ scope.aliases.resolve r' = .ok t ∧ scope.external? t = none ∧
    scope.registry.find t = .ok p ∧ p.fallible = true

/-- What a parameter supplies needs nothing. -/
theorem not_needs_of_external {id : NodeId} (halias : scope.aliases.resolve r = .ok t)
    (hext : scope.external? t = some id) : ¬ scope.Needs r r' := by
  rintro ⟨t', p, halias', hnone, -⟩
  rw [halias] at halias'
  cases halias'
  rw [hext] at hnone
  cases hnone

theorem asks_iff_of_external {id : NodeId} (halias : scope.aliases.resolve r = .ok t)
    (hext : scope.external? t = some id) : scope.Asks r r' ↔ r' = r := by
  constructor
  · intro hasks
    rcases Relation.ReflTransGen.cases_head hasks with rfl | ⟨x, hneeds, -⟩
    · rfl
    · exact absurd hneeds (not_needs_of_external halias hext)
  · rintro rfl
    exact .refl

/-- A request that is built asks for itself and for what the inputs of its provider ask for. -/
theorem asks_iff_of_provider {p : Provider} (halias : scope.aliases.resolve r = .ok t)
    (hext : scope.external? t = none) (hfind : scope.registry.find t = .ok p) :
    scope.Asks r r' ↔ r' = r ∨ ∃ input ∈ p.inputs, scope.Asks input.type r' := by
  constructor
  · intro hasks
    rcases Relation.ReflTransGen.cases_head hasks with rfl | ⟨x, hneeds, hrest⟩
    · exact Or.inl rfl
    · obtain ⟨t', p', halias', -, hfind', input, hmem, rfl⟩ := hneeds
      rw [halias] at halias'
      cases halias'
      rw [hfind] at hfind'
      cases hfind'
      exact Or.inr ⟨input, hmem, hrest⟩
  · rintro (rfl | ⟨input, hmem, hasks⟩)
    · exact .refl
    · exact .head ⟨t, p, halias, hext, hfind, input, hmem, rfl⟩ hasks

theorem feeds_iff_of_external {id i : NodeId} (halias : scope.aliases.resolve r = .ok t)
    (hext : scope.external? t = some id) : scope.Feeds i r ↔ i = id := by
  constructor
  · rintro ⟨r', t', hasks, halias', hext'⟩
    rw [(asks_iff_of_external halias hext).mp hasks, halias] at halias'
    cases halias'
    rw [hext] at hext'
    cases hext'
    rfl
  · rintro rfl
    exact ⟨r, t, .refl, halias, hext⟩

theorem feeds_iff_of_provider {p : Provider} {i : NodeId}
    (halias : scope.aliases.resolve r = .ok t) (hext : scope.external? t = none)
    (hfind : scope.registry.find t = .ok p) :
    scope.Feeds i r ↔ ∃ input ∈ p.inputs, scope.Feeds i input.type := by
  constructor
  · rintro ⟨r', t', hasks, halias', hext'⟩
    rcases (asks_iff_of_provider halias hext hfind).mp hasks with rfl | ⟨input, hmem, hbelow⟩
    · rw [halias] at halias'
      cases halias'
      rw [hext] at hext'
      cases hext'
    · exact ⟨input, hmem, r', t', hbelow, halias', hext'⟩
  · rintro ⟨input, hmem, r', t', hasks, halias', hext'⟩
    have habove := (asks_iff_of_provider halias hext hfind).mpr (Or.inr ⟨input, hmem, hasks⟩)
    exact ⟨r', t', habove, halias', hext'⟩

theorem not_fails_of_external {id : NodeId} (halias : scope.aliases.resolve r = .ok t)
    (hext : scope.external? t = some id) : ¬ scope.Fails r := by
  rintro ⟨r', t', p, hasks, halias', hext', -⟩
  rw [(asks_iff_of_external halias hext).mp hasks, halias] at halias'
  cases halias'
  rw [hext] at hext'
  cases hext'

theorem fails_iff_of_provider {p : Provider} (halias : scope.aliases.resolve r = .ok t)
    (hext : scope.external? t = none) (hfind : scope.registry.find t = .ok p) :
    scope.Fails r ↔ p.fallible = true ∨ ∃ input ∈ p.inputs, scope.Fails input.type := by
  constructor
  · rintro ⟨r', t', p', hasks, halias', hext', hfind', hfallible⟩
    rcases (asks_iff_of_provider halias hext hfind).mp hasks with rfl | ⟨input, hmem, hbelow⟩
    · rw [halias] at halias'
      cases halias'
      rw [hfind] at hfind'
      cases hfind'
      exact Or.inl hfallible
    · exact Or.inr ⟨input, hmem, r', t', p', hbelow, halias', hext', hfind', hfallible⟩
  · rintro (hfallible | ⟨input, hmem, r', t', p', hasks, halias', hext', hfind', hfallible⟩)
    · exact ⟨r, t, p, .refl, halias, hext, hfind, hfallible⟩
    · have habove := (asks_iff_of_provider halias hext hfind).mpr (Or.inr ⟨input, hmem, hasks⟩)
      exact ⟨r', t', p', habove, halias', hext', hfind', hfallible⟩

/-- Requests of one base that are built use the same parameters and can fail alike. -/
theorem feeds_congr {r₁ r₂ t₁ t₂ : TypeRef} {p : Provider} {i : NodeId}
    (h₁ : scope.aliases.resolve r₁ = .ok t₁) (h₂ : scope.aliases.resolve r₂ = .ok t₂)
    (hbase : t₁.base = t₂.base) (hext : scope.external? t₁ = none)
    (hfind : scope.registry.find t₁ = .ok p) : scope.Feeds i r₁ ↔ scope.Feeds i r₂ := by
  obtain ⟨q, hq, herased⟩ := Registry.find_ok_congr hbase hfind
  rw [feeds_iff_of_provider h₁ hext hfind,
    feeds_iff_of_provider h₂ ((external?_none_congr hbase).mp hext) hq,
    Provider.inputs_of_erased herased]

theorem fails_congr {r₁ r₂ t₁ t₂ : TypeRef} {p : Provider}
    (h₁ : scope.aliases.resolve r₁ = .ok t₁) (h₂ : scope.aliases.resolve r₂ = .ok t₂)
    (hbase : t₁.base = t₂.base) (hext : scope.external? t₁ = none)
    (hfind : scope.registry.find t₁ = .ok p) : scope.Fails r₁ ↔ scope.Fails r₂ := by
  obtain ⟨q, hq, herased⟩ := Registry.find_ok_congr hbase hfind
  rw [fails_iff_of_provider h₁ hext hfind,
    fails_iff_of_provider h₂ ((external?_none_congr hbase).mp hext) hq,
    Provider.inputs_of_erased herased, Provider.fallible_of_erased herased]

end Wiring.Scope
