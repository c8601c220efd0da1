import Wiring.Provider

/-!
One search answers for a type and for the pointer to it: whether there is a provider, and which one,
depends on the import path and the name only. Just a composite literal produces the type with the
pointer that was asked for.
-/

namespace Wiring

namespace Provider

/-- A provider as a constructor: a composite literal can be written with and without a pointer, so
the pointer of what it produces does not count. -/
def erased (p : Provider) : Provider :=
  match p.kind with
  | .function => p
  | .struct => { p with result := p.result.base }

theorem erased_inputs (p : Provider) : p.erased.inputs = p.inputs := by
  unfold erased
  split <;> rfl

theorem erased_fallible (p : Provider) : p.erased.fallible = p.fallible := by
  unfold erased
  split <;> rfl

theorem erased_erased (p : Provider) : p.erased.erased = p.erased := by
  cases hkind : p.kind with
  | function => simp only [erased, hkind]
  | struct => simp only [erased, hkind, TypeRef.base, TypeRef.withPointer]

theorem inputs_of_erased {p q : Provider} (h : p.erased = q.erased) : p.inputs = q.inputs := by
  rw [← erased_inputs p, h, erased_inputs]

theorem fallible_of_erased {p q : Provider} (h : p.erased = q.erased) :
    p.fallible = q.fallible := by
  rw [← erased_fallible p, h, erased_fallible]

end Provider

namespace Package

/-- Two types of one base have the same constructors in a package. -/
theorem constructors_congr (package : Package) {t u : TypeRef} (h : t.base = u.base) :
    package.constructors t = package.constructors u := by
  have hsame : ∀ result : TypeRef, result.sameBase t = result.sameBase u := by
    intro result
    rw [Bool.eq_iff_iff, TypeRef.sameBase_iff, TypeRef.sameBase_iff, h]
  simp only [constructors, hsame]

theorem structDecl?_congr (package : Package) {t u : TypeRef} (h : t.base = u.base) :
    package.structDecl? t = package.structDecl? u := by
  have hname : t.name = u.name := (TypeRef.base_eq_iff.mp h).2
  simp only [structDecl?, hname]

/-- Up to the pointer of a composite literal, two types of one base have the same provider. -/
theorem provider_congr (package : Package) {t u : TypeRef} (h : t.base = u.base) :
    (package.provider t).map Provider.erased = (package.provider u).map Provider.erased := by
  unfold provider
  rw [constructors_congr package h, structDecl?_congr package h]
  split
  · split
    · rename_i decl _
      simp [Except.map, structProvider, Provider.erased, h]
    · rfl
  · rfl
  · rfl

/-- A provider produces the type that was asked for, up to the pointer. -/
theorem result_of_provider {package : Package} {t : TypeRef} {p : Provider}
    (h : package.provider t = .ok p) : p.result.base = t.base := by
  unfold provider at h
  split at h
  case h_1 =>
    split at h
    · cases h
      rfl
    · cases h
  case h_2 decl result fallible hone =>
    have hmem : (decl, result, fallible) ∈ package.constructors t := by simp [hone]
    obtain ⟨-, -, -, hbase⟩ := mem_constructors hmem
    cases h
    exact TypeRef.sameBase_iff.mp hbase
  case h_3 => cases h

end Package

namespace Registry

variable {registry : Registry} {t u : TypeRef}

/-- Up to the pointer of a composite literal, the search for a type and for the pointer to it have
the same answer. -/
theorem find_congr (registry : Registry) (h : t.base = u.base) :
    (registry.find t).map Provider.erased = (registry.find u).map Provider.erased := by
  have hpath : t.importPath = u.importPath := (TypeRef.base_eq_iff.mp h).1
  have hbuiltin : t.isBuiltin = u.isBuiltin := by simp only [TypeRef.isBuiltin, hpath]
  unfold find
  rw [hbuiltin, hpath]
  split
  · rfl
  · split
    · rfl
    · exact Package.provider_congr _ h

theorem find_ok_congr {p : Provider} (h : t.base = u.base) (hfind : registry.find t = .ok p) :
    ∃ q, registry.find u = .ok q ∧ q.erased = p.erased := by
  have hmap := find_congr registry h
  rw [hfind] at hmap
  cases hu : registry.find u with
  | error cause => simp [hu, Except.map] at hmap
  | ok q =>
      simp only [hu, Except.map, Except.ok.injEq] at hmap
      exact ⟨q, rfl, hmap.symm⟩

theorem result_of_find {p : Provider} (hfind : registry.find t = .ok p) :
    p.result.base = t.base := by
  unfold find at hfind
  split at hfind
  · cases hfind
  · split at hfind
    · cases hfind
    · exact Package.result_of_provider hfind

end Registry

end Wiring
