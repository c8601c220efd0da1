import Mathlib.Logic.Relation
import Wiring.Aliases

/-!
What the substitutions of a type lead to. A chain of substitutions either ends, at the type that is
supplied, or comes to a loop; following it looks at no type that it does not pass.
-/

namespace Wiring.Aliases

open Relation

/-- The end of a chain of substitutions has no substitute. -/
theorem get?_of_follow {aliases : Aliases} {passed : List TypeRef} {t u : TypeRef}
    {hnew : t ∉ passed} (h : aliases.follow passed t hnew = .ok u) : aliases.get? u = none := by
  fun_induction follow aliases passed t hnew with
  | case1 passed t hnew hget =>
      cases h
      exact hget
  | case2 passed t hnew next hget hseen => cases h
  | case3 passed t hnew next hget hseen hkey hless ih => exact ih h

theorem get?_of_resolve {aliases : Aliases} {t u : TypeRef} (h : aliases.resolve t = .ok u) :
    aliases.get? u = none :=
  get?_of_follow h

/-- A type without a substitute stands for itself. -/
theorem resolve_of_get? {aliases : Aliases} {t : TypeRef} (h : aliases.get? t = none) :
    aliases.resolve t = .ok t := by
  unfold resolve follow
  split
  · rfl
  · rename_i next hget
    rw [get?, hget] at h
    cases h

/-- Substitution is settled after one round. -/
theorem resolve_resolve {aliases : Aliases} {t u : TypeRef} (h : aliases.resolve t = .ok u) :
    aliases.resolve u = .ok u :=
  resolve_of_get? (get?_of_resolve h)

/-- A chain of substitutions leads from one type to another. -/
abbrev Leads (aliases : Aliases) : TypeRef → TypeRef → Prop :=
  ReflTransGen fun t u => aliases.get? t = some u

/-- Substitutions lead from a type back to itself. -/
abbrev Loops (aliases : Aliases) (t : TypeRef) : Prop :=
  TransGen (fun t u => aliases.get? t = some u) t t

section Chains

variable {aliases aliases' : Aliases} {t u v : TypeRef}

theorem leads_total (hu : aliases.Leads t u) (hv : aliases.Leads t v) :
    aliases.Leads u v ∨ aliases.Leads v u :=
  ReflTransGen.total_of_right_unique (fun _ _ _ h h' => Option.some.inj (h.symm.trans h')) hu hv

/-- From the end of a chain nothing leads further. -/
theorem Leads.eq_of_get? (h : aliases.Leads t u) (hend : aliases.get? t = none) : t = u := by
  rcases h.cases_head with rfl | ⟨next, hstep, -⟩
  · rfl
  · cases hend.symm.trans hstep

/-- A chain has one end. -/
theorem Leads.end_unique (hu : aliases.Leads t u) (hend : aliases.get? u = none)
    (hv : aliases.Leads t v) (hend' : aliases.get? v = none) : u = v := by
  rcases leads_total hu hv with h | h
  · exact h.eq_of_get? hend
  · exact (h.eq_of_get? hend').symm

/-- A chain that has come to a loop stays on it. -/
theorem Loops.of_leads (h : aliases.Loops t) (hleads : aliases.Leads t u) : aliases.Loops u := by
  induction hleads with
  | refl => exact h
  | @tail u v _ hstep ih =>
      obtain ⟨next, hnext, hback⟩ := TransGen.head'_iff.mp ih
      cases hstep.symm.trans hnext
      exact TransGen.tail' hback hstep

theorem Loops.get?_ne_none (h : aliases.Loops t) : aliases.get? t ≠ none := by
  obtain ⟨next, hstep, -⟩ := TransGen.head'_iff.mp h
  rw [hstep]
  exact Option.some_ne_none next

/-- A chain that leads to a loop has no end. -/
theorem Leads.get?_ne_none (h : aliases.Leads t v) (hloops : aliases.Loops v)
    (hu : aliases.Leads t u) : aliases.get? u ≠ none := by
  intro hend
  rcases leads_total hu h with hto | hfrom
  · rw [← hto.eq_of_get? hend] at hloops
    exact hloops.get?_ne_none hend
  · exact (hloops.of_leads hfrom).get?_ne_none hend

theorem leads_of_follow {passed : List TypeRef} {hnew : t ∉ passed}
    (h : aliases.follow passed t hnew = .ok u) : aliases.Leads t u := by
  fun_induction follow aliases passed t hnew with
  | case1 passed t hnew hget =>
      cases h
      exact .refl
  | case2 passed t hnew next hget hseen => cases h
  | case3 passed t hnew next hget hseen hkey hless ih => exact .head hget (ih h)

/-- A chain is given up only at a loop, as long as the types passed are those that lead to the
current one. -/
theorem exists_loops_of_follow {passed cycle : List TypeRef} {hnew : t ∉ passed}
    (hpassed : ∀ p ∈ passed, aliases.Leads p t)
    (h : aliases.follow passed t hnew = .error cycle) : ∃ v, aliases.Leads t v ∧ aliases.Loops v := by
  fun_induction follow aliases passed t hnew with
  | case1 passed t hnew hget => cases h
  | case2 passed t hnew next hget hseen =>
      refine ⟨t, .refl, ?_⟩
      rcases List.mem_cons.mp hseen with rfl | hmem
      · exact .single hget
      · exact TransGen.head' hget (hpassed next hmem)
  | case3 passed t hnew next hget hseen hkey hless ih =>
      have hnext : ∀ p ∈ t :: passed, aliases.Leads p next := by
        intro p hp
        rcases List.mem_cons.mp hp with rfl | hmem
        · exact .single hget
        · exact (hpassed p hmem).tail hget
      obtain ⟨v, hleads, hloops⟩ := ih hnext h
      exact ⟨v, .head hget hleads, hloops⟩

/-- What is supplied for a type is the end of its chain. -/
theorem resolve_eq_ok_iff :
    aliases.resolve t = .ok u ↔ aliases.Leads t u ∧ aliases.get? u = none := by
  constructor
  · exact fun h => ⟨leads_of_follow h, get?_of_resolve h⟩
  · rintro ⟨hleads, hend⟩
    cases hrun : aliases.resolve t with
    | ok v => rw [hleads.end_unique hend (leads_of_follow hrun) (get?_of_resolve hrun)]
    | error cycle =>
        obtain ⟨v, hv, hloops⟩ :=
          exists_loops_of_follow (fun _ hp => absurd hp List.not_mem_nil) hrun
        exact absurd hend (hv.get?_ne_none hloops hleads)

/-- Substitutions of types that a chain does not pass have no part in it. -/
theorem follow_congr {passed : List TypeRef} {hnew : t ∉ passed}
    (h : ∀ v, aliases.Leads t v → aliases'.get? v = aliases.get? v) :
    aliases'.follow passed t hnew = aliases.follow passed t hnew := by
  fun_induction follow aliases passed t hnew with
  | case1 passed t hnew hget =>
      have hget' : aliases'.entries[t]? = none := (h t .refl).trans hget
      rw [follow]
      split
      · rfl
      · rename_i next hnext
        cases hget'.symm.trans hnext
  | case2 passed t hnew next hget hseen =>
      have hget' : aliases'.entries[t]? = some next := (h t .refl).trans hget
      rw [follow]
      split
      · rename_i hnone
        cases hget'.symm.trans hnone
      · rename_i other hother
        cases hget'.symm.trans hother
        rw [dif_pos hseen]
  | case3 passed t hnew next hget hseen hkey hless ih =>
      have hget' : aliases'.entries[t]? = some next := (h t .refl).trans hget
      rw [follow]
      split
      · rename_i hnone
        cases hget'.symm.trans hnone
      · rename_i other hother
        cases hget'.symm.trans hother
        rw [dif_neg hseen]
        exact ih fun v hleads => h v (.head hget hleads)

theorem get?_insert (aliases : Aliases) (source target t : TypeRef) :
    get? ⟨aliases.entries.insert source target⟩ t =
      if source = t then some target else aliases.get? t := by
  simp only [get?, Std.ExtTreeMap.getElem?_insert, Std.LawfulEqOrd.compare_eq_iff_eq]

end Chains

/-- The same substitutions, except that one type is replaced by another one than before. -/
def redirect (aliases : Aliases) (source target : TypeRef) : Aliases :=
  ⟨aliases.entries.insert source target⟩

section Redirection

variable {aliases : Aliases} {source target last t : TypeRef}

theorem get?_redirect_self : (aliases.redirect source target).get? source = some target :=
  (get?_insert aliases source target source).trans (if_pos rfl)

theorem get?_redirect_of_ne (h : t ≠ source) :
    (aliases.redirect source target).get? t = aliases.get? t :=
  (get?_insert aliases source target t).trans (if_neg h.symm)

/-- Up to the type that is redirected a chain stays the same. -/
theorem leads_redirect (h : aliases.Leads t source) :
    (aliases.redirect source target).Leads t source := by
  induction h using ReflTransGen.head_induction_on with
  | refl => exact .refl
  | @head t next hstep _ ih =>
      by_cases heq : t = source
      · rw [heq]
      · exact .head ((get?_redirect_of_ne heq).trans hstep) ih

/-- A type can be sent to the end of its chain at once: chains that pass it end where they did, and
all others, among them those that come to a loop, are the same as before. -/
theorem resolve_redirect (hget : aliases.get? source = some target)
    (hlast : aliases.resolve target = .ok last) (t : TypeRef) :
    (aliases.redirect source last).resolve t = aliases.resolve t := by
  obtain ⟨hleads, hend⟩ := resolve_eq_ok_iff.mp hlast
  have hne : last ≠ source := by
    rintro rfl
    cases hget.symm.trans hend
  by_cases hpasses : aliases.Leads t source
  · have hold : aliases.resolve t = .ok last :=
      resolve_eq_ok_iff.mpr ⟨(hpasses.tail hget).trans hleads, hend⟩
    rw [hold, resolve_eq_ok_iff]
    exact ⟨(leads_redirect hpasses).tail get?_redirect_self, (get?_redirect_of_ne hne).trans hend⟩
  · refine follow_congr fun v hv => get?_redirect_of_ne ?_
    rintro rfl
    exact hpasses hv

end Redirection

end Wiring.Aliases
