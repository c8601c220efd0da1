import Mathlib.Data.List.Chain
import Mathlib.Data.List.Nodup
import Mathlib.Data.List.Perm.Subperm
import Wiring.Proofs.Aliases
import Wiring.Proofs.Reordering

/-!
What the search for a substitute comes to. A chain of substitutions passes each type once until it
ends or meets itself. If it meets itself, the loop is reported from the type where it was entered,
without the types that only lead there.
-/

namespace Wiring.Aliases

open Relation

variable {aliases aliases' : Aliases} {t u v first next : TypeRef}
  {passed types before rest cycle : List TypeRef}

/-- Each type is the substitute of the one before. -/
abbrev Linked (aliases : Aliases) (types : List TypeRef) : Prop :=
  types.IsChain fun t u => aliases.get? t = some u

/-- The types that the chain from a type passes, up to some type. -/
structure Walk (aliases : Aliases) (t : TypeRef) (types : List TypeRef) : Prop where
  start : types.head? = some t
  linked : aliases.Linked types

/-- The loop that the chain from a type runs into, as it is reported. It begins with the first type
that the chain passes twice: nothing leads back to a type that is passed before. -/
structure RunsInto (aliases : Aliases) (t : TypeRef) (cycle : List TypeRef) : Prop where
  length : 3 ≤ cycle.length
  closes : cycle.getLast? = cycle.head?
  distinct : cycle.dropLast.Nodup
  linked : aliases.Linked cycle
  entered : ∃ lead, aliases.Walk t (lead ++ cycle) ∧ (∀ u ∈ lead, ¬ aliases.Loops u) ∧
    (lead ++ cycle).length ≤ aliases.size + 1

section Walks

/-- A type with a substitute is one of those that substitutions were added for. -/
theorem mem_keys_of_get? (h : aliases.get? t = some u) : t ∈ aliases.entries.keys := by
  rw [Std.ExtTreeMap.mem_keys, Std.ExtTreeMap.mem_iff_isSome_getElem?]
  exact Option.isSome_iff_exists.mpr ⟨u, h⟩

/-- No more types with a substitute are passed than there are substitutions. -/
theorem length_le_size (hnodup : types.Nodup) (h : ∀ t ∈ types, aliases.get? t ≠ none) :
    types.length ≤ aliases.size := by
  have hsub : types ⊆ aliases.entries.keys := by
    intro t ht
    obtain ⟨u, hget⟩ := Option.ne_none_iff_exists'.mp (h t ht)
    exact mem_keys_of_get? hget
  calc types.length ≤ aliases.entries.keys.length := (List.subperm_of_subset hnodup hsub).length_le
    _ = aliases.size := Std.ExtTreeMap.length_keys

/-- In a chain each type but the last one has its substitute next. -/
theorem exists_next (h : aliases.Linked (types ++ [u])) (ht : t ∈ types) :
    ∃ next ∈ types ++ [u], aliases.get? t = some next := by
  obtain ⟨before, after, rfl⟩ := List.append_of_mem ht
  rw [List.append_assoc, List.cons_append] at h
  have hlater := (List.isChain_append.mp h).2.1
  cases hafter : after ++ [u] with
  | nil => simp at hafter
  | cons next later =>
      rw [hafter, List.isChain_cons_cons] at hlater
      refine ⟨next, ?_, hlater.1⟩
      rw [List.append_assoc, List.cons_append, hafter]
      simp

/-- A walk is continued with the substitute of its last type. -/
theorem Walk.push (h : aliases.Walk t (types ++ [u])) (hget : aliases.get? u = some next) :
    aliases.Walk t (types ++ [u] ++ [next]) where
  start := by
    rw [List.head?_append, h.start]
    rfl
  linked := by
    refine List.isChain_append.mpr ⟨h.linked, .singleton next, ?_⟩
    intro last hlast head hhead
    rw [List.getLast?_concat] at hlast
    cases hlast
    cases hhead
    exact hget

/-- Up to where it ends, the chain from a type passes no type twice. -/
theorem exists_walk_of_follow {start : TypeRef} {hnew : t ∉ passed}
    (hwalk : aliases.Walk start (passed.reverse ++ [t])) (hnodup : passed.Nodup)
    (h : aliases.follow passed t hnew = .ok u) :
    ∃ types, aliases.Walk start (types ++ [u]) ∧ (types ++ [u]).Nodup := by
  fun_induction follow aliases passed t hnew with
  | case1 passed t hnew hget =>
      cases h
      refine ⟨passed.reverse, hwalk, ?_⟩
      rw [← List.reverse_cons, List.nodup_reverse]
      exact List.nodup_cons.mpr ⟨hnew, hnodup⟩
  | case2 passed t hnew next hget hseen => cases h
  | case3 passed t hnew next hget hseen hkey hless ih =>
      refine ih ?_ (List.nodup_cons.mpr ⟨hnew, hnodup⟩) h
      rw [List.reverse_cons]
      exact hwalk.push hget

/-- A chain that is given up has come to a type that it passed, and what is reported begins there. -/
theorem exists_loop_of_follow {start : TypeRef} {hnew : t ∉ passed}
    (hwalk : aliases.Walk start (passed.reverse ++ [t])) (hnodup : passed.Nodup)
    (h : aliases.follow passed t hnew = .error cycle) : ∃ before first rest,
      aliases.Walk start (before ++ first :: rest ++ [first]) ∧ (before ++ first :: rest).Nodup ∧
        cycle = first :: rest ++ [first] := by
  fun_induction follow aliases passed t hnew with
  | case1 passed t hnew hget => cases h
  | case2 passed t hnew next hget hseen =>
      obtain ⟨before, rest, hsplit, hbefore⟩ :=
        List.eq_append_cons_of_mem (List.mem_reverse.mpr hseen)
      have hclosed := hwalk.push hget
      have hdistinct : (t :: passed).reverse.Nodup :=
        List.nodup_reverse.mpr (List.nodup_cons.mpr ⟨hnew, hnodup⟩)
      have hfrom : (t :: passed).reverse.dropWhile (· ≠ next) = next :: rest := by
        rw [hsplit, List.dropWhile_append_of_pos, List.dropWhile_cons_of_neg (by simp)]
        intro u hu
        exact decide_eq_true fun heq => hbefore (heq ▸ hu)
      rw [← List.reverse_cons, hsplit] at hclosed
      rw [hsplit] at hdistinct
      rw [hfrom] at h
      cases h
      exact ⟨before, next, rest, hclosed, hdistinct, rfl⟩
  | case3 passed t hnew next hget hseen hkey hless ih =>
      refine ih ?_ (List.nodup_cons.mpr ⟨hnew, hnodup⟩) h
      rw [List.reverse_cons]
      exact hwalk.push hget

end Walks

section Loop

/-- On a loop everything leads back. -/
theorem Loops.leads_back (h : aliases.Loops t) (hleads : aliases.Leads t u) :
    aliases.Leads u t := by
  induction hleads with
  | refl => exact .refl
  | @tail u v _ hstep ih =>
      rcases ih.cases_head with rfl | ⟨next, hnext, hback⟩
      · obtain ⟨next, hnext, hback⟩ := TransGen.head'_iff.mp h
        cases hstep.symm.trans hnext
        exact hback
      · cases hstep.symm.trans hnext
        exact hback

/-- A chain that has come to its first type again does not leave its types. -/
theorem mem_of_leads (h : aliases.Linked (first :: rest ++ [first])) (hu : u ∈ first :: rest)
    (hleads : aliases.Leads u v) : v ∈ first :: rest := by
  induction hleads with
  | refl => exact hu
  | @tail v w _ hstep ih =>
      obtain ⟨next, hmem, hnext⟩ := exists_next h ih
      cases hstep.symm.trans hnext
      rcases List.mem_append.mp hmem with hold | hclosed
      · exact hold
      · exact List.mem_singleton.mp hclosed ▸ List.mem_cons_self

/-- A type leads to all those after it in a chain. -/
theorem leads_of_mem (h : aliases.Linked (before ++ first :: rest)) (hu : u ∈ before) :
    aliases.Leads u first := by
  obtain ⟨lead, between, rfl⟩ := List.append_of_mem hu
  have hchain : aliases.Linked (u :: (between ++ [first])) := by
    refine h.infix ⟨lead, rest, ?_⟩
    simp
  refine List.relationReflTransGen_of_exists_isChain_cons _ hchain ?_
  simp

/-- No loop has a type that a chain passes before the first one it comes to again. -/
theorem not_loops_of_mem (h : aliases.Linked (before ++ first :: rest ++ [first]))
    (hnodup : (before ++ first :: rest).Nodup) (hu : u ∈ before) : ¬ aliases.Loops u := by
  intro hloops
  have hcycle : aliases.Linked (first :: rest ++ [first]) := by
    rw [List.append_assoc] at h
    exact (List.isChain_append.mp h).2.1
  have hleads : aliases.Leads u first := by
    rw [List.append_assoc, List.cons_append] at h
    exact leads_of_mem h hu
  have hmem := mem_of_leads hcycle List.mem_cons_self (hloops.leads_back hleads)
  exact (List.nodup_append.mp hnodup).2.2 u hu u hmem rfl

/-- Without a substitution of a type by itself, the chain of a type that is not resolved runs into
what is reported. -/
theorem runsInto_of_resolve (hself : ∀ t, aliases.get? t ≠ some t)
    (h : aliases.resolve t = .error cycle) : aliases.RunsInto t cycle := by
  obtain ⟨before, first, rest, hwalk, hnodup, rfl⟩ :=
    exists_loop_of_follow ⟨rfl, .singleton t⟩ List.nodup_nil h
  have hlinked : aliases.Linked (first :: rest ++ [first]) := by
    have hall := hwalk.linked
    rw [List.append_assoc] at hall
    exact (List.isChain_append.mp hall).2.1
  have hsize : (before ++ first :: rest).length ≤ aliases.size := by
    refine length_le_size hnodup fun u hu => ?_
    obtain ⟨next, -, hnext⟩ := exists_next hwalk.linked hu
    rw [hnext]
    exact Option.some_ne_none next
  refine
    { length := ?_
      closes := List.getLast?_concat
      distinct := ?_
      linked := hlinked
      entered := ⟨before, ?_, fun u => not_loops_of_mem hwalk.linked hnodup, ?_⟩ }
  · cases rest with
    | nil => exact absurd (List.isChain_pair.mp hlinked) (hself first)
    | cons next rest => simp
  · rw [List.dropLast_concat]
    exact (List.nodup_append.mp hnodup).2.1
  · rw [← List.append_assoc]
    exact hwalk
  · rw [← List.append_assoc, List.length_append]
    exact Nat.succ_le_succ hsize

end Loop

/-- The substitutions that are there after some were added in order. One that is rejected leaves the
others as they were. -/
def inserted (pairs : List (TypeRef × TypeRef)) : Aliases :=
  pairs.foldl (fun aliases pair => (aliases.insert pair.1 pair.2).toOption.getD aliases) ∅

/-- No type is substituted by itself after a substitution is added, or rejected. -/
theorem get?_ne_self_of_insert (h : ∀ t, aliases.get? t ≠ some t) (source target : TypeRef) :
    ∀ t, ((aliases.insert source target).toOption.getD aliases).get? t ≠ some t := by
  cases hinsert : aliases.insert source target with
  | error e => exact h
  | ok after =>
      obtain ⟨hne, -, rfl⟩ := insert_eq_ok_iff.mp hinsert
      intro t
      change get? ⟨aliases.entries.insert source target⟩ t ≠ some t
      rw [get?_insert]
      split
      case isTrue heq => exact fun hself => hne (heq.trans (Option.some.inj hself).symm)
      case isFalse => exact h t

theorem get?_inserted_ne_self (pairs : List (TypeRef × TypeRef)) (t : TypeRef) :
    (inserted pairs).get? t ≠ some t := by
  have hrun : ∀ aliases : Aliases, (∀ t, aliases.get? t ≠ some t) → ∀ t,
      (pairs.foldl (fun aliases pair => (aliases.insert pair.1 pair.2).toOption.getD aliases)
        aliases).get? t ≠ some t := by
    induction pairs with
    | nil => exact fun _ h => h
    | cons pair pairs ih => exact fun _ h => ih _ (get?_ne_self_of_insert h pair.1 pair.2)
  refine hrun ∅ (fun t => ?_) t
  change (∅ : Std.ExtTreeMap TypeRef TypeRef)[t]? ≠ some t
  simp

/-- What the search for a substitute comes to: the end of the chain from a type if it has one, which
is also what all types on the way come to, and otherwise the loop. Whichever it is, no more types are
passed than there are substitutions, and one more to see where it ends. -/
structure Settles (aliases : Aliases) (t : TypeRef) : Prop where
  ok_iff : ∀ u, aliases.resolve t = .ok u ↔ aliases.Leads t u ∧ aliases.get? u = none
  settled : ∀ u, aliases.resolve t = .ok u →
    aliases.resolve u = .ok u ∧ ∀ v, aliases.Leads t v → aliases.resolve v = .ok u
  walked : ∀ u, aliases.resolve t = .ok u → ∃ types, aliases.Walk t (types ++ [u]) ∧
    (types ++ [u]).Nodup ∧ (types ++ [u]).length ≤ aliases.size + 1
  looped : (∀ u, aliases.Leads t u → aliases.get? u ≠ none) →
    ∃ cycle, aliases.resolve t = .error cycle ∧ aliases.RunsInto t cycle

/-- Whatever substitutions were added, each type has its substitute or runs into a loop. -/
theorem settles_inserted (pairs : List (TypeRef × TypeRef)) (t : TypeRef) :
    (inserted pairs).Settles t where
  ok_iff _ := resolve_eq_ok_iff
  settled u h := by
    refine ⟨resolve_resolve h, fun v hv => ?_⟩
    obtain ⟨hu, hend⟩ := resolve_eq_ok_iff.mp h
    refine resolve_eq_ok_iff.mpr ⟨?_, hend⟩
    rcases leads_total hv hu with hfrom | hto
    · exact hfrom
    · exact hto.eq_of_get? hend ▸ .refl
  walked u h := by
    obtain ⟨types, hwalk, hnodup⟩ :=
      exists_walk_of_follow ⟨rfl, .singleton t⟩ List.nodup_nil h
    refine ⟨types, hwalk, hnodup, ?_⟩
    rw [List.length_append]
    refine Nat.succ_le_succ (length_le_size (List.nodup_append.mp hnodup).1 fun v hv => ?_)
    obtain ⟨next, -, hnext⟩ := exists_next hwalk.linked hv
    rw [hnext]
    exact Option.some_ne_none next
  looped hnone := by
    cases hresolve : (inserted pairs).resolve t with
    | ok u =>
        obtain ⟨hleads, hend⟩ := resolve_eq_ok_iff.mp hresolve
        exact absurd hend (hnone u hleads)
    | error cycle => exact ⟨cycle, rfl, runsInto_of_resolve (get?_inserted_ne_self pairs) hresolve⟩

/-- What only leads to a loop is not reported. -/
example : (inserted [(.builtin "A", .builtin "B"), (.builtin "B", .builtin "C"),
      (.builtin "C", .builtin "B")]).resolve (.builtin "A") =
    .error [.builtin "B", .builtin "C", .builtin "B"] := by
  decide +kernel

end Wiring.Aliases
