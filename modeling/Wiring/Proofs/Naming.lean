import Mathlib.Data.Finset.Card
import Mathlib.Tactic.ByContra
import Std.Data.String.ToNat
import Wiring.Naming

/-!
Numbered variants of a name. They all differ, so that of one variant more than there are taken names
one at least is free.
-/

namespace Wiring.Naming

theorem candidate_zero (base : String) : candidate base 0 = base :=
  if_pos rfl

theorem candidate_succ (base : String) (i : Nat) :
    candidate base (i + 1) = base ++ Nat.repr (i + 2) :=
  if_neg (Nat.succ_ne_zero i)

theorem candidate_injective (base : String) : Function.Injective (candidate base) := by
  intro i j h
  cases i with
  | zero =>
      cases j with
      | zero => rfl
      | succ j =>
          rw [candidate_zero, candidate_succ, eq_comm, String.append_eq_left_iff] at h
          exact absurd h Nat.repr_ne_empty
  | succ i =>
      cases j with
      | zero =>
          rw [candidate_zero, candidate_succ, String.append_eq_left_iff] at h
          exact absurd h Nat.repr_ne_empty
      | succ j =>
          rw [candidate_succ, candidate_succ, String.append_right_inj, Nat.repr_inj] at h
          exact Nat.succ.inj h

/-- A name that does not end in a digit, so that it is a numbered variant of no other name. -/
def Unnumbered (name : String) : Prop :=
  name.toList.getLast?.all (!·.isDigit) = true

instance (name : String) : Decidable (Unnumbered name) :=
  inferInstanceAs (Decidable (_ = true))

theorem Unnumbered.eq_of_candidate {base : String} {i : Nat} (h : Unnumbered (candidate base i)) :
    candidate base i = base := by
  cases i with
  | zero => exact candidate_zero base
  | succ i =>
      obtain ⟨c, hlast⟩ : ∃ c, (Nat.toDigits 10 (i + 2)).getLast? = some c :=
        ⟨_, List.getLast?_eq_some_getLast Nat.toDigits_ne_nil⟩
      have hdigit : c.isDigit = true :=
        Nat.isDigit_of_mem_toDigits (by decide) (by decide) (List.mem_of_getLast? hlast)
      rw [Unnumbered, candidate_succ, String.toList_append, Nat.toList_repr, List.getLast?_append,
        hlast] at h
      simp [hdigit] at h

/-- The variants that are passed are different names. -/
theorem le_card_of_taken {base : String} {taken : List String} {i : Nat}
    (hbefore : ∀ j < i, candidate base j ∈ taken) : i ≤ taken.toFinset.card := by
  have hsub : (Finset.range i).image (candidate base) ⊆ taken.toFinset := by
    intro name hname
    obtain ⟨j, hj, rfl⟩ := Finset.mem_image.mp hname
    exact List.mem_toFinset.mpr (hbefore j (Finset.mem_range.mp hj))
  calc i = ((Finset.range i).image (candidate base)).card := by
        rw [Finset.card_image_of_injective _ (candidate_injective base), Finset.card_range]
    _ ≤ taken.toFinset.card := Finset.card_le_card hsub

/-- Some variant is free among more than there are taken names. -/
theorem exists_candidate_not_mem (base : String) {taken : List String} {n : Nat}
    (hn : taken.toFinset.card < n) : ∃ i < n, candidate base i ∉ taken := by
  by_contra! hnone
  exact absurd (le_card_of_taken hnone) (Nat.not_le_of_lt hn)

theorem exists_firstCandidate (base : String) (taken : List String) :
    ∃ i ≤ taken.length, firstCandidate base taken = candidate base i ∧ candidate base i ∉ taken ∧
      ∀ j < i, candidate base j ∈ taken := by
  obtain ⟨k, hk, hfree⟩ :=
    exists_candidate_not_mem base (Nat.lt_succ_of_le taken.toFinset_card_le)
  cases hfind : (List.range (taken.length + 1)).find? fun i => !taken.contains (candidate base i) with
  | none =>
      have hk' := List.find?_eq_none.mp hfind k (List.mem_range.mpr hk)
      simp [hfree] at hk'
  | some i =>
      obtain ⟨hi, hmem, hfirst⟩ := List.find?_range_eq_some.mp hfind
      refine ⟨i, Nat.le_of_lt_succ (List.mem_range.mp hmem), ?_, by simpa using hi, ?_⟩
      · rw [firstCandidate, hfind, Option.getD_some]
      · intro j hj
        simpa using hfirst j hj

section Search

variable {base name : String} {taken : List String} {i rounds : Nat}

/-- How many names a search looks at before its counter runs over: the name itself, and those with a
number from 2 up to the one before the largest of 32 bits. -/
def reach : Nat :=
  2147483646

theorem toString_ofNat (h : i < reach) : toString (Int32.ofNat (i + 2)) = Nat.repr (i + 2) := by
  change toString (Int32.ofNat (i + 2)).toInt = _
  rw [Int32.toInt_ofNat_of_lt (by unfold reach at h; omega)]
  rfl

/-- The counter stands at its last number when the last name within reach is looked at. -/
theorem ofNat_eq_maxValue_iff (h : i < reach) :
    Int32.ofNat (i + 2) = Int32.maxValue ↔ i + 1 = reach := by
  rw [← Int32.toInt_inj, Int32.toInt_ofNat_of_lt (by unfold reach at h; omega),
    Int32.toInt_maxValue]
  unfold reach
  omega

/-- From a variant on, a search looks at one variant a round, as far as its counter goes. -/
theorem search?_candidate (base : String) (taken : List String) (rounds : Nat) (h : i < reach) :
    search? base taken rounds (candidate base i) (Int32.ofNat (i + 2)) =
      ((List.range' i (min rounds (reach - i))).find?
        fun j => !taken.contains (candidate base j)).map (candidate base) := by
  induction rounds generalizing i with
  | zero =>
      rw [Nat.zero_min]
      rfl
  | succ rounds ih =>
      have hcount : min (rounds + 1) (reach - i) = min rounds (reach - (i + 1)) + 1 := by omega
      rw [search?, hcount, List.range'_succ, List.find?_cons]
      cases hfree : !taken.contains (candidate base i) with
      | true => rfl
      | false =>
          rw [if_neg Bool.false_ne_true]
          by_cases hlast : Int32.ofNat (i + 2) = Int32.maxValue
          · have hend : reach - (i + 1) = 0 := by
              have := (ofNat_eq_maxValue_iff h).mp hlast
              omega
            rw [if_pos hlast, hend, Nat.min_zero]
            rfl
          · have hnext : i + 1 < reach := by
              have := mt (ofNat_eq_maxValue_iff h).mpr hlast
              omega
            have hnumber : Int32.ofNat (i + 2) + 1 = Int32.ofNat (i + 1 + 2) :=
              (Int32.ofNat_add (i + 2) 1).symm
            rw [if_neg hlast, toString_ofNat h, ← candidate_succ, hnumber, ih hnext]

/-- A search finds the first free variant among as many as it has rounds, unless that is out of
reach. -/
theorem search?_eq (base : String) (taken : List String) (rounds : Nat) :
    search? base taken rounds base 2 =
      ((List.range (min rounds reach)).find?
        fun i => !taken.contains (candidate base i)).map (candidate base) := by
  have h := search?_candidate base taken rounds (show 0 < reach by decide)
  rwa [candidate_zero, Nat.sub_zero, ← List.range_eq_range'] at h

theorem search?_eq_some_iff : search? base taken rounds base 2 = some name ↔
    ∃ i < min rounds reach, name = candidate base i ∧ name ∉ taken ∧
      ∀ j < i, candidate base j ∈ taken := by
  rw [search?_eq, Option.map_eq_some_iff]
  constructor
  · rintro ⟨i, hfind, rfl⟩
    obtain ⟨hfree, hmem, hbefore⟩ := List.find?_range_eq_some.mp hfind
    exact ⟨i, List.mem_range.mp hmem, rfl, by simpa using hfree,
      fun j hj => by simpa using hbefore j hj⟩
  · rintro ⟨i, hi, rfl, hfree, hbefore⟩
    refine ⟨i, List.find?_range_eq_some.mpr ⟨by simpa using hfree, List.mem_range.mpr hi, ?_⟩, rfl⟩
    exact fun j hj => by simpa using hbefore j hj

end Search

/-- The name that is given is the first free variant. -/
theorem exists_firstFree (base : String) (taken : List String) :
    ∃ i ≤ taken.length, firstFree base taken = candidate base i ∧ candidate base i ∉ taken ∧
      ∀ j < i, candidate base j ∈ taken := by
  unfold firstFree
  cases hsearch : search? base taken (taken.length + 1) base 2 with
  | none => exact exists_firstCandidate base taken
  | some name =>
      obtain ⟨i, hi, rfl, hfree, hbefore⟩ := search?_eq_some_iff.mp hsearch
      exact ⟨i, by omega, rfl, hfree, hbefore⟩

/-- A search that can reach a free variant finds the name that is given. -/
theorem search?_eq_firstFree {base : String} {taken : List String} {rounds i : Nat}
    (hi : i < min rounds reach) (hfree : candidate base i ∉ taken) :
    search? base taken rounds base 2 = some (firstFree base taken) := by
  obtain ⟨first, -, heq, hfirst, hbefore⟩ := exists_firstFree base taken
  have hle : first ≤ i := Nat.le_of_not_lt fun hlt => hfree (hbefore i hlt)
  rw [heq]
  exact search?_eq_some_iff.mpr ⟨first, Nat.lt_of_le_of_lt hle hi, rfl, hfirst, hbefore⟩

theorem exists_candidate (base : String) (taken : List String) :
    ∃ i, firstFree base taken = candidate base i := by
  obtain ⟨i, -, heq, -⟩ := exists_firstFree base taken
  exact ⟨i, heq⟩

/-- A name is given as it is, unless it is taken. -/
theorem firstFree_eq_or_mem (base : String) (taken : List String) :
    firstFree base taken = base ∨ base ∈ taken := by
  obtain ⟨i, -, heq, -, hbefore⟩ := exists_firstFree base taken
  rcases Nat.eq_zero_or_pos i with rfl | hpos
  · exact Or.inl (heq.trans (candidate_zero base))
  · exact Or.inr (candidate_zero base ▸ hbefore 0 hpos)

theorem firstFree_not_mem (base : String) (taken : List String) : firstFree base taken ∉ taken := by
  obtain ⟨i, -, heq, hfree, -⟩ := exists_firstFree base taken
  rwa [heq]

end Wiring.Naming
