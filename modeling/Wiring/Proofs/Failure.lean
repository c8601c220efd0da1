import Mathlib.Data.List.Forall2

/-!
Computations that may fail, one after the other. They succeed if each of them does, and otherwise
they come to the first failure.
-/

universe u v w

namespace Except

variable {ε ε' : Type v} {α β : Type u} {x : Except ε α} {f : α → Except ε β}

theorem bind_eq_ok_iff {b : β} : x >>= f = .ok b ↔ ∃ a, x = .ok a ∧ f a = .ok b := by
  cases x with
  | error e => simp [bind, Except.bind]
  | ok a => simp [bind, Except.bind]

theorem bind_eq_error_iff {e : ε} :
    x >>= f = .error e ↔ x = .error e ∨ ∃ a, x = .ok a ∧ f a = .error e := by
  cases x with
  | error e => simp [bind, Except.bind]
  | ok a => simp [bind, Except.bind]

theorem mapError_eq_ok_iff {g : ε → ε'} {a : α} : x.mapError g = .ok a ↔ x = .ok a := by
  cases x <;> simp [Except.mapError]

theorem mapError_eq_error_iff {g : ε → ε'} {e : ε'} :
    x.mapError g = .error e ↔ ∃ cause, x = .error cause ∧ g cause = e := by
  cases x <;> simp [Except.mapError]

theorem map_eq_ok_iff {g : α → β} {b : β} :
    x.map g = .ok b ↔ ∃ a, x = .ok a ∧ g a = b := by
  cases x <;> simp [Except.map]

theorem map_eq_error_iff {g : α → β} {e : ε} : x.map g = .error e ↔ x = .error e := by
  cases x <;> simp [Except.map]

end Except

namespace List

variable {ε : Type v} {α γ : Type w} {β : Type u} {f : α → Except ε β} {l : List α}

theorem mapM_eq_ok_iff {made : List β} :
    l.mapM f = .ok made ↔ List.Forall₂ (fun a b => f a = .ok b) l made := by
  induction l generalizing made with
  | nil => cases made <;> simp [pure, Except.pure]
  | cons a l ih =>
      rw [List.mapM_cons, Except.bind_eq_ok_iff, List.forall₂_cons_left_iff]
      constructor
      · rintro ⟨b, hb, h⟩
        obtain ⟨rest, hrest, h⟩ := Except.bind_eq_ok_iff.mp h
        cases h
        exact ⟨b, rest, hb, ih.mp hrest, rfl⟩
      · rintro ⟨b, rest, hb, hrest, rfl⟩
        exact ⟨b, hb, Except.bind_eq_ok_iff.mpr ⟨rest, ih.mpr hrest, rfl⟩⟩

theorem exists_mapM_ok (h : ∀ a ∈ l, ∃ b, f a = .ok b) : ∃ made, l.mapM f = .ok made := by
  induction l with
  | nil => exact ⟨[], rfl⟩
  | cons a l ih =>
      obtain ⟨b, hb⟩ := h a (by simp)
      obtain ⟨rest, hrest⟩ := ih fun a' ha' => h a' (by simp [ha'])
      exact ⟨b :: rest, by simp [List.mapM_cons, hb, hrest, bind, Except.bind, pure, Except.pure]⟩

/-- The first item that fails is what all come to. -/
theorem mapM_cons_eq_error_iff {a : α} {e : ε} :
    (a :: l).mapM f = .error e ↔ f a = .error e ∨ ∃ b, f a = .ok b ∧ l.mapM f = .error e := by
  rw [List.mapM_cons, Except.bind_eq_error_iff]
  refine or_congr_right (exists_congr fun b => and_congr_right fun _ => ?_)
  rw [Except.bind_eq_error_iff]
  refine or_iff_left ?_
  rintro ⟨rest, -, h⟩
  cases h

/-- What all come to is the failure of one of them. -/
theorem exists_mem_of_mapM_error {e : ε} (h : l.mapM f = .error e) : ∃ a ∈ l, f a = .error e := by
  induction l with
  | nil => cases h
  | cons a l ih =>
      rcases mapM_cons_eq_error_iff.mp h with hfirst | ⟨-, -, hrest⟩
      · exact ⟨a, List.mem_cons_self, hfirst⟩
      · obtain ⟨later, hmem, hlater⟩ := ih hrest
        exact ⟨later, List.mem_cons_of_mem a hmem, hlater⟩

/-- The first item with some property is the head of a list or, if the head is passed, the first one
after it. -/
theorem exists_split_cons_iff {P P' : List α → Prop} {Q : α → Prop} {passed : Prop} {a : α}
    (hnil : P []) (hcons : ∀ before, P (a :: before) ↔ passed ∧ P' before) :
    (∃ before b after, a :: l = before ++ b :: after ∧ P before ∧ Q b) ↔
      Q a ∨ passed ∧ ∃ before b after, l = before ++ b :: after ∧ P' before ∧ Q b := by
  constructor
  · rintro ⟨before, b, after, heq, hbefore, hb⟩
    cases before with
    | nil =>
        cases heq
        exact Or.inl hb
    | cons first before =>
        cases heq
        obtain ⟨hpassed, hrest⟩ := (hcons before).mp hbefore
        exact Or.inr ⟨hpassed, before, b, after, rfl, hrest, hb⟩
  · rintro (ha | ⟨hpassed, before, b, after, rfl, hrest, hb⟩)
    · exact ⟨[], a, l, rfl, hnil, ha⟩
    · exact ⟨a :: before, b, after, rfl, (hcons before).mpr ⟨hpassed, hrest⟩, hb⟩

theorem exists_mem_of_forall₂ {R : α → γ → Prop} {l' : List γ} (h : List.Forall₂ R l l') {a : α}
    (ha : a ∈ l) : ∃ c ∈ l', R a c := by
  induction h with
  | nil => cases ha
  | @cons first made _ _ hfirst _ ih =>
      rcases List.mem_cons.mp ha with rfl | hrest
      · exact ⟨made, List.mem_cons_self, hfirst⟩
      · obtain ⟨c, hc, hone⟩ := ih hrest
        exact ⟨c, List.mem_cons_of_mem _ hc, hone⟩

theorem eq_nil_iff_of_forall₂ {R : α → γ → Prop} {l' : List γ} (h : List.Forall₂ R l l') :
    l = [] ↔ l' = [] := by
  cases h with
  | nil => exact iff_of_true rfl rfl
  | cons _ _ => exact iff_of_false (List.cons_ne_nil _ _) (List.cons_ne_nil _ _)

theorem forall₂_imp_of_mem {R S : α → γ → Prop} {l' : List γ} (h : List.Forall₂ R l l')
    (himp : ∀ a ∈ l, ∀ c, R a c → S a c) : List.Forall₂ S l l' := by
  induction h with
  | nil => exact .nil
  | @cons a c l l' hfirst _ ih =>
      obtain ⟨ha, hrest⟩ := List.forall_mem_cons.mp himp
      exact .cons (ha c hfirst) (ih hrest)

theorem forall₂_map_self {R : α → γ → Prop} {g : α → γ} (h : ∀ a, R a (g a)) (l : List α) :
    List.Forall₂ R l (l.map g) := by
  rw [List.forall₂_map_right_iff, List.forall₂_same]
  exact fun a _ => h a

theorem forall₂_comp {R : α → γ → Prop} {S : γ → β → Prop} {l' : List γ} {l'' : List β}
    (h : List.Forall₂ R l l') (h' : List.Forall₂ S l' l'') :
    List.Forall₂ (fun a b => ∃ c, R a c ∧ S c b) l l'' := by
  induction h generalizing l'' with
  | nil =>
      cases h'
      exact .nil
  | cons hfirst _ ih =>
      cases h' with
      | cons hfirst' hrest' => exact .cons ⟨_, hfirst, hfirst'⟩ (ih hrest')

/-- What belongs to one list after another falls in two. -/
theorem exists_of_forall₂_append {R : α → γ → Prop} {more : List α} {made : List γ}
    (h : List.Forall₂ R (l ++ more) made) :
    ∃ first last, made = first ++ last ∧ List.Forall₂ R l first ∧ List.Forall₂ R more last := by
  induction l generalizing made with
  | nil => exact ⟨[], made, rfl, .nil, h⟩
  | cons a l ih =>
      cases h with
      | cons hone hrest =>
          obtain ⟨first, last, rfl, hfirst, hlast⟩ := ih hrest
          exact ⟨_ :: first, last, rfl, .cons hone hfirst, hlast⟩

theorem exists_map_of_forall₂ {R : α → γ → Prop} {g : γ → β} {made : List β}
    (h : List.Forall₂ (fun a b => ∃ c, b = g c ∧ R a c) l made) :
    ∃ l', made = l'.map g ∧ List.Forall₂ R l l' := by
  induction h with
  | nil => exact ⟨[], rfl, .nil⟩
  | cons hfirst _ ih =>
      obtain ⟨c, rfl, hone⟩ := hfirst
      obtain ⟨l', rfl, hrest⟩ := ih
      exact ⟨c :: l', rfl, .cons hone hrest⟩

theorem mapM_congr_of_forall₂ {R : α → γ → Prop} {g : γ → Except ε β} {l' : List γ}
    (h : List.Forall₂ R l l') (heq : ∀ a c, R a c → f a = g c) : l.mapM f = l'.mapM g := by
  induction h with
  | nil => rfl
  | cons hfirst _ ih => rw [List.mapM_cons, List.mapM_cons, heq _ _ hfirst, ih]

end List
