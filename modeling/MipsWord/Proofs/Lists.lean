import Mathlib.Data.List.Forall2
import Mathlib.Data.List.TakeWhile

namespace MipsWord

variable {α β γ κ : Type} {xs : List α} {ys : List β} {x : α}

theorem find?_eq_some_iff_of_pairwise {p : α → Bool}
    (h : xs.Pairwise fun a b => p a = true → p b = false) :
    xs.find? p = some x ↔ x ∈ xs ∧ p x = true := by
  induction xs with
  | nil => simp
  | cons y xs ih =>
    obtain ⟨hhead, htail⟩ := List.pairwise_cons.1 h
    rw [List.find?_cons, List.mem_cons]
    split
    · next hy =>
      constructor
      · rintro ⟨⟩
        exact ⟨.inl rfl, hy⟩
      · rintro ⟨rfl | hx, hpx⟩
        · rfl
        · rw [hhead x hx hy] at hpx
          contradiction
    · next hy =>
      rw [ih htail]
      constructor
      · rintro ⟨hx, hpx⟩
        exact ⟨.inr hx, hpx⟩
      · rintro ⟨rfl | hx, hpx⟩
        · rw [hy] at hpx
          contradiction
        · exact ⟨hx, hpx⟩

theorem find?_eq_some_iff_of_key [DecidableEq κ] {key : α → κ} {k : κ}
    (h : xs.Pairwise fun a b => key a ≠ key b) :
    xs.find? (fun a => decide (key a = k)) = some x ↔ x ∈ xs ∧ key x = k := by
  rw [find?_eq_some_iff_of_pairwise]
  · simp
  · apply h.imp
    intro a b hne
    simp only [decide_eq_true_eq, decide_eq_false_iff_not]
    rintro rfl hb
    exact hne hb.symm

theorem find?_eq_some_iff_filter_eq [DecidableEq κ] {kind : α → Prop} [DecidablePred kind]
    {key : α → κ} (k : κ)
    (h : xs.Pairwise fun a b => kind a → kind b → key a ≠ key b) :
    (xs.find? fun a => kind a ∧ key a = k) = some x ↔
      (xs.filter fun a => kind a ∧ key a = k) = [x] := by
  have hfilter := h.filter fun a => kind a ∧ key a = k
  have hall : ∀ a ∈ xs.filter fun a => kind a ∧ key a = k, kind a ∧ key a = k := by
    intro a ha
    exact of_decide_eq_true (List.mem_filter.1 ha).2
  rw [← List.head?_filter]
  match hshared : xs.filter fun a => kind a ∧ key a = k with
  | [] => simp
  | [y] => simp
  | y :: z :: rest =>
    rw [hshared] at hfilter hall
    obtain ⟨hykind, hy⟩ := hall y (by simp)
    obtain ⟨hzkind, hz⟩ := hall z (by simp)
    have hne := (List.pairwise_cons.1 hfilter).1 z (by simp) hykind hzkind
    rw [hy, hz] at hne
    contradiction

theorem findSome?_ite (p : α → Prop) [DecidablePred p] (g : α → β) (xs : List α) :
    (xs.findSome? fun a => if p a then some (g a) else none) = (xs.find? (p ·)).map g := by
  induction xs with
  | nil => rfl
  | cons x xs ih =>
    rw [List.findSome?_cons, List.find?_cons]
    by_cases hp : p x
    · simp [hp]
    · simp [hp, ih]

theorem mapM_congr {f g : α → Option β} (h : ∀ x ∈ xs, f x = g x) :
    xs.mapM f = xs.mapM g := by
  induction xs with
  | nil => rfl
  | cons x xs ih =>
    obtain ⟨hx, hxs⟩ := List.forall_mem_cons.1 h
    rw [List.mapM_cons, List.mapM_cons, hx, ih hxs]

theorem mapM_of_forall_eq_some {f : α → Option β} {g : α → β} (h : ∀ x ∈ xs, f x = some (g x)) :
    xs.mapM f = some (xs.map g) := by
  rw [mapM_congr h]
  exact List.mapM_pure

theorem isSome_mapM_iff {f : α → Option β} :
    (xs.mapM f).isSome = true ↔ ∀ x ∈ xs, f x ≠ none := by
  induction xs with
  | nil => simp
  | cons x xs ih =>
    rw [List.mapM_cons, List.forall_mem_cons, ← ih]
    cases f x with
    | none => simp
    | some y => cases xs.mapM f <;> simp

theorem mapM_eq_none_of_mem {f : α → Option β} (hmem : x ∈ xs) (hx : f x = none) :
    xs.mapM f = none := by
  rw [← Option.not_isSome_iff_eq_none, isSome_mapM_iff]
  intro h
  exact h x hmem hx

theorem forall₂_of_mapM {f : α → Option β} (h : xs.mapM f = some ys) :
    List.Forall₂ (fun x y => f x = some y) xs ys := by
  induction xs generalizing ys with
  | nil =>
    cases h
    exact .nil
  | cons x xs ih =>
    rw [List.mapM_cons] at h
    obtain ⟨y, hy, htail⟩ := Option.bind_eq_some_iff.1 h
    obtain ⟨rest, hrest, hys⟩ := Option.bind_eq_some_iff.1 htail
    cases hys
    exact .cons hy (ih hrest)

theorem forall₂_of_map_eq {f : α → γ} {g : β → γ} (h : xs.map f = ys.map g) :
    List.Forall₂ (fun x y => f x = g y) xs ys := by
  have hmap : List.Forall₂ Eq (xs.map f) (ys.map g) := by
    rw [h, List.forall₂_eq_eq_eq]
  rwa [List.forall₂_map_left_iff, List.forall₂_map_right_iff] at hmap

theorem forall_mem_of_forall₂ {r : α → β → Prop} {p : β → Prop} (h : List.Forall₂ r xs ys)
    (hp : ∀ {x y}, r x y → p y) : ∀ y ∈ ys, p y := by
  induction h with
  | nil => exact List.forall_mem_nil _
  | cons hxy _ ih => exact List.forall_mem_cons.2 ⟨hp hxy, ih⟩

theorem filter_intersperse {p : α → Bool} {sep : α} (hsep : p sep = false)
    (h : ∀ x ∈ xs, p x = true) : (xs.intersperse sep).filter p = xs := by
  induction xs with
  | nil => rfl
  | cons x xs ih =>
    obtain ⟨hx, hxs⟩ := List.forall_mem_cons.1 h
    cases xs with
    | nil => simp [hx]
    | cons y xs =>
      rw [List.intersperse_cons_cons, List.filter_cons_of_pos hx,
        List.filter_cons_of_neg (by simp [hsep]), ih hxs]

theorem mem_of_mem_intersperse {sep : α} (h : x ∈ xs.intersperse sep) : x ∈ xs ∨ x = sep := by
  induction xs with
  | nil => exact .inl h
  | cons y xs ih =>
    cases xs with
    | nil => exact .inl h
    | cons z xs =>
      rw [List.intersperse_cons_cons, List.mem_cons, List.mem_cons] at h
      obtain rfl | rfl | h := h
      · exact .inl List.mem_cons_self
      · exact .inr rfl
      · exact (ih h).imp_left (List.mem_cons_of_mem y)

theorem take_drop_eq_extract (xs : List α) (start count : Nat) :
    (xs.drop start).take count
      = xs.extract (min start xs.length) (min (start + count) xs.length) := by
  rw [List.extract_eq_take_drop]
  by_cases hle : start ≤ xs.length
  · rw [Nat.min_eq_left hle, List.take_eq_take_iff, List.length_drop]
    omega
  · rw [List.drop_eq_nil_of_le (by omega), List.drop_eq_nil_of_le (by omega), List.take_nil,
      List.take_nil]

theorem length_takeWhile_lt_of_mem {p : α → Bool} (h : ∃ x ∈ xs, ¬ p x = true) :
    (xs.takeWhile p).length < xs.length := by
  obtain ⟨x, hx, hstray⟩ := h
  apply Nat.lt_of_not_le
  intro hle
  have hself : xs.takeWhile p = xs := (List.takeWhile_prefix p).eq_of_length_le hle
  exact hstray (List.takeWhile_eq_self_iff.1 hself x hx)

end MipsWord
