import MipsWord.Proofs.Tables.Acceptance

/-!
This module contains the scan for the first entry that conflicts with those before it. What it reports depends
only on the shortest prefix of the list that is inconsistent, and it reports on the last entry of that prefix.
-/

namespace MipsWord

variable {specs : List Spec} {registers : List Register}

/--
The entry `x` completes the shortest prefix of the list that does not have the property.
-/
structure Breaks {α : Type} (P : List α → Prop) (xs earlier : List α) (x : α) : Prop where
  start : earlier ++ [x] <+: xs
  not : ¬ P (earlier ++ [x])
  length_le : ∀ ys, ys <+: xs → ¬ P ys → (earlier ++ [x]).length ≤ ys.length

section Scan

variable {α ε : Type} {conflict? : List α → α → Option ε} {xs ys before : List α} {x : α} {e : ε}

theorem scan?_append (before xs ys : List α) :
    scan? conflict? before (xs ++ ys) =
      (scan? conflict? before xs).or (scan? conflict? (before ++ xs) ys) := by
  induction xs generalizing before with
  | nil => rw [List.nil_append, List.append_nil, scan?, Option.none_or]
  | cons x xs ih =>
    rw [List.cons_append, scan?, scan?]
    split
    · rfl
    · rw [ih, List.append_assoc, List.singleton_append]

theorem scan?_singleton (before : List α) (x : α) :
    scan? conflict? before [x] = conflict? before x := by
  unfold scan?
  split
  · next h => rw [h]
  · next h => rw [h, scan?]

theorem scan?_eq_none_of_start (hstart : ys <+: xs) (h : scan? conflict? before xs = none) :
    scan? conflict? before ys = none := by
  obtain ⟨rest, rfl⟩ := hstart
  rw [scan?_append, Option.or_eq_none_iff] at h
  exact h.1

theorem scan?_eq_some_of_start (hbefore : scan? conflict? [] before = none)
    (hconflict : conflict? before x = some e) (hstart : before ++ [x] <+: xs) :
    scan? conflict? [] xs = some e := by
  obtain ⟨rest, rfl⟩ := hstart
  rw [scan?_append, scan?_append, hbefore, Option.none_or, List.nil_append, scan?_singleton,
    hconflict, Option.some_or]

theorem exists_of_scan?_eq_some (h : scan? conflict? before xs = some e) :
    ∃ ys x, ys ++ [x] <+: xs ∧ scan? conflict? before ys = none ∧
      conflict? (before ++ ys) x = some e := by
  induction xs generalizing before with
  | nil => simp [scan?] at h
  | cons x xs ih =>
    unfold scan? at h
    split at h
    · next error hconflict =>
      cases h
      exact ⟨[], x, ⟨xs, rfl⟩, rfl, by rwa [List.append_nil]⟩
    · next hconflict =>
      obtain ⟨ys, y, hstart, hys, hy⟩ := ih h
      refine ⟨x :: ys, y, List.cons_prefix_cons.2 ⟨rfl, hstart⟩, ?_, ?_⟩
      · rw [scan?, hconflict]
        exact hys
      · rwa [List.append_assoc, List.singleton_append] at hy

theorem exists_breaks {P : List α → Prop} {Refused : List α → α → ε → Prop}
    (hP : ∀ ys, scan? conflict? [] ys = none ↔ P ys)
    (hRefused : ∀ before x e, P before → (conflict? before x = some e ↔ Refused before x e))
    (h : ¬ P xs) :
    ∃ before x e, Breaks P xs before x ∧ (∀ other, Refused before x other ↔ other = e) ∧
      ∀ ys, before ++ [x] <+: ys → scan? conflict? [] ys = some e := by
  rw [← hP, ← Ne, Option.ne_none_iff_exists'] at h
  obtain ⟨e, hscan⟩ := h
  obtain ⟨before, x, hstart, hbefore, hconflict⟩ := exists_of_scan?_eq_some hscan
  rw [List.nil_append] at hconflict
  refine ⟨before, x, e, ⟨hstart, ?_, ?_⟩, ?_, ?_⟩
  · rw [← hP, scan?_eq_some_of_start hbefore hconflict List.prefix_rfl]
    exact Option.some_ne_none e
  · -- A prefix that is not longer than `before` is a prefix of it, where nothing is found.
    intro ys hys hnot
    rw [← hP] at hnot
    rw [List.length_append, List.length_singleton]
    apply Nat.lt_of_not_le
    intro hle
    have hshorter : ys <+: before :=
      List.prefix_of_prefix_length_le hys ((List.prefix_append before [x]).trans hstart) hle
    exact hnot (scan?_eq_none_of_start hshorter hbefore)
  · intro other
    rw [← hRefused before x other ((hP before).1 hbefore), hconflict, Option.some.injEq, eq_comm]
  · intro ys hys
    exact scan?_eq_some_of_start hbefore hconflict hys

end Scan

theorem scan?_specs_eq_none_iff (specs : List Spec) :
    scan? Spec.conflict? [] specs = none ↔ Consistent specs [] := by
  rw [← firstConflict?_eq_none_iff, firstConflict?]
  split
  · next h => simp [h]
  · next h => simp [h, scan?]

theorem scan?_registers_eq_none_iff (registers : List Register) :
    scan? Register.conflict? [] registers = none ↔ Consistent [] registers := by
  rw [← firstConflict?_eq_none_iff]
  rfl

theorem consistent_iff : Consistent specs registers ↔ Consistent specs [] ∧ Consistent [] registers := by
  rw [← firstConflict?_eq_none_iff, ← scan?_specs_eq_none_iff, ← scan?_registers_eq_none_iff,
    firstConflict?]
  split
  · next h => simp [h]
  · next h => simp [h]

theorem Consistent.of_start {entries : List Spec} (h : Consistent specs []) (hstart : entries <+: specs) :
    Consistent entries [] := by
  rw [← scan?_specs_eq_none_iff] at h ⊢
  exact scan?_eq_none_of_start hstart h

end MipsWord
