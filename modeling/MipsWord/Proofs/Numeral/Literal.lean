import MipsWord.Numeral
import MipsWord.Proofs.Text.Run

namespace MipsWord.Literal

open Text

/--
How a text is read as a number: an optional minus sign, an optional base marker, and at least one digit of
the base, up to the first character that is no such digit. Without a marker the base is decimal.
-/
structure Reads (literal : Literal) (text : List Char) : Prop where
  eq_append : text = literal.consumed ++ literal.rest
  ne_nil : literal.digits ≠ []
  isDigit : ∀ c ∈ literal.digits, literal.base.isDigit c = true
  stops : Stops literal.base.isDigit literal.rest
  unmarked : literal.base = .decimal →
    ∀ base : Base, base.marker ≠ [] → ¬ base.marker <+: literal.digits ++ literal.rest

variable {literal : Literal} {text body : List Char} {base : Base}

theorem sign_append (h : Stops (· == '-') body) (negative : Bool) :
    sign ((if negative then ['-'] else []) ++ body) = (negative, body) := by
  cases negative with
  | true => rfl
  | false =>
    rw [if_neg Bool.false_ne_true, List.nil_append]
    unfold sign
    split
    · simp at h
    · rfl

theorem baseOf_append (h : base = .decimal → ∀ b : Base, b.marker ≠ [] → ¬ b.marker <+: body) :
    baseOf (base.marker ++ body) = (base, body) := by
  cases base with
  | binary => rfl
  | hexadecimal => rfl
  | decimal =>
    have hunmarked := h rfl
    show baseOf body = (.decimal, body)
    unfold baseOf
    split
    · next rest =>
      exact absurd (List.prefix_append _ rest) (hunmarked .hexadecimal (by simp [Base.marker]))
    · next rest =>
      exact absurd (List.prefix_append _ rest) (hunmarked .binary (by simp [Base.marker]))
    · rfl

theorem eq_append_of_sign {negative : Bool} (h : sign text = (negative, body)) :
    text = (if negative then ['-'] else []) ++ body := by
  unfold sign at h
  split at h
  all_goals
    simp only [Prod.mk.injEq] at h
    obtain ⟨rfl, rfl⟩ := h
    rfl

theorem eq_append_of_baseOf (h : baseOf text = (base, body)) :
    text = base.marker ++ body ∧
      (base = .decimal → ∀ b : Base, b.marker ≠ [] → ¬ b.marker <+: body) := by
  unfold baseOf at h
  split at h
  · simp only [Prod.mk.injEq] at h
    obtain ⟨rfl, rfl⟩ := h
    exact ⟨rfl, by simp⟩
  · simp only [Prod.mk.injEq] at h
    obtain ⟨rfl, rfl⟩ := h
    exact ⟨rfl, by simp⟩
  · next hhex hbin =>
    simp only [Prod.mk.injEq] at h
    obtain ⟨rfl, rfl⟩ := h
    refine ⟨rfl, ?_⟩
    rintro - b hb ⟨rest, rfl⟩
    cases b with
    | binary => exact hbin rest rfl
    | decimal => exact hb rfl
    | hexadecimal => exact hhex rest rfl

theorem isDigit_minus (base : Base) : base.isDigit '-' = false := by
  cases base <;> decide

theorem stops_minus_append {digits : List Char} (hne : digits ≠ [])
    (hdigits : ∀ c ∈ digits, base.isDigit c = true) (rest : List Char) :
    Stops (· == '-') (base.marker ++ (digits ++ rest)) := by
  have hstop : Stops (· == '-') digits := by
    intro c hc
    rw [beq_eq_false_iff_ne]
    rintro rfl
    have hminus := hdigits '-' (List.mem_of_mem_head? hc)
    rw [isDigit_minus] at hminus
    contradiction
  cases base with
  | decimal => exact hstop.append hne
  | binary | hexadecimal => simp [Base.marker]

theorem Reads.stops_minus (h : literal.Reads text) :
    Stops (· == '-') (literal.base.marker ++ (literal.digits ++ literal.rest)) :=
  stops_minus_append h.ne_nil h.isDigit literal.rest

theorem read?_eq_some_iff : read? text = some literal ↔ literal.Reads text := by
  constructor
  · intro h
    unfold read? at h
    split at h
    next negative unsigned hsign =>
    split at h
    next base body hbase =>
    split at h
    · contradiction
    · next digits hne =>
      simp only [Option.some.injEq] at h
      subst h
      obtain ⟨hunsigned, hunmarked⟩ := eq_append_of_baseOf hbase
      constructor
      · rw [eq_append_of_sign hsign, hunsigned, consumed, List.append_assoc, List.append_assoc,
          List.takeWhile_append_dropWhile]
      · exact hne
      · exact List.all_eq_true.1 List.all_takeWhile
      · exact stops_dropWhile
      · rw [List.takeWhile_append_dropWhile]
        exact hunmarked
  · intro h
    unfold read?
    rw [h.eq_append, consumed, List.append_assoc, List.append_assoc, sign_append h.stops_minus]
    simp only [baseOf_append h.unmarked]
    rw [takeWhile_append_of_stops h.isDigit h.stops, dropWhile_append_of_stops h.isDigit h.stops]
    split
    · next hnil => exact absurd hnil h.ne_nil
    · rfl

end MipsWord.Literal
