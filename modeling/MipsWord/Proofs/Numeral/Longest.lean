import MipsWord.Proofs.Numeral.Literal

namespace MipsWord

open Text

inductive IsNumber : List Char → Prop where
  | intro (negative : Bool) (base : Base) {digits : List Char} (hne : digits ≠ [])
      (hdigits : ∀ c ∈ digits, base.isDigit c = true) :
    IsNumber ((if negative then ['-'] else []) ++ base.marker ++ digits)

structure IsLongestNumber (text number : List Char) : Prop where
  isNumber : IsNumber number
  start : number <+: text
  length_le : ∀ other, IsNumber other → other <+: text → other.length ≤ number.length

theorem IsLongestNumber.unique {text x y : List Char} (hx : IsLongestNumber text x)
    (hy : IsLongestNumber text y) : x = y := by
  have hstart := List.prefix_of_prefix_length_le hx.start hy.start (hy.length_le x hx.isNumber hx.start)
  exact hstart.eq_of_length_le (hx.length_le y hy.isNumber hy.start)

namespace Literal

variable {literal : Literal} {text xs ys rest digits : List Char}

theorem length_le_of_prefix {p : Char → Bool} (hdigits : ∀ c ∈ digits, p c = true) (hrest : Stops p rest)
    (h : digits <+: xs ++ rest) : digits.length ≤ xs.length := by
  obtain ⟨more, hmore⟩ := h
  have htake : digits ++ more.takeWhile p = xs.takeWhile p := by
    rw [← List.takeWhile_append_of_pos hdigits, hmore, takeWhile_append_stops xs hrest]
  calc digits.length
    _ ≤ (digits ++ more.takeWhile p).length := by simp
    _ = (xs.takeWhile p).length := by rw [htake]
    _ ≤ xs.length := (List.takeWhile_prefix p).length_le

theorem prefix_of_sign_prefix {a b : Bool} (hne : xs ≠ []) (hxs : Stops (· == '-') xs)
    (hys : Stops (· == '-') ys)
    (h : (if a then ['-'] else []) ++ xs <+: (if b then ['-'] else []) ++ ys) :
    a = b ∧ xs <+: ys := by
  cases a with
  | true =>
    cases b with
    | true => exact ⟨rfl, (List.cons_prefix_cons.1 h).2⟩
    | false =>
      obtain ⟨more, rfl⟩ : ['-'] ++ xs <+: ys := h
      simp at hys
  | false =>
    cases b with
    | true =>
      cases xs with
      | nil => contradiction
      | cons c xs =>
        have hminus : c = '-' := (List.cons_prefix_cons.1 h).1
        simp [hminus] at hxs
    | false => exact ⟨rfl, h⟩

theorem exists_marker_eq {base : Base} (h : base ≠ .decimal) :
    ∃ c, base.marker = ['0', c] ∧ Base.decimal.isDigit c = false := by
  cases base with
  | binary => exact ⟨'b', rfl, by decide⟩
  | decimal => contradiction
  | hexadecimal => exact ⟨'x', rfl, by decide⟩

theorem length_le_of_marker_prefix {a b : Base} (hdigits : ∀ c ∈ digits, a.isDigit c = true)
    (hrest : Stops b.isDigit rest)
    (hunmarked : b = .decimal → ∀ base : Base, base.marker ≠ [] → ¬ base.marker <+: xs ++ rest)
    (h : a.marker ++ digits <+: b.marker ++ (xs ++ rest)) :
    (a.marker ++ digits).length ≤ (b.marker ++ xs).length := by
  by_cases hbase : a = b
  · subst hbase
    rw [List.prefix_append_right_inj] at h
    have hle := length_le_of_prefix hdigits hrest h
    simpa using hle
  · by_cases hb : b = .decimal
    · -- No marker is passed over in favour of its own zero.
      subst hb
      obtain ⟨c, hmarker, -⟩ := exists_marker_eq hbase
      have hne : a.marker ≠ [] := by simp [hmarker]
      exact absurd ((List.prefix_append _ _).trans h) (hunmarked rfl a hne)
    · by_cases ha : a = .decimal
      · -- The letter of a marker is no decimal digit, so that only the zero before it is one.
        subst ha
        obtain ⟨c, hmarker, hc⟩ := exists_marker_eq hb
        rw [hmarker] at h ⊢
        have hzero : digits <+: ['0'] ++ c :: (xs ++ rest) := h
        have hle := length_le_of_prefix hdigits (stops_cons.2 hc) hzero
        refine Nat.le_trans hle ?_
        simp
      · -- Of two markers, neither starts with the other.
        cases a <;> cases b <;> simp [Base.marker] at h hbase ha hb

theorem Reads.length_le (h : literal.Reads text) {other : List Char} (hother : IsNumber other)
    (hstart : other <+: text) : other.length ≤ literal.consumed.length := by
  cases hother with
  | @intro negative base digits hne hdigits =>
    rw [h.eq_append, consumed, List.append_assoc, List.append_assoc, List.append_assoc] at hstart
    have hbody : base.marker ++ digits ≠ [] := by simp [hne]
    have hstop : Stops (· == '-') (base.marker ++ digits) := by
      simpa using stops_minus_append hne hdigits []
    obtain ⟨rfl, hmarker⟩ := prefix_of_sign_prefix hbody hstop h.stops_minus hstart
    have hle := length_le_of_marker_prefix hdigits h.stops h.unmarked hmarker
    simp only [consumed, List.length_append] at hle ⊢
    omega

theorem Reads.isLongestNumber (h : literal.Reads text) : IsLongestNumber text literal.consumed := by
  constructor
  · exact .intro literal.negative literal.base h.ne_nil h.isDigit
  · rw [h.eq_append]
    apply List.prefix_append
  · intro other
    exact h.length_le

theorem Reads.consumed (h : literal.Reads text) : { literal with rest := [] }.Reads literal.consumed := by
  constructor
  · exact (List.append_nil _).symm
  · exact h.ne_nil
  · exact h.isDigit
  · exact stops_nil
  · intro hdecimal base hmarker hstart
    rw [List.append_nil] at hstart
    exact h.unmarked hdecimal base hmarker (hstart.trans (List.prefix_append _ _))

end Literal
end MipsWord
