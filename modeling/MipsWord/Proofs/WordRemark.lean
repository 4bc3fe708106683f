import MipsWord.Proofs.Lists
import MipsWord.Proofs.WordText

namespace MipsWord

structure IsLongestRun (p : Char → Prop) (text run : List Char) : Prop where
  start : run <+: text
  all : ∀ c ∈ run, p c
  length_le : ∀ other, other <+: text → (∀ c ∈ other, p c) → other.length ≤ run.length

theorem isLongestRun_takeWhile {p : Char → Prop} {q : Char → Bool} (h : ∀ c, q c = true ↔ p c)
    (text : List Char) : IsLongestRun p text (text.takeWhile q) := by
  constructor
  · exact List.takeWhile_prefix q
  · intro c hc
    rw [← h]
    exact List.mem_takeWhile_imp hc
  · intro other hstart hall
    obtain ⟨rest, rfl⟩ := hstart
    have hother : ∀ c ∈ other, q c = true := fun c hc => (h c).2 (hall c hc)
    rw [List.takeWhile_append_of_pos hother, List.length_append]
    apply Nat.le_add_right

namespace WordFormat

variable {format : WordFormat} {text value : String} {note : Option String} {c : Char}

def IsDigit : WordFormat → Char → Prop
  | binary, c => c = '0' ∨ c = '1'
  | hex, c => Bits.IsHexDigit c

theorem isDigit_iff : format.base.isDigit c = true ↔ format.IsDigit c := by
  cases format with
  | binary =>
    constructor
    · intro h
      exact isBits_of_isDigit (List.forall_mem_singleton.2 h) c (List.mem_singleton_self c)
    · intro h
      exact isDigit_binary (List.forall_mem_singleton.2 h) c (List.mem_singleton_self c)
  | hex => exact Bits.isDigit_hexadecimal_iff

def IsBody (text body : List Char) : Prop :=
  text = '0' :: 'x' :: body ∨ text = body ∧ ¬ ['0', 'x'] <+: text

theorem isBody_body (text : List Char) : IsBody text (body text) := by
  unfold body
  split
  · left
    rfl
  · next hmarker =>
    right
    refine ⟨rfl, ?_⟩
    rintro ⟨rest, rfl⟩
    exact hmarker rest rfl

section

variable (format : WordFormat) (chars : List Char)

def IsWhole : Prop :=
  chars.length ≤ format.digits ∧ ∀ c ∈ chars, format.IsDigit c

def IsOverlong : Prop :=
  format.digits < chars.length ∧ ∀ c ∈ chars.take format.digits, format.IsDigit c

def IsMixed : Prop :=
  ∃ c ∈ chars.take format.digits, ¬ format.IsDigit c

def taken : List Char :=
  (chars.takeWhile format.base.isDigit).take format.digits

end

variable {chars : List Char}

theorem IsWhole.not_isOverlong (h : format.IsWhole chars) : ¬ format.IsOverlong chars := by
  intro hoverlong
  exact Nat.not_lt.2 h.1 hoverlong.1

theorem not_isWhole_and_not_isOverlong_iff :
    ¬ format.IsWhole chars ∧ ¬ format.IsOverlong chars ↔ format.IsMixed chars := by
  unfold IsWhole IsOverlong IsMixed
  constructor
  · rintro ⟨hwhole, hoverlong⟩
    by_cases hlt : format.digits < chars.length
    · simpa [hlt] using hoverlong
    · have hle : chars.length ≤ format.digits := Nat.not_lt.1 hlt
      rw [List.take_of_length_le hle]
      simpa [hle] using hwhole
  · rintro ⟨c, hc, hstray⟩
    constructor
    · rintro ⟨-, hdigits⟩
      exact hstray (hdigits c (List.mem_of_mem_take hc))
    · rintro ⟨-, hdigits⟩
      exact hstray (hdigits c hc)

theorem taken_eq_take (h : ∀ c ∈ chars.take format.digits, format.IsDigit c) :
    format.taken chars = chars.take format.digits := by
  rw [taken, List.take_takeWhile, List.takeWhile_eq_self_iff]
  intro c hc
  exact isDigit_iff.2 (h c hc)

theorem IsWhole.taken_eq (h : format.IsWhole chars) : format.taken chars = chars := by
  have htake : chars.take format.digits = chars := List.take_of_length_le h.1
  rw [taken_eq_take, htake]
  rw [htake]
  exact h.2

theorem IsOverlong.length_taken (h : format.IsOverlong chars) :
    (format.taken chars).length = format.digits := by
  rw [taken_eq_take h.2, List.length_take, Nat.min_eq_left (Nat.le_of_lt h.1)]

theorem IsMixed.length_taken_lt (h : format.IsMixed chars) :
    (format.taken chars).length < (chars.take format.digits).length := by
  obtain ⟨c, hc, hstray⟩ := h
  rw [← isDigit_iff] at hstray
  rw [taken, List.take_takeWhile]
  exact length_takeWhile_lt_of_mem ⟨c, hc, hstray⟩

/--
The remark on digits at the start of a body, where `value` is made of those that are read.
-/
inductive Remarks (format : WordFormat) (chars : List Char) (value : String) : Option String → Prop where
  | whole (h : format.IsWhole chars) : Remarks format chars value none
  | overlong (h : format.IsOverlong chars) :
    Remarks format chars value (some (format.label ++ " truncated to \"" ++ value ++ "\""))
  | mixed (h : format.IsMixed chars) :
    Remarks format chars value (some ("invalid " ++ format.label ++ " input"))

theorem overlong_ne_mixed (format : WordFormat) (value : String) :
    format.label ++ " truncated to \"" ++ value ++ "\"" ≠ "invalid " ++ format.label ++ " input" := by
  intro h
  have hhead := congrArg (fun remark => remark.toList.head?) h
  cases format <;> simp [label] at hhead

namespace Remarks

variable (h : format.Remarks chars value note)

include h

theorem eq_none_iff : note = none ↔ format.IsWhole chars := by
  cases h with
  | whole hwhole => exact iff_of_true rfl hwhole
  | overlong hoverlong =>
    apply iff_of_false (Option.some_ne_none _)
    intro hwhole
    exact hwhole.not_isOverlong hoverlong
  | mixed hmixed =>
    apply iff_of_false (Option.some_ne_none _)
    exact (not_isWhole_and_not_isOverlong_iff.2 hmixed).1

theorem eq_overlong_iff :
    note = some (format.label ++ " truncated to \"" ++ value ++ "\"") ↔ format.IsOverlong chars := by
  cases h with
  | whole hwhole => exact iff_of_false (Option.some_ne_none _).symm hwhole.not_isOverlong
  | overlong hoverlong => exact iff_of_true rfl hoverlong
  | mixed hmixed =>
    rw [Option.some.injEq]
    apply iff_of_false (overlong_ne_mixed format value).symm
    exact (not_isWhole_and_not_isOverlong_iff.2 hmixed).2

theorem eq_mixed_iff : note = some ("invalid " ++ format.label ++ " input") ↔
    ¬ format.IsWhole chars ∧ ¬ format.IsOverlong chars := by
  cases h with
  | whole hwhole => exact iff_of_false (Option.some_ne_none _).symm fun hnot => hnot.1 hwhole
  | overlong hoverlong =>
    rw [Option.some.injEq]
    exact iff_of_false (overlong_ne_mixed format value) fun hnot => hnot.2 hoverlong
  | mixed hmixed => exact iff_of_true rfl (not_isWhole_and_not_isOverlong_iff.2 hmixed)

end Remarks

theorem read_eq (format : WordFormat) (text : String) {value : String}
    (hvalue : String.ofList (format.taken (body text.toList)) = value) :
    format.read text =
      if format.digits < (body text.toList).length ∧
          (format.taken (body text.toList)).length = format.digits then
        .accepted value (some (format.label ++ " truncated to \"" ++ value ++ "\""))
      else if (format.taken (body text.toList)).length < (body text.toList).length then
        .accepted value (some ("invalid " ++ format.label ++ " input"))
      else
        .accepted value none := by
  rw [← hvalue]
  rfl

theorem exists_read_eq (format : WordFormat) (text : String) :
    ∃ note, format.read text = .accepted (String.ofList (format.taken (body text.toList))) note ∧
      format.Remarks (body text.toList) (String.ofList (format.taken (body text.toList))) note := by
  rw [read_eq format text rfl]
  by_cases hwhole : format.IsWhole (body text.toList)
  · refine ⟨none, ?_, .whole hwhole⟩
    have hle := hwhole.1
    have hlength := congrArg List.length hwhole.taken_eq
    rw [if_neg (by omega), if_neg (by omega)]
  · by_cases hoverlong : format.IsOverlong (body text.toList)
    · refine ⟨_, ?_, .overlong hoverlong⟩
      rw [if_pos ⟨hoverlong.1, hoverlong.length_taken⟩]
    · have hmixed := not_isWhole_and_not_isOverlong_iff.1 ⟨hwhole, hoverlong⟩
      refine ⟨_, ?_, .mixed hmixed⟩
      have hlt := hmixed.length_taken_lt
      rw [List.length_take] at hlt
      rw [if_neg (by omega), if_pos (by omega)]

theorem read_typed_word (format : WordFormat) (text : String) :
    ∃ chars digits value, IsBody text.toList chars ∧ IsLongestRun format.IsDigit chars digits ∧
      value = String.ofList (digits.take format.digits) ∧
      (format.read text).value? = some value ∧ (format.read text).isError = false ∧
      ((format.read text).message? = none ↔ format.IsWhole chars) ∧
      ((format.read text).message? =
          some { text := format.label ++ " truncated to \"" ++ value ++ "\"", severity := .info } ↔
        format.IsOverlong chars) ∧
      ((format.read text).message? =
          some { text := "invalid " ++ format.label ++ " input", severity := .info } ↔
        ¬ format.IsWhole chars ∧ ¬ format.IsOverlong chars) ∧
      (¬ format.IsWhole chars ∧ ¬ format.IsOverlong chars ↔ format.IsMixed chars) ∧
      format.read value = .accepted value none := by
  obtain ⟨note, hread, hremarks⟩ := exists_read_eq format text
  have hvalue := congrArg Outcome.value? hread
  have hmessage : ∀ remark, (format.read text).message? = some { text := remark, severity := .info } ↔
      note = some remark := by
    intro remark
    rw [hread]
    simp [Outcome.message?]
  obtain ⟨hdigits, hle⟩ := isDigit_of_value? hvalue
  refine ⟨body text.toList, (body text.toList).takeWhile format.base.isDigit, _,
    isBody_body text.toList, isLongestRun_takeWhile (fun c => isDigit_iff) _, rfl, hvalue, ?_, ?_, ?_, ?_,
    not_isWhole_and_not_isOverlong_iff, read_of_isDigit hdigits hle⟩
  · exact Outcome.isError_of_value? hvalue
  · rw [hread, ← hremarks.eq_none_iff]
    exact Option.map_eq_none_iff
  · rw [hmessage]
    exact hremarks.eq_overlong_iff
  · rw [hmessage]
    exact hremarks.eq_mixed_iff

example : (hex.read "0x012a4020g").message? =
    some { text := "hex truncated to \"012a4020\"", severity := .info } := by
  rfl

end WordFormat
end MipsWord
