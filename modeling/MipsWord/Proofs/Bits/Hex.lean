import MipsWord.Proofs.Bits.Number
import MipsWord.Text.CharClass

namespace MipsWord.Bits

variable {bits hex group rest : List Char} {c : Char}

def hexDigit (c : Char) : Char :=
  Nat.digitChar ((Base.hexadecimal.digit? c).getD 0)

theorem ofHex_cons (c : Char) (hex : List Char) :
    ofHex (c :: hex) = ofNat 4 ((Base.hexadecimal.digit? c).getD 0) ++ ofHex hex :=
  List.flatMap_cons

theorem length_ofNat_digit (c : Char) :
    (ofNat 4 ((Base.hexadecimal.digit? c).getD 0)).length = 4 :=
  length_ofNat (by decide) (Base.getD_digit?_lt c)

theorem length_ofHex (hex : List Char) : (ofHex hex).length = 4 * hex.length := by
  induction hex with
  | nil => rfl
  | cons c hex ih =>
    rw [ofHex_cons, List.length_append, length_ofNat_digit, ih, List.length_cons]
    omega

theorem isBits_ofHex (hex : List Char) : IsBits (ofHex hex) := by
  intro c hc
  obtain ⟨d, -, hd⟩ := List.mem_flatMap.1 hc
  exact isBits_ofNat _ _ c hd

theorem nibbles_append (hgroup : group.length = 4) (rest : List Char) :
    nibbles (group ++ rest) = group :: nibbles rest := by
  match group, hgroup with
  | [a, b, c, d], _ => rfl

theorem toHex_append (hgroup : group.length = 4) (rest : List Char) :
    toHex (group ++ rest) = Nat.digitChar (toNat group) :: toHex rest := by
  unfold toHex
  rw [nibbles_append hgroup, List.map_cons, padTo_of_le (Nat.le_of_eq hgroup.symm)]

theorem toHex_of_length_le (hne : group ≠ []) (hle : group.length ≤ 4) :
    toHex group = [Nat.digitChar (toNat (padTo 4 group))] := by
  match group, hne, hle with
  | [a], _, _ | [a, b], _, _ | [a, b, c], _, _ | [a, b, c, d], _, _ => rfl

theorem induction_nibbles {motive : List Char → Prop} (nil : motive [])
    (short : ∀ group, group ≠ [] → group.length ≤ 4 → motive group)
    (append : ∀ group rest, group.length = 4 → motive rest → motive (group ++ rest))
    (bits : List Char) : motive bits := by
  fun_induction nibbles bits with
  | case1 a b c d rest ih => exact append [a, b, c, d] rest rfl ih
  | case2 => exact nil
  | case3 group hlong hne =>
    apply short group hne
    rcases group with _ | ⟨a, _ | ⟨b, _ | ⟨c, _ | ⟨d, rest⟩⟩⟩⟩
    · exact absurd rfl hne
    · simp
    · simp
    · simp
    · exact absurd rfl (hlong a b c d rest)

theorem toNat_lt_of_length_eq (hgroup : group.length = 4) : toNat group < Base.hexadecimal.radix := by
  have hlt := toNat_lt group
  rwa [hgroup] at hlt

theorem length_padTo_of_le (hle : group.length ≤ 4) : (padTo 4 group).length = 4 := by
  rw [length_padTo, Nat.max_eq_left hle]

theorem isDigit_of_mem_toHex (bits : List Char) :
    ∀ c ∈ toHex bits, Base.hexadecimal.isDigit c = true := by
  induction bits using induction_nibbles with
  | nil => exact List.forall_mem_nil _
  | short group hne hle =>
    rw [toHex_of_length_le hne hle, List.forall_mem_singleton]
    apply Base.isDigit_digitChar
    exact toNat_lt_of_length_eq (length_padTo_of_le hle)
  | append group rest hgroup ih =>
    rw [toHex_append hgroup, List.forall_mem_cons]
    exact ⟨Base.isDigit_digitChar (toNat_lt_of_length_eq hgroup), ih⟩

theorem toHex_ofHex (hex : List Char) : toHex (ofHex hex) = hex.map hexDigit := by
  induction hex with
  | nil => rfl
  | cons c hex ih => rw [ofHex_cons, toHex_append (length_ofNat_digit c), toNat_ofNat, ih]; rfl

theorem ofNat_digit_digitChar (hgroup : group.length = 4) :
    ofNat 4 ((Base.hexadecimal.digit? (Nat.digitChar (toNat group))).getD 0) = group.map clean := by
  have hne : group ≠ [] := by
    rintro rfl
    contradiction
  rw [Base.digit?_digitChar (toNat_lt_of_length_eq hgroup), Option.getD_some, ← ofNat_toNat hne, hgroup]

theorem padTo_append (width : Nat) (xs ys : List Char) :
    padTo (xs.length + width) (xs ++ ys) = xs ++ padTo width ys := by
  rw [padTo, padTo, List.rightpad, List.rightpad, List.length_append, Nat.add_sub_add_left,
    List.append_assoc]

theorem ofHex_toHex (bits : List Char) :
    ofHex (toHex bits) = padTo (4 * ((bits.length + 3) / 4)) (bits.map clean) := by
  induction bits using induction_nibbles with
  | nil => rfl
  | short group hne hle =>
    have hpos : 0 < group.length := List.length_pos_iff.2 hne
    have hwidth : 4 * ((group.length + 3) / 4) = 4 := by omega
    rw [toHex_of_length_le hne hle, ofHex_cons, ofNat_digit_digitChar (length_padTo_of_le hle),
      map_clean_padTo, hwidth]
    exact List.append_nil _
  | append group rest hgroup ih =>
    have hwidth : 4 * (((group ++ rest).length + 3) / 4) = 4 + 4 * ((rest.length + 3) / 4) := by
      rw [List.length_append]
      omega
    have happend := padTo_append (4 * ((rest.length + 3) / 4)) (group.map clean) (rest.map clean)
    rw [List.length_map, hgroup] at happend
    rw [toHex_append hgroup, ofHex_cons, ofNat_digit_digitChar hgroup, ih, hwidth, List.map_append,
      happend]

theorem length_toHex (bits : List Char) : (toHex bits).length = (bits.length + 3) / 4 := by
  have hlength := congrArg List.length (ofHex_toHex bits)
  rw [length_ofHex, length_padTo, List.length_map] at hlength
  omega

theorem padTo_padTo {n width : Nat} (hle : n ≤ width) (bits : List Char) :
    padTo width (padTo n bits) = padTo width bits := by
  rw [padTo, List.rightpad, length_padTo, padTo, List.rightpad, List.append_assoc,
    List.replicate_append_replicate, padTo, List.rightpad]
  congr 2
  omega

theorem padTo_cons (width : Nat) (c : Char) (text : List Char) :
    padTo (width + 1) (c :: text) = c :: padTo width text := by
  have happend := padTo_append width [c] text
  rwa [List.length_singleton, Nat.add_comm, List.singleton_append] at happend

theorem toHex_replicate_zero (n : Nat) :
    toHex (List.replicate (4 * n) '0') = List.replicate n '0' := by
  induction n with
  | zero => rfl
  | succ n ih =>
    rw [Nat.mul_succ, Nat.add_comm, ← List.replicate_append_replicate,
      toHex_append List.length_replicate, ih]
    rfl

theorem toHex_padTo (digits : Nat) (bits : List Char) :
    toHex (padTo (4 * digits) bits) = padTo digits (toHex bits) := by
  induction bits using induction_nibbles generalizing digits with
  | nil => exact toHex_replicate_zero digits
  | short group hne hle =>
    cases digits with
    | zero => rw [padTo_of_le (Nat.zero_le _), padTo_of_le (Nat.zero_le _)]
    | succ digits =>
      have hgroup := length_padTo_of_le hle
      have happend := padTo_append (4 * digits) (padTo 4 group) []
      rw [hgroup, List.append_nil, padTo_padTo (by omega)] at happend
      rw [Nat.mul_succ, Nat.add_comm, happend, toHex_append hgroup, toHex_of_length_le hne hle,
        padTo_cons]
      exact congrArg _ (toHex_replicate_zero digits)
  | append group rest hgroup ih =>
    cases digits with
    | zero => rw [padTo_of_le (Nat.zero_le _), padTo_of_le (Nat.zero_le _)]
    | succ digits =>
      have happend := padTo_append (4 * digits) group rest
      rw [hgroup] at happend
      rw [Nat.mul_succ, Nat.add_comm, happend, toHex_append hgroup, toHex_append hgroup, ih,
        padTo_cons]

theorem toHex_padTo_whole (bits : List Char) :
    toHex (padTo (4 * ((bits.length + 3) / 4)) bits) = toHex bits := by
  rw [toHex_padTo]
  exact padTo_of_le (Nat.le_of_eq (length_toHex bits).symm)

theorem hexDigit_of_isDigit (h : Base.hexadecimal.isDigit c = true) : hexDigit c = c.toLower := by
  -- All digits are ASCII characters, so that it suffices to look at these one by one.
  have hall : ∀ c : Char, c.toNat < 128 → Base.hexadecimal.isDigit c = true →
      hexDigit c = c.toLower := by
    apply Text.forall_char_of_lt
    decide +kernel
  exact hall c (Base.toNat_lt_of_isDigit h) h

def IsHexDigit (c : Char) : Prop :=
  ('0' ≤ c ∧ c ≤ '9') ∨ ('a' ≤ c ∧ c ≤ 'f') ∨ ('A' ≤ c ∧ c ≤ 'F')

instance : DecidablePred IsHexDigit :=
  fun _ => inferInstanceAs (Decidable (_ ∨ _ ∨ _))

theorem IsHexDigit.toNat_lt (h : IsHexDigit c) : c.toNat < 128 := by
  have hle : ∀ {a b : Char}, a ≤ b → a.toNat ≤ b.toNat := fun hab => hab
  obtain ⟨-, hlast⟩ | ⟨-, hlast⟩ | ⟨-, hlast⟩ := h
  all_goals exact Nat.lt_of_le_of_lt (hle hlast) (by decide)

theorem isDigit_hexadecimal_iff : Base.hexadecimal.isDigit c = true ↔ IsHexDigit c := by
  have hall : ∀ c : Char, c.toNat < 128 → (Base.hexadecimal.isDigit c = true ↔ IsHexDigit c) := by
    apply Text.forall_char_of_lt
    decide +kernel
  constructor
  · intro h
    exact (hall c (Base.toNat_lt_of_isDigit h)).1 h
  · intro h
    exact (hall c h.toNat_lt).2 h

theorem hexDigit_eq (c : Char) : hexDigit c = if IsHexDigit c then c.toLower else '0' := by
  split
  · next hdigit => exact hexDigit_of_isDigit (isDigit_hexadecimal_iff.2 hdigit)
  · next hdigit =>
    rw [← isDigit_hexadecimal_iff, Base.isDigit, Option.not_isSome_iff_eq_none] at hdigit
    rw [hexDigit, hdigit]
    rfl

theorem toNat_ofHex (hex : List Char) : toNat (ofHex hex) = Base.hexadecimal.toNat hex := by
  induction hex using List.reverseRecOn with
  | nil => rfl
  | append_singleton hex c ih =>
    have happend : ofHex (hex ++ [c]) = ofHex hex ++ ofNat 4 ((Base.hexadecimal.digit? c).getD 0) := by
      rw [ofHex, List.flatMap_append, List.flatMap_singleton, ofHex]
    rw [happend, toNat_append, length_ofNat_digit, ih, toNat_ofNat, Base.toNat_concat, Nat.mul_comm]
    rfl

theorem value_ofHex (hle : hex.length ≤ 8) : value (ofHex hex) = Base.hexadecimal.toNat hex := by
  have hlength : (ofHex hex).length ≤ wordBits := by
    rw [length_ofHex]
    exact Nat.mul_le_mul_left 4 hle
  rw [value_eq_toNat hlength, toNat_ofHex]

theorem exists_ofHex_toHex_eq_append (bits : List Char) :
    ∃ zeros < 4, 4 ∣ bits.length + zeros ∧
      ofHex (toHex bits) = bits.map clean ++ List.replicate zeros '0' := by
  refine ⟨4 * ((bits.length + 3) / 4) - bits.length, by omega, ?_, ?_⟩
  · exact ⟨(bits.length + 3) / 4, by omega⟩
  · rw [ofHex_toHex, padTo, List.rightpad, List.length_map]

theorem hex_bits_inverse :
    (∀ hex : List Char,
      (ofHex hex).length = 4 * hex.length ∧ IsBits (ofHex hex) ∧
        toHex (ofHex hex) = hex.map (fun c => if IsHexDigit c then c.toLower else '0') ∧
        (hex.length ≤ 8 → value (ofHex hex) =
          Nat.ofDigits 16 (hex.reverse.map fun c => (Base.hexadecimal.digit? c).getD 0))) ∧
      ∀ bits : List Char, ∃ zeros < 4, 4 ∣ bits.length + zeros ∧
        ofHex (toHex bits) = bits.map clean ++ List.replicate zeros '0' := by
  refine ⟨?_, exists_ofHex_toHex_eq_append⟩
  intro hex
  refine ⟨length_ofHex hex, isBits_ofHex hex, ?_, ?_⟩
  · rw [toHex_ofHex]
    apply List.map_congr_left
    intro c _
    exact hexDigit_eq c
  · intro hle
    rw [value_ofHex hle, Base.toNat_eq_ofDigits]
    rfl

theorem hex_bits_inverse_capital :
    toHex (ofHex "xAf".toList) = "0af".toList ∧ value (ofHex "xAf".toList) = 175 ∧
      ofHex (toHex "1o111".toList) = "10111000".toList := by
  obtain ⟨hhex, hbits⟩ := hex_bits_inverse
  obtain ⟨-, -, hback, hvalue⟩ := hhex "xAf".toList
  obtain ⟨zeros, hlt, hdvd, htext⟩ := hbits "1o111".toList
  have hzeros : zeros = 3 := by
    have hdvd : 4 ∣ 5 + zeros := hdvd
    omega
  refine ⟨?_, ?_, ?_⟩
  · rw [hback]
    decide
  · rw [hvalue (by decide)]
    decide
  · rw [htext, hzeros]
    decide

end MipsWord.Bits
