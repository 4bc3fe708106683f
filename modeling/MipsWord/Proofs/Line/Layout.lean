import Mathlib.Logic.Relation
import MipsWord.Encode.Basic
import MipsWord.Proofs.Line.Token
import MipsWord.Proofs.Text.Spacing
import MipsWord.Tables.Load

/-!
This module contains the independence of the reading of lines from their layout. Every reader takes the same
from a text as from the text with single spaces for its rows of blanks, so that edits of the layout, in any
number, change nothing about what a line is read as or encoded to.
-/

namespace MipsWord

open Text

namespace Line

variable {text : List Char} {c : Char}

theorem exists_cons_of_not_stops (h : ¬ Stops (· == c) text) : ∃ rest, text = c :: rest := by
  cases text with
  | nil => exact absurd stops_nil h
  | cons d rest =>
    refine ⟨rest, ?_⟩
    simpa [stops_cons] using h

theorem stops_squeeze (hc : (' ' == c) = false) (h : Stops (· == c) text) :
    Stops (· == c) (squeeze text) := by
  cases text with
  | nil => exact stops_nil
  | cons d rest =>
    cases hd : isBlank d with
    | true =>
      rw [squeeze_cons_of_blank hd, stops_cons]
      exact hc
    | false =>
      rw [stops_cons] at h
      rw [squeeze_cons_of_ink hd, stops_cons]
      exact h

theorem word?_squeeze (text : List Char) :
    word? (squeeze text) = (word? text).map fun (token, rest) => (token, squeeze rest) := by
  unfold word?
  rw [takeWhile_squeeze isWordChar_eq_false_of_isBlank, dropWhile_squeeze isWordChar_eq_false_of_isBlank]
  cases text.takeWhile isWordChar <;> rfl

theorem register?_squeeze (text : List Char) :
    register? (squeeze text) = (register? text).map fun (token, rest) => (token, squeeze rest) := by
  by_cases hdollar : Stops (· == '$') text
  · rw [register?_eq_none hdollar, register?_eq_none (stops_squeeze (by decide) hdollar)]
    rfl
  · obtain ⟨rest, rfl⟩ := exists_cons_of_not_stops hdollar
    exact word?_squeeze rest

def unsigned? (sign text : List Char) : Option (String × List Char) :=
  match text.takeWhile isWordChar with
  | [] => none
  | digit :: more =>
    if isDecimalDigit digit then
      some (String.ofList (sign ++ digit :: more), text.dropWhile isWordChar)
    else none

theorem literal?_minus (text : List Char) : literal? ('-' :: text) = unsigned? ['-'] text :=
  rfl

theorem literal?_of_stops (h : Stops (· == '-') text) : literal? text = unsigned? [] text := by
  unfold literal?
  split
  next sign body hsplit =>
  split at hsplit
  · simp at h
  · simp only [Prod.mk.injEq] at hsplit
    obtain ⟨rfl, rfl⟩ := hsplit
    rfl

theorem unsigned?_squeeze (sign text : List Char) :
    unsigned? sign (squeeze text) = (unsigned? sign text).map fun (token, rest) => (token, squeeze rest) := by
  unfold unsigned?
  rw [takeWhile_squeeze isWordChar_eq_false_of_isBlank, dropWhile_squeeze isWordChar_eq_false_of_isBlank]
  cases text.takeWhile isWordChar with
  | nil => rfl
  | cons digit more =>
    dsimp only
    split <;> rfl

theorem literal?_squeeze (text : List Char) :
    literal? (squeeze text) = (literal? text).map fun (token, rest) => (token, squeeze rest) := by
  -- A sign at the start is not a blank and stays there.
  by_cases hminus : Stops (· == '-') text
  · rw [literal?_of_stops hminus, literal?_of_stops (stops_squeeze (by decide) hminus), unsigned?_squeeze]
  · obtain ⟨rest, rfl⟩ := exists_cons_of_not_stops hminus
    rw [squeeze_cons_of_ink (by decide), literal?_minus, literal?_minus, unsigned?_squeeze]

theorem gap?_squeeze (text : List Char) : gap? (squeeze text) = (gap? text).map squeeze := by
  cases text with
  | nil => rfl
  | cons c text =>
    cases hc : isBlank c with
    | true =>
      rw [squeeze_cons_of_blank hc, gap?, gap?, if_pos hc, if_pos (by decide), trimStart_trimStart,
        trimStart_squeeze]
      rfl
    | false =>
      rw [squeeze_cons_of_ink hc, gap?, gap?, if_neg (by simp [hc]), if_neg (by simp [hc])]
      rfl

theorem comma?_squeeze (text : List Char) : comma? (squeeze text) = (comma? text).map squeeze := by
  unfold comma?
  rw [trimStart_squeeze]
  cases trimStart text with
  | nil => rfl
  | cons c rest =>
    by_cases hcomma : c = ','
    · subst hcomma
      exact congrArg some (trimStart_squeeze rest)
    · cases hc : isBlank c with
      | true =>
        rw [squeeze_cons_of_blank hc]
        simp [hcomma]
      | false =>
        rw [squeeze_cons_of_ink hc]
        simp [hcomma]

theorem base?_squeeze (text : List Char) : base? (squeeze text) = base? text := by
  unfold base?
  rw [trimStart_squeeze]
  cases trimStart text with
  | nil => rfl
  | cons c rest =>
    by_cases hopen : c = '('
    · subst hopen
      rw [squeeze_cons_of_ink (by decide)]
      simp only [trimStart_squeeze, register?_squeeze]
      cases register? (trimStart rest) with
      | none => rfl
      | some read =>
        have hclose : isBlank ')' = false := by decide
        simp only [Option.map_some, trimStart_squeeze, squeeze_eq_singleton_iff hclose]
    · cases hc : isBlank c with
      | true =>
        rw [squeeze_cons_of_blank hc]
        simp [hopen]
      | false =>
        rw [squeeze_cons_of_ink hc]
        simp [hopen]

theorem third?_squeeze (a b : String) (text : List Char) :
    third? a b (squeeze text) = third? a b text := by
  unfold third?
  rw [register?_squeeze, literal?_squeeze]
  cases register? text with
  | none =>
    cases literal? text with
    | none => rfl
    | some read =>
      obtain ⟨literal, rest⟩ := read
      cases rest with
      | nil => rfl
      | cons c rest =>
        obtain ⟨d, more, h⟩ := exists_squeeze_cons c rest
        simp [h]
  | some read =>
    obtain ⟨register, rest⟩ := read
    cases rest with
    | nil => rfl
    | cons c rest =>
      obtain ⟨d, more, h⟩ := exists_squeeze_cons c rest
      simp [h]

theorem second?_squeeze (a : String) (text : List Char) : second? a (squeeze text) = second? a text := by
  unfold second?
  rw [register?_squeeze, literal?_squeeze]
  cases register? text with
  | none =>
    cases literal? text with
    | none =>
      dsimp only [Option.map_none]
      rw [base?_squeeze]
    | some read =>
      dsimp only [Option.map_none, Option.map_some]
      rw [base?_squeeze]
  | some read =>
    obtain ⟨register, rest⟩ := read
    cases rest with
    | nil => rfl
    | cons c rest =>
      have hcomma := comma?_squeeze (c :: rest)
      obtain ⟨d, more, h⟩ := exists_squeeze_cons c rest
      rw [h] at hcomma
      simp only [Option.map_some, h, hcomma, Option.bind_map, Function.comp_def, third?_squeeze]

theorem operands?_squeeze (text : List Char) : operands? (squeeze text) = operands? text := by
  unfold operands?
  rw [register?_squeeze, literal?_squeeze]
  cases register? text with
  | none =>
    cases literal? text with
    | none => rfl
    | some read =>
      obtain ⟨literal, rest⟩ := read
      cases rest with
      | nil => rfl
      | cons c rest =>
        obtain ⟨d, more, h⟩ := exists_squeeze_cons c rest
        simp [h]
  | some read =>
    obtain ⟨register, rest⟩ := read
    cases rest with
    | nil => rfl
    | cons c rest =>
      have hcomma := comma?_squeeze (c :: rest)
      obtain ⟨d, more, h⟩ := exists_squeeze_cons c rest
      rw [h] at hcomma
      simp only [Option.map_some, h, hcomma, Option.bind_map, Function.comp_def, second?_squeeze]

theorem ofChars?_squeeze (text : List Char) : ofChars? (squeeze text) = ofChars? text := by
  unfold ofChars?
  rw [word?_squeeze]
  cases word? text with
  | none => rfl
  | some read =>
    dsimp only [Option.map_some]
    simp only [gap?_squeeze, Option.bind_map, Function.comp_def, operands?_squeeze]

end Line

/--
A change of the layout of a text: another case for an ASCII letter, other blanks at one of the ends, or another
row of blanks in place of a row of blanks.
-/
inductive LayoutEdit : List Char → List Char → Prop where
  | letter {c d : Char} (front back : List Char) (hcase : c.toLower = d.toLower) :
    LayoutEdit (front ++ c :: back) (front ++ d :: back)
  | start {s t : List Char} (text : List Char) (hs : IsBlanks s) (ht : IsBlanks t) :
    LayoutEdit (s ++ text) (t ++ text)
  | stop {s t : List Char} (text : List Char) (hs : IsBlanks s) (ht : IsBlanks t) :
    LayoutEdit (text ++ s) (text ++ t)
  | inside {s t : List Char} (front back : List Char) (hs : IsBlanks s) (hsne : s ≠ [])
      (ht : IsBlanks t) (htne : t ≠ []) :
    LayoutEdit (front ++ (s ++ back)) (front ++ (t ++ back))

theorem squeeze_lower_trim_inside {s t : List Char} (front back : List Char) (hs : IsBlanks s)
    (hsne : s ≠ []) (ht : IsBlanks t) (htne : t ≠ []) :
    squeeze (lower (trim (front ++ (s ++ back)))) = squeeze (lower (trim (front ++ (t ++ back)))) := by
  -- A row next to an end is trimmed with it. Any other row stays, and is lower-cased and squeezed on its own.
  by_cases hfront : IsBlanks front
  · rw [trim_blanks_append hfront, trim_blanks_append hfront, trim_blanks_append hs,
      trim_blanks_append ht]
  · by_cases hback : IsBlanks back
    · rw [← List.append_assoc, ← List.append_assoc, trim_append_blanks _ hback,
        trim_append_blanks _ hback, trim_append_blanks _ hs, trim_append_blanks _ ht]
    · rw [trim_append_append hfront hback, trim_append_append hfront hback,
        lower_append_blanks_append _ hs hsne, lower_append_blanks_append _ ht htne]
      apply squeeze_append_congr
      rw [squeeze_blanks_append hs hsne, squeeze_blanks_append ht htne]

theorem LayoutEdit.squeeze_eq {text again : List Char} (h : LayoutEdit text again) :
    squeeze (lower (trim text)) = squeeze (lower (trim again)) := by
  cases h with
  | letter front back hcase =>
    have hmap : ∀ text : List Char, lower (trim (text.map Char.toLower)) = lower (trim text) := by
      intro text
      rw [trim_map_toLower, lower_map_toLower]
    rw [← hmap, ← hmap (_ ++ _ :: _), List.map_append, List.map_append, List.map_cons, List.map_cons,
      hcase]
  | start text hs ht => rw [trim_blanks_append hs, trim_blanks_append ht]
  | stop text hs ht => rw [trim_append_blanks text hs, trim_append_blanks text ht]
  | inside front back hs hsne ht htne => exact squeeze_lower_trim_inside front back hs hsne ht htne

theorem squeeze_eq_of_edits {text again : List Char} (h : Relation.ReflTransGen LayoutEdit text again) :
    squeeze (lower (trim text)) = squeeze (lower (trim again)) := by
  induction h with
  | refl => rfl
  | tail _ hedit ih => rw [ih, hedit.squeeze_eq]

theorem read?_eq_of_edits {text again : String}
    (h : Relation.ReflTransGen LayoutEdit text.toList again.toList) :
    Line.read? again = Line.read? text := by
  unfold Line.read? Line.normalize
  rw [← Line.ofChars?_squeeze, ← squeeze_eq_of_edits h, Line.ofChars?_squeeze]

theorem encode_eq_of_edits {text again : String}
    (h : Relation.ReflTransGen LayoutEdit text.toList again.toList) :
    grammarOf? again = grammarOf? text ∧ ∀ tables, encode tables again = encode tables text := by
  have hread := read?_eq_of_edits h
  constructor
  · unfold grammarOf?
    rw [hread]
  · intro tables
    unfold encode
    rw [hread]

theorem encode_eq_of_edits_spread :
    Relation.ReflTransGen LayoutEdit "lw $t0, 4x($sp)".toList "lW $t0,\t\u3000 4x($sp)\n".toList ∧
      grammarOf? "lW $t0,\t\u3000 4x($sp)\n" = some .loadStore ∧
      encode Tables.builtin "lW $t0,\t\u3000 4x($sp)\n" =
        .accepted "10001111101010000000000000000100" (some "immediate \"4x\" read as 4") := by
  have hletter : LayoutEdit "lw $t0, 4x($sp)".toList "lW $t0, 4x($sp)".toList :=
    .letter ['l'] " $t0, 4x($sp)".toList (by decide : 'w'.toLower = 'W'.toLower)
  have hinside : LayoutEdit "lW $t0, 4x($sp)".toList "lW $t0,\t\u3000 4x($sp)".toList :=
    .inside (s := [' ']) (t := "\t\u3000 ".toList) "lW $t0,".toList "4x($sp)".toList (by decide)
      (by decide) (by decide) (by decide)
  have hstop : LayoutEdit "lW $t0,\t\u3000 4x($sp)".toList "lW $t0,\t\u3000 4x($sp)\n".toList :=
    .stop (s := []) (t := ['\n']) "lW $t0,\t\u3000 4x($sp)".toList (by decide) (by decide)
  have hedits := ((Relation.ReflTransGen.single hletter).tail hinside).tail hstop
  obtain ⟨hgrammar, hencode⟩ := encode_eq_of_edits hedits
  rw [hgrammar, hencode]
  exact ⟨hedits, by decide +kernel, by decide +kernel⟩

end MipsWord
