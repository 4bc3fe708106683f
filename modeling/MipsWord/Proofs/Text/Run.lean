import MipsWord.Text.CharClass

namespace MipsWord.Text

variable {p : Char → Bool} {run rest text : List Char} {c : Char}

def Stops (p : Char → Bool) (text : List Char) : Prop :=
  ∀ c ∈ text.head?, p c = false

@[simp]
theorem stops_nil : Stops p [] := by
  simp [Stops]

@[simp]
theorem stops_cons : Stops p (c :: rest) ↔ p c = false := by
  simp [Stops]

theorem Stops.append (h : Stops p run) (hne : run ≠ []) : Stops p (run ++ rest) := by
  cases run with
  | nil => contradiction
  | cons c run => simpa using h

theorem stops_dropWhile : Stops p (text.dropWhile p) := by
  intro c hc
  have hnot := List.head?_dropWhile_not p text
  rw [Option.mem_def.1 hc] at hnot
  simpa using hnot

theorem takeWhile_append_of_stops (hrun : ∀ c ∈ run, p c = true) (hrest : Stops p rest) :
    (run ++ rest).takeWhile p = run := by
  rw [List.takeWhile_append_of_pos hrun]
  cases rest with
  | nil => simp
  | cons c rest => simp_all

theorem dropWhile_append_of_stops (hrun : ∀ c ∈ run, p c = true) (hrest : Stops p rest) :
    (run ++ rest).dropWhile p = rest := by
  rw [List.dropWhile_append_of_pos hrun]
  cases rest with
  | nil => rfl
  | cons c rest => simp_all

theorem takeWhile_eq_nil_of_stops (h : Stops p text) : text.takeWhile p = [] := by
  simpa using takeWhile_append_of_stops (List.forall_mem_nil _) h

theorem takeWhile_append_stops (run : List Char) (hrest : Stops p rest) :
    (run ++ rest).takeWhile p = run.takeWhile p := by
  induction run with
  | nil => rw [List.nil_append, takeWhile_eq_nil_of_stops hrest, List.takeWhile_nil]
  | cons c run ih => rw [List.cons_append, List.takeWhile_cons, List.takeWhile_cons, ih]

theorem isBlank_eq_false_of_isWordChar (h : isWordChar c = true) : isBlank c = false := by
  cases hblank : isBlank c with
  | false => rfl
  | true =>
    rw [isWordChar_eq_false_of_isBlank hblank] at h
    contradiction

theorem beq_eq_false_of_isBlank {d : Char} (hd : isBlank d = false) (h : isBlank c = true) :
    (c == d) = false := by
  rw [beq_eq_false_iff_ne]
  rintro rfl
  rw [hd] at h
  contradiction

theorem stops_blanks_append (hrun : ∀ c ∈ run, isBlank c = true)
    (hp : ∀ {c}, isBlank c = true → p c = false) (hrest : Stops p rest) : Stops p (run ++ rest) := by
  cases run with
  | nil => simpa using hrest
  | cons c run =>
    rw [List.cons_append, stops_cons]
    apply hp
    apply hrun
    simp

end MipsWord.Text
