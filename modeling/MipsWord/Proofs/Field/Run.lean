import MipsWord.Field
import MipsWord.Proofs.Lists

/-!
This module contains runs of a cursor over a text. The cursor counts characters, but a text is cut at bytes,
which is only possible where a character begins or where the text ends.
-/

namespace MipsWord
namespace Text

variable {text front back : String} {byte : Nat}

/--
The parts of a text before and after a byte, if the text can be cut there.
-/
def splitAt? (text : String) (byte : Nat) : Option (String × String) :=
  if h : String.Pos.Raw.IsValid text ⟨byte⟩ then
    some ((text.sliceTo (text.pos ⟨byte⟩ h)).copy, (text.sliceFrom (text.pos ⟨byte⟩ h)).copy)
  else
    none

def starts (start : Nat) : List Char → List Nat
  | [] => []
  | c :: cs => start :: starts (start + c.utf8Size) cs

def byteOf (text : String) (index : Nat) : Nat :=
  (starts 0 text.toList)[index]?.getD text.utf8ByteSize

def cuts? (text : String) : List Nat → Option (List String × String)
  | [] => some ([], text)
  | count :: counts => do
    let (piece, rest) ← splitAt? text (byteOf text count)
    let (pieces, rest) ← cuts? rest counts
    return (piece :: pieces, rest)

theorem splitAt?_eq_some_iff :
    splitAt? text byte = some (front, back) ↔ text = front ++ back ∧ front.utf8ByteSize = byte := by
  constructor
  · intro h
    unfold splitAt? at h
    split at h
    · next hvalid =>
      obtain ⟨rfl, rfl⟩ := Prod.mk.inj (Option.some.inj h)
      have hsplits := (text.pos ⟨byte⟩ hvalid).splits
      refine ⟨hsplits.eq_append, ?_⟩
      exact congrArg String.Pos.Raw.byteIdx hsplits.offset_eq_rawEndPos.symm
    · cases h
  · rintro ⟨rfl, rfl⟩
    have hvalid : String.Pos.Raw.IsValid (front ++ back) ⟨front.utf8ByteSize⟩ :=
      String.Pos.Raw.isValid_iff_exists_append.2 ⟨front, back, rfl, rfl⟩
    have hsplits : ((front ++ back).pos ⟨front.utf8ByteSize⟩ hvalid).Splits front back := ⟨rfl, rfl⟩
    rw [splitAt?, dif_pos hvalid, hsplits.copy_sliceTo_eq, hsplits.copy_sliceFrom_eq]

example : splitAt? "é" 1 = none := by
  decide

theorem getD_starts (start index : Nat) (chars : List Char) :
    (starts start chars)[index]?.getD (start + (String.ofList chars).utf8ByteSize)
      = start + (String.ofList (chars.take index)).utf8ByteSize := by
  induction chars generalizing start index with
  | nil => simp [starts]
  | cons c cs ih =>
    cases index with
    | zero => simp [starts]
    | succ index =>
      rw [starts, List.getElem?_cons_succ, List.take_succ_cons]
      simp only [String.ofList_cons, String.utf8ByteSize_append, String.utf8ByteSize_singleton,
        ← Nat.add_assoc]
      exact ih (start + c.utf8Size) index

theorem byteOf_eq (text : String) (index : Nat) :
    byteOf text index = (String.ofList (text.toList.take index)).utf8ByteSize := by
  have hstarts := getD_starts 0 index text.toList
  rw [Nat.zero_add, Nat.zero_add, String.ofList_toList] at hstarts
  exact hstarts

theorem splitAt?_byteOf (text : String) (index : Nat) :
    splitAt? text (byteOf text index) =
      some (String.ofList (text.toList.take index), String.ofList (text.toList.drop index)) := by
  rw [splitAt?_eq_some_iff]
  constructor
  · rw [← String.ofList_append, List.take_append_drop, String.ofList_toList]
  · exact (byteOf_eq text index).symm

end Text

namespace Cursor

inductive Step where
  | bits (count : Nat)
  | field (name : FieldName) (interpret : Interpreter)

inductive Piece where
  | bits (chars : List Char)
  | field (field : Field)
  deriving Repr, DecidableEq

def Step.count : Step → Nat
  | .bits count => count
  | .field name _ => name.width

def Step.piece : Step → List Char → Piece
  | .bits _, chars => .bits chars
  | .field name interpret, chars => .field (Field.ofBits name chars interpret)

def Piece.chars : Piece → List Char
  | .bits chars => chars
  | .field taken => taken.rawBits.toList

def step (cursor : Cursor) : Step → Piece × Cursor
  | .bits count =>
    let (chars, cursor) := cursor.take count
    (.bits chars, cursor)
  | .field name interpret =>
    let (field, cursor) := cursor.field name interpret
    (.field field, cursor)

def run (cursor : Cursor) : List Step → List Piece × Cursor
  | [] => ([], cursor)
  | step :: steps =>
    let (piece, cursor) := cursor.step step
    let (pieces, cursor) := cursor.run steps
    (piece :: pieces, cursor)

def total (steps : List Step) : Nat :=
  steps.foldr (fun step sum => step.count + sum) 0

theorem Step.chars_piece (step : Step) (chars : List Char) : (step.piece chars).chars = chars := by
  cases step with
  | bits count => rfl
  | field name interpret => exact String.toList_ofList

theorem step_eq (cursor : Cursor) (step : Step) :
    cursor.step step =
      (step.piece (cursor.rest.take step.count), { rest := cursor.rest.drop step.count }) := by
  cases step with
  | bits count => rfl
  | field name interpret => rfl

theorem run_cons (cursor : Cursor) (step : Step) (steps : List Step) :
    cursor.run (step :: steps) =
      (step.piece (cursor.rest.take step.count)
          :: ((Cursor.mk (cursor.rest.drop step.count)).run steps).1,
        ((Cursor.mk (cursor.rest.drop step.count)).run steps).2) := by
  rw [run, step_eq]

theorem length_run (cursor : Cursor) (steps : List Step) :
    (cursor.run steps).1.length = steps.length := by
  induction steps generalizing cursor with
  | nil => rfl
  | cons step steps ih => rw [run_cons, List.length_cons, ih, List.length_cons]

theorem rest_run (cursor : Cursor) (steps : List Step) :
    (cursor.run steps).2.rest = cursor.rest.drop (total steps) := by
  induction steps generalizing cursor with
  | nil => rfl
  | cons step steps ih =>
    rw [run_cons, ih, List.drop_drop]
    rfl

theorem flatMap_chars_run (cursor : Cursor) (steps : List Step) :
    (cursor.run steps).1.flatMap Piece.chars = cursor.rest.take (total steps) := by
  induction steps generalizing cursor with
  | nil => rfl
  | cons step steps ih =>
    rw [run_cons, List.flatMap_cons, Step.chars_piece, ih, ← List.take_add]
    rfl

theorem getElem?_run (cursor : Cursor) (steps : List Step) (i : Nat) :
    (cursor.run steps).1[i]? = steps[i]?.map fun step =>
      step.piece ((cursor.rest.drop (total (steps.take i))).take step.count) := by
  induction steps generalizing cursor i with
  | nil => rfl
  | cons step steps ih =>
    rw [run_cons]
    cases i with
    | zero => rfl
    | succ i =>
      rw [List.getElem?_cons_succ, List.getElem?_cons_succ, ih]
      simp only [List.drop_drop]
      rfl

theorem pairwise_run (cursor : Cursor) (steps : List Step) :
    (steps.zip (cursor.run steps).1).Pairwise fun earlier later =>
      earlier.2.chars.length < earlier.1.count → later.2.chars = [] := by
  induction steps generalizing cursor with
  | nil => exact List.Pairwise.nil
  | cons step steps ih =>
    rw [run_cons, List.zip_cons_cons, List.pairwise_cons]
    refine ⟨?_, ih _⟩
    intro later hlater hshort
    -- The text ends within what this step was to take, so that the rest of the run is on an empty text.
    simp only [Step.chars_piece, List.length_take] at hshort
    have hrest : cursor.rest.drop step.count = [] := List.drop_eq_nil_of_le (by omega)
    have hpieces := flatMap_chars_run (Cursor.mk (cursor.rest.drop step.count)) steps
    rw [hrest, List.take_nil, List.flatMap_eq_nil_iff] at hpieces
    rw [hrest] at hlater
    exact hpieces later.2 (List.of_mem_zip hlater).2

theorem cuts?_run (text : String) (steps : List Step) :
    Text.cuts? text (steps.map Step.count) =
      some (((Cursor.mk text.toList).run steps).1.map fun piece => String.ofList piece.chars,
        String.ofList ((Cursor.mk text.toList).run steps).2.rest) := by
  induction steps generalizing text with
  | nil =>
    rw [run, String.ofList_toList]
    rfl
  | cons step steps ih =>
    rw [List.map_cons, Text.cuts?, Text.splitAt?_byteOf, run_cons]
    simp only [Option.bind_eq_bind, Option.bind_some]
    rw [ih, String.toList_ofList]
    simp [Step.chars_piece]

structure Divides (text : String) (steps : List Step) (pieces : List Piece) (rest : List Char) :
    Prop where
  length : pieces.length = steps.length
  -- The steps before a step end where it begins, or at the end of the text if this is too short for them.
  place : ∀ i step, steps[i]? = some step → ∃ piece, pieces[i]? = some piece ∧
    piece = step.piece piece.chars ∧
    piece.chars = text.toList.extract (min (total (steps.take i)) text.toList.length)
      (min (total (steps.take i) + step.count) text.toList.length)
  concat : pieces.flatMap Piece.chars = text.toList.take (total steps)
  whole : text.toList.length ≤ total steps → pieces.flatMap Piece.chars = text.toList
  append : pieces.flatMap Piece.chars ++ rest = text.toList
  dry : (steps.zip pieces).Pairwise fun earlier later =>
    earlier.2.chars.length < earlier.1.count → later.2.chars = []
  -- The same pieces are found by counting the bytes of characters, so that none of these is divided.
  cuts : Text.cuts? text (steps.map Step.count)
    = some (pieces.map fun piece => String.ofList piece.chars, String.ofList rest)

theorem run_divides_text (text : String) (steps : List Step) :
    ∃ pieces rest, (Cursor.mk text.toList).run steps = (pieces, { rest }) ∧
      Divides text steps pieces rest := by
  have hpiece := getElem?_run (Cursor.mk text.toList) steps
  have hconcat := flatMap_chars_run (Cursor.mk text.toList) steps
  refine ⟨((Cursor.mk text.toList).run steps).1, ((Cursor.mk text.toList).run steps).2.rest, rfl, ?_⟩
  constructor
  · exact length_run ..
  · intro i step hstep
    rw [hpiece, hstep]
    refine ⟨_, rfl, ?_, ?_⟩
    · rw [Step.chars_piece]
    · rw [Step.chars_piece, take_drop_eq_extract]
  · exact hconcat
  · intro hle
    rw [hconcat, List.take_of_length_le hle]
  · rw [hconcat, rest_run, List.take_append_drop]
  · exact pairwise_run ..
  · exact cuts?_run ..

example : (Cursor.mk "1é001".toList).run [.bits 2, .field .rs fun _ => none, .bits 1] =
    ([.bits ['1', 'é'], .field { name := .rs, rawBits := "001", value := 4, display := "unknown" },
      .bits []], { rest := [] }) := by
  decide

end Cursor
end MipsWord
