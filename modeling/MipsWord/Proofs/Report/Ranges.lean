import MipsWord.Inspect
import MipsWord.Proofs.Instruction.Decode
import MipsWord.Tables.Load

namespace MipsWord

namespace Report

variable {role : FieldName → Role} {names : List FieldName} {field : FieldName → Field} {start : Nat}

def Tiles (start stop : Nat) : List FieldReport → Prop
  | [] => start = stop
  | field :: rest => field.start = start ∧ Tiles field.stop stop rest

theorem tiles_place (role : FieldName → Role) (start : Nat) (fields : List Field) :
    Tiles start (start + fields.foldr (fun field sum => field.width + sum) 0)
      (place role start fields) := by
  induction fields generalizing start with
  | nil => rfl
  | cons field rest ih =>
    refine ⟨rfl, ?_⟩
    rw [List.foldr_cons, ← Nat.add_assoc]
    apply ih

theorem map_role_place (role : FieldName → Role) (start : Nat) (fields : List Field) :
    (place role start fields).map (·.role) = fields.map fun field => role field.name := by
  induction fields generalizing start with
  | nil => rfl
  | cons field rest ih => simp [place, ih]

theorem place_map (hfield : ∀ name, (field name).name = name) (h : Contiguous start names) :
    place role start (names.map field) = names.map fun name =>
      { field := field name, role := role name, start := name.offset,
        stop := name.offset + name.width } := by
  induction names generalizing start with
  | nil => rfl
  | cons name names ih =>
    obtain ⟨rfl, hrest⟩ := h
    rw [List.map_cons, List.map_cons, place, Field.width, hfield, ih hrest]

end Report

structure FieldReport.Shows (report : FieldReport) (text : List Char) : Prop where
  stop : report.stop = report.start + report.field.width
  rawBits : report.field.rawBits.toList = text.extract report.start report.stop
  value : report.field.value =
    Bits.toNat (Bits.padTo report.field.width (text.extract report.start report.stop))

structure Report.Divides (report : Report) (instruction : Instruction) (text : List Char) : Prop where
  fields : report.fields.map (·.field) = instruction.fields
  roles : report.fields.map (·.role) = instruction.roles
  tiles : Tiles 0 32 report.fields
  bits : report.bits.toList = text.take 32
  shows : ∀ field ∈ report.fields, field.Shows report.bits.toList
  truncated : ∀ field ∈ report.fields, field.field.isTruncated = true ↔ text.length < field.stop
  padding : ∀ c ∈ report.padding.toList, c = '0'
  length : report.padding.toList.length + report.bits.toList.length = 32

theorem FieldName.extract_take (name : FieldName) (bits : List Char) :
    (bits.take wordBits).extract name.offset (name.offset + name.width) = name.slice bits := by
  rw [List.extract_eq_take_drop, Nat.add_sub_cancel_left]
  exact name.slice_take bits

section Decoded

variable (tables : Tables) (settings : Settings) (word : String) (message : Option Diagnostic)

theorem Report.bits_decode :
    (ofInstruction (decode tables settings word) message).bits.toList = word.toList.take wordBits := by
  rw [← rawBits_decode tables settings word]
  exact String.toList_ofList

theorem Report.padding_decode :
    (ofInstruction (decode tables settings word) message).padding.toList
      = Bits.zeroPadding (word.toList.take wordBits) := by
  rw [← rawBits_decode tables settings word]
  exact String.toList_ofList

theorem Report.fields_decode :
    (ofInstruction (decode tables settings word) message).fields =
      (layout (tables.formatOf? word.toList)).map fun name =>
        { field := Field.ofBits name (name.slice word.toList) (Reading.ofField tables settings
            ((tables.specOf? word.toList).any (·.hasUnsignedImmediate)) name)
          role := (decode tables settings word).roleOf name
          start := name.offset
          stop := name.offset + name.width } := by
  unfold ofInstruction
  rw [MipsWord.fields_decode]
  exact place_map (fun _ => rfl) (contiguous_layout _)

theorem Report.tiles_decode :
    Tiles 0 32 (ofInstruction (decode tables settings word) message).fields := by
  have htiles := tiles_place (decode tables settings word).roleOf 0
    (decode tables settings word).fields
  have hsum := bitLength_decode tables settings word
  unfold Instruction.bitLength at hsum
  rw [hsum, Nat.zero_add] at htiles
  exact htiles

variable {tables settings word message} {field : FieldReport}

theorem FieldReport.shows_decode
    (h : field ∈ (Report.ofInstruction (decode tables settings word) message).fields) :
    field.Shows (word.toList.take wordBits) := by
  rw [Report.fields_decode] at h
  obtain ⟨name, -, rfl⟩ := List.mem_map.1 h
  constructor
  · rfl
  · rw [FieldName.extract_take]
    exact String.toList_ofList
  · rw [FieldName.extract_take]
    apply Bits.value_eq_toNat
    rw [length_padTo_slice]
    exact name.width_le

theorem FieldReport.isTruncated_decode_iff
    (h : field ∈ (Report.ofInstruction (decode tables settings word) message).fields) :
    field.field.isTruncated = true ↔ word.toList.length < field.stop := by
  rw [Report.fields_decode] at h
  obtain ⟨name, -, rfl⟩ := List.mem_map.1 h
  exact isTruncated_ofBits_slice ..

end Decoded

theorem report_divides_word (tables : Tables) (settings : Settings) (word : String)
    (message : Option Diagnostic) :
    (decode tables settings word).bitLength = 32 ∧
      ((decode tables settings word).isTruncated = true ↔ word.toList.length < 32) ∧
      (Report.ofInstruction (decode tables settings word) message).Divides
        (decode tables settings word) word.toList := by
  have hbits := Report.bits_decode tables settings word message
  have hpadding := Report.padding_decode tables settings word message
  refine ⟨bitLength_decode tables settings word, isTruncated_decode_iff tables settings word, ?_⟩
  constructor
  · exact Report.map_field_place ..
  · exact Report.map_role_place ..
  · exact Report.tiles_decode tables settings word message
  · exact hbits
  · intro field hfield
    rw [hbits]
    exact FieldReport.shows_decode hfield
  · intro field hfield
    exact FieldReport.isTruncated_decode_iff hfield
  · intro c hc
    rw [hpadding] at hc
    exact List.eq_of_mem_replicate hc
  · rw [hpadding, hbits, Bits.zeroPadding, List.length_replicate, List.length_take]
    show 32 - min 32 _ + min 32 _ = 32
    omega

example :
    (Report.ofInstruction (decode Tables.builtin Settings.fallback "0010001") none).fields.map
        (fun field => (field.start, field.stop, field.field.rawBits))
      = [(0, 6, "001000"), (6, 11, "1"), (11, 16, ""), (16, 32, "")] := by
  decide +kernel

end MipsWord
