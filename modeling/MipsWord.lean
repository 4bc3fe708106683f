import MipsWord.Main
import MipsWord.Proofs.Bits.Value
import MipsWord.Proofs.Encode.Literal
import MipsWord.Proofs.Encode.Remark
import MipsWord.Proofs.Encode.Shown
import MipsWord.Proofs.Field.Run
import MipsWord.Proofs.Instruction.Parts
import MipsWord.Proofs.Line.Layout
import MipsWord.Proofs.Line.Matching
import MipsWord.Proofs.Reencoding
import MipsWord.Proofs.Report.Hex
import MipsWord.Proofs.Stability
import MipsWord.Proofs.Tables.Order
import MipsWord.Proofs.Tables.Refusal
import MipsWord.Proofs.WordRemark
