import Chip8.Instruction.Basic
import Chip8.Text.Hex

/-!
Assembly text of instructions: the mnemonic, the operands, and the names of the forms.
-/

namespace Chip8

def registerText (n : Int) : String :=
  "V" ++ Text.Hex.upper 1 n

def byteText (n : Int) : String :=
  "#$" ++ Text.Hex.upper 2 n

def addressText (n : Int) : String :=
  "$" ++ Text.Hex.upper 3 n

def Form.name : Form → String
  | sys => "SYS"
  | cls => "CLS"
  | ret => "RET"
  | jump => "JP"
  | call => "CALL"
  | skipEqualByte => "SE_BYTE"
  | skipUnequalByte => "SNE_BYTE"
  | skipEqual => "SE_REG"
  | setByte => "LD_BYTE"
  | addByte => "ADD_BYTE"
  | copy => "LD_REG"
  | or => "OR"
  | and => "AND"
  | xor => "XOR"
  | add => "ADD_REG"
  | sub => "SUB"
  | shiftRight => "SHR"
  | subReverse => "SUBN"
  | shiftLeft => "SHL"
  | skipUnequal => "SNE_REG"
  | setIndex => "LD_I"
  | jumpOffset => "JP_V0"
  | random => "RND"
  | draw => "DRW"
  | skipPressed => "SKP"
  | skipReleased => "SKNP"
  | readDelay => "LD_VX_DT"
  | waitKey => "LD_VX_K"
  | setDelay => "LD_DT_VX"
  | setSound => "LD_ST_VX"
  | addIndex => "ADD_I"
  | glyph => "LD_F"
  | decimal => "LD_B"
  | store => "LD_MEM_REGS"
  | load => "LD_REGS_MEM"
  | unknown => "UNKNOWN"

namespace Form

def mnemonic : Form → String
  | sys => "SYS"
  | cls => "CLS"
  | ret => "RET"
  | jump | jumpOffset => "JP"
  | call => "CALL"
  | skipEqualByte | skipEqual => "SE"
  | skipUnequalByte | skipUnequal => "SNE"
  | addByte | add | addIndex => "ADD"
  | or => "OR"
  | and => "AND"
  | xor => "XOR"
  | sub => "SUB"
  | shiftRight => "SHR"
  | subReverse => "SUBN"
  | shiftLeft => "SHL"
  | random => "RND"
  | draw => "DRW"
  | skipPressed => "SKP"
  | skipReleased => "SKNP"
  | setByte | copy | setIndex | readDelay | waitKey | setDelay | setSound | glyph | decimal
  | store | load => "LD"
  | unknown => "UNKNOWN"

end Form

namespace Instruction

def mnemonic (i : Instruction) : String :=
  i.form.mnemonic

def operands : Instruction → List String
  | cls | ret => []
  | sys t | jump t | call t => [addressText t]
  | skipEqualByte x b | skipUnequalByte x b | setByte x b | addByte x b | random x b =>
    [registerText x, byteText b]
  | skipEqual x y | copy x y | or x y | and x y | xor x y | add x y | sub x y | subReverse x y
  | skipUnequal x y => [registerText x, registerText y]
  | shiftRight x | shiftLeft x | skipPressed x | skipReleased x => [registerText x]
  | setIndex t => ["I", addressText t]
  | jumpOffset t => ["V0", addressText t]
  | draw x y n => [registerText x, registerText y, toString n.val]
  | readDelay x => [registerText x, "DT"]
  | waitKey x => [registerText x, "K"]
  | setDelay x => ["DT", registerText x]
  | setSound x => ["ST", registerText x]
  | addIndex x => ["I", registerText x]
  | glyph x => ["F", registerText x]
  | decimal x => ["B", registerText x]
  | store x => ["[I]", registerText x]
  | load x => [registerText x, "[I]"]
  | unknown op => ["$" ++ Text.Hex.upper 4 op]

def text (i : Instruction) : String :=
  if i.operands.isEmpty then i.mnemonic
  else i.mnemonic ++ " " ++ ", ".intercalate i.operands

example : (Instruction.draw 0 10 5).text = "DRW V0, VA, 5" := by cbv

end Instruction

end Chip8
