import AsmBridge.Code.Bytes
import AsmBridge.Code.Intel
import AsmBridge.Fault.Message
import AsmBridge.Frame.Sequence
import AsmBridge.Line.Disabled

/-!
# Assembling disabled lines

A disabled instruction is given to an assembler, and its machine code is put in front of it. Any
function from instructions to answers is an assembler.
-/

namespace AsmBridge

/-- What an assembler says to an instruction. -/
inductive Answer
  | code (bytes : List UInt8)
  /-- There is no code. -/
  | nothing
  /-- The instruction is wrong. -/
  | rejected (reason : Text)
  deriving Repr, DecidableEq

/-- An assembler. -/
abbrev Assembler := Text → Answer

/-- An assembler, or why there is none. -/
inductive Engine
  | missing (reason : Text)
  | broken (reason : Text)
  | ready (assemble : Assembler)

/-- The assembler of an engine. -/
def Engine.start : Engine → Except Fault Assembler
  | missing reason => .error (.noAssembler reason)
  | broken reason => .error (.brokenAssembler reason)
  | ready assemble => .ok assemble

namespace Assembler

/-- The machine code of an instruction. -/
def encode (assemble : Assembler) (text : Text) : Except Fault (List UInt8) := do
  let instruction ← toIntel text
  match assemble instruction with
  | .code bytes => return bytes
  | .nothing => throw (.notAssembled instruction)
  | .rejected reason => throw (.rejected reason instruction)

/-- The line with the machine code of a disabled instruction. -/
def encodedLine (code : List UInt8) (text : Text) : Text :=
  indentation ++ renderBytes code ++ " // ".toList ++ text

/-- Assembles a line, if it is disabled. -/
def encodeLine (assemble : Assembler) (line : Text) : Except Fault Text :=
  match line.after? disabledMargin with
  | some text => (assemble.encode text).map fun code => encodedLine code text
  | none => .ok line

/-- Assembles all disabled lines. A line that cannot be assembled stays, and its fault is a warning. -/
def encodeLines (assemble : Assembler) : List Text → List Text × List Text
  | [] => ([], [])
  | line :: lines =>
    let (encoded, warnings) := encodeLines assemble lines
    match assemble.encodeLine line with
    | .ok text => (text :: encoded, warnings)
    | .error f => (line :: encoded, f.message :: warnings)

end Assembler

end AsmBridge
