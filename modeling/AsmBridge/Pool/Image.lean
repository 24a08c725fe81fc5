import AsmBridge.Fault.Message
import AsmBridge.Pool.Literal

/-!
# Images of directives

A directive for data has an image: the bytes that it adds, what it warns of, and the fault that ended
it, if there is one. The bytes before a fault stay.
-/

namespace AsmBridge

/-! ## Bytes -/

/-- The lowest bytes of a number in two's complement, the lowest first. -/
def littleEndian : Nat → Int → List UInt8
  | 0, _ => []
  | size + 1, n => UInt8.ofNat (n % 256).toNat :: littleEndian size (n / 256)

/-- The position of the first character without a byte, and the run of such characters. -/
def firstWide (position : Nat) : Text → Option (Nat × Text)
  | [] => none
  | c :: r =>
    if c.toNat < 0x100 then firstWide (position + 1) r
    else some (position, c :: r.takeWhile fun d => 0x100 ≤ d.toNat)

/-- One byte a character, for characters below U+0100. -/
def encodeBytes (t : Text) : Except Fault (List UInt8) :=
  match firstWide 0 t with
  | some (position, c :: r) => .error (.unencodable c position (position + r.length))
  | _ => .ok (t.map fun c => UInt8.ofNat c.toNat)

/-- Lengths are signed numbers of 64 bits: those from here on are too large, and so are those below
its negative. -/
def lengthLimit : Int := 0x8000000000000000

/-- Runs of this many bytes do not fit in memory. -/
def memoryLimit : Int := 0x1000000000

/-- A byte over and over; a negative length gives nothing. -/
def replicateByte (length : Int) (byte : UInt8) : Except Fault (List UInt8) :=
  if length < -lengthLimit ∨ lengthLimit ≤ length then .error .lengthTooLarge
  else if memoryLimit ≤ length then .error .outOfMemory
  else .ok (List.replicate length.toNat byte)

/-! ## Alignment -/

/-- Powers of two with such an exponent do not fit in memory. -/
def exponentLimit : Int := 0x100000000

/-- Powers of two with such an exponent are not even asked for. -/
def exponentBound : Int := 69175290276410818320

/-- Two to a power. -/
def powerOfTwo (exponent : Int) : Except Fault Int :=
  if exponent < 0 then .error .negativeShift
  else if exponentBound < exponent then .error .shiftTooWide
  else if exponentLimit ≤ exponent then .error .outOfMemory
  else .ok (Nat.pow 2 exponent.toNat)

/-- The least number of bytes that makes a length a multiple of the alignment. -/
def padding (length : Nat) (alignment : Int) : Int :=
  -(length : Int) % max alignment 1

/-! ## Images -/

/-- What a directive adds. -/
structure Image where
  bytes : List UInt8 := []
  warnings : List Text := []
  fault : Option Fault := none
  deriving Repr, DecidableEq

namespace Image

/-- The image of bytes that may have a fault. -/
def ofBytes : Except Fault (List UInt8) → Image
  | .ok bytes => { bytes := bytes }
  | .error f => { fault := some f }

/-- An image with more in front. -/
def prepend (bytes : List UInt8) (warnings : List Text) (image : Image) : Image :=
  { image with bytes := bytes ++ image.bytes, warnings := warnings ++ image.warnings }

/-- Numbers of `size` bytes. What is no number is stored as zero. -/
def ofNumbers (size : Nat) : List Text → Image
  | [] => {}
  | operand :: operands =>
    match Literal.read operand with
    | .ok n => prepend (littleEndian size n) [] (ofNumbers size operands)
    | .error f =>
      if f.isValue then
        prepend (littleEndian size 0) [f.message ++ ", stored as zero".toList]
          (ofNumbers size operands)
      else { fault := some f }

/-- Strings, each with a terminator. -/
def ofStrings (terminator : List UInt8) : List Text → Image
  | [] => {}
  | operand :: operands =>
    match encodeBytes (unquote operand) with
    | .ok bytes => prepend (bytes ++ terminator) [] (ofStrings terminator operands)
    | .error f => { fault := some f }

/-- Zeros up to the next multiple of an alignment, for data of a length. -/
def ofAlignment (isPower : Bool) (length : Nat) : List Text → Image
  | [] => {}
  | operand :: _ => ofBytes do
    let n ← Literal.read operand
    let alignment ← if isPower then powerOfTwo n else .ok n
    replicateByte (padding length alignment) 0

/-- The lowest byte of a number. -/
def lowByte (n : Int) : UInt8 :=
  UInt8.ofNat (n % 256).toNat

/-- A number of bytes, zeros unless the second operand says otherwise. -/
def ofSpace : List Text → Image
  | [] => {}
  | [length] => ofBytes do
    replicateByte (← Literal.read length) 0
  | length :: fill :: _ => ofBytes do
    let byte ← (Literal.read fill).map lowByte
    replicateByte (← Literal.read length) byte

end Image

end AsmBridge
