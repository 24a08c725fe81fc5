import AsmBridge.Text.Basic

/-!
# Faults

Everything that can go wrong is one of the causes below. `Fault.kind` groups them, because the
stages react to a group: a fault of a function is reported and the next function goes on, a fault of
a value in a directive is a warning, and all others end the run.
-/

namespace AsmBridge

/-- Why a run of bytes is no UTF-8. -/
inductive BadBytes
  | start
  | continuation
  | truncated
  deriving Repr, DecidableEq

/-- A cause of failure. -/
inductive Fault
  /-- A decimal number has `count` digits, which is more than may be read. -/
  | tooManyDigits (count : Nat)
  /-- A number has more digits than may be written. -/
  | tooLongToWrite
  /-- A count of stack arguments is negative. -/
  | argumentCount (number : Int)
  /-- The lines `start` up to `stop` are no part of `count` lines. -/
  | epilogueRange (start stop count : Int)
  /-- A marker to remove is empty. -/
  | emptyMarker
  /-- A reference relative to the instruction pointer names a symbol without a constant. -/
  | unresolved (symbol : Text)
  /-- An operand lies below the frame pointer. -/
  | belowFrame (line : Text)
  /-- A function does not return. -/
  | noReturn (name : Text)
  /-- A function returns at several places. -/
  | severalReturns (name : Text) (count : Nat)
  /-- A function has no declared argument count. -/
  | undeclared (name : Text)
  /-- A literal is no number. -/
  | notANumber (text : Text)
  /-- A character literal stands for `length` characters. -/
  | notOneCharacter (length : Nat)
  /-- An alignment is two to a negative power. -/
  | negativeShift
  /-- An alignment is two to a power that no number has room for. -/
  | shiftTooWide
  /-- The characters at `first` to `last` of a string have no byte; `char` is the first of them. -/
  | unencodable (char : Char) (first last : Nat)
  /-- A directive is not known. -/
  | unknownDirective (name : Text)
  /-- A run of bytes is longer than a length can say. -/
  | lengthTooLarge
  /-- A run of bytes is longer than memory. -/
  | outOfMemory
  /-- The assembler gives no code for an instruction. -/
  | notAssembled (instruction : Text)
  /-- The assembler rejects an instruction. -/
  | rejected (reason instruction : Text)
  /-- There is no assembler. -/
  | noAssembler (reason : Text)
  /-- The assembler does not start. -/
  | brokenAssembler (reason : Text)
  /-- The bytes at `first` to `last` of a file are no UTF-8; `byte` is the first of them. -/
  | undecodable (reason : BadBytes) (byte : UInt8) (first last : Nat)
  /-- There is no file at a path. -/
  | noSuchFile (path : Text)
  /-- A path leads through something that is no directory. -/
  | notDirectory (path : Text)
  /-- A directory is where a file is expected. -/
  | isDirectory (path : Text)
  /-- A path or a component of it is longer than the system takes. -/
  | nameTooLong (path : Text)
  /-- A path has no last component. -/
  | emptyFileName (path : Text)
  /-- A path holds a null character. -/
  | nullInPath
  /-- An option that names a path has lost its value. -/
  | pathMissing
  /-- The argument count number `index`, counted from zero, has lost its value. -/
  | countMissing (index : Nat)
  deriving Repr, DecidableEq

namespace Fault

/-- The groups of causes. -/
inductive Kind
  | value
  | type
  | overflow
  | memory
  | encoding
  | decoding
  | reference
  | frame
  | listing
  | file
  | missing
  | broken
  deriving Repr, DecidableEq

/-- The group of a cause. -/
def kind : Fault → Kind
  | tooManyDigits _ | tooLongToWrite | argumentCount _ | epilogueRange .. | emptyMarker
  | notANumber _ | negativeShift | unknownDirective _ | notAssembled _ | rejected ..
  | emptyFileName _ | nullInPath | countMissing _ => .value
  | notOneCharacter _ | pathMissing => .type
  | shiftTooWide | lengthTooLarge => .overflow
  | outOfMemory => .memory
  | unencodable .. => .encoding
  | undecodable .. => .decoding
  | unresolved _ => .reference
  | belowFrame _ => .frame
  | noReturn _ | severalReturns .. | undeclared _ => .listing
  | noSuchFile _ | notDirectory _ | isDirectory _ | nameTooLong _ => .file
  | noAssembler _ => .missing
  | brokenAssembler _ => .broken

/-- Whether a fault concerns one function only, so that the other functions can go on. -/
def isLocal (f : Fault) : Bool :=
  match f.kind with
  | .reference | .frame | .listing => true
  | _ => false

/-- Whether a fault is about a value, so that the directive or line that holds it can be left. -/
def isValue (f : Fault) : Bool :=
  match f.kind with
  | .value | .encoding | .decoding => true
  | _ => false

end Fault

end AsmBridge
