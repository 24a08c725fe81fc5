import AsmBridge.Number.Decimal
import AsmBridge.Text.Blank
import AsmBridge.Text.Quoted

/-!
# Messages

The wording of every fault.
-/

namespace AsmBridge

/-- Why bytes are no UTF-8, in words. -/
def BadBytes.message : BadBytes → Text
  | start => "invalid start byte".toList
  | continuation => "invalid continuation byte".toList
  | truncated => "unexpected end of data".toList

/-- One position, or the first and the last of several. -/
def positions (first last : Nat) : Text :=
  if first = last then Decimal.ofNat first
  else Decimal.ofNat first ++ "-".toList ++ Decimal.ofNat last

/-- What the limit on digits says, with or without the number of digits. -/
def digitLimitMessage (detail : Text) : Text :=
  "Exceeds the limit (".toList ++ Decimal.ofNat Decimal.digitLimit ++
    " digits) for integer string conversion".toList ++ detail ++
    "; use sys.set_int_max_str_digits() to increase the limit".toList

/-- The wording of a fault. -/
def Fault.message : Fault → Text
  | tooManyDigits count =>
    digitLimitMessage (": value has ".toList ++ Decimal.ofNat count ++ " digits".toList)
  | tooLongToWrite => digitLimitMessage []
  | argumentCount number =>
    "Stack argument count must be >= 0, got ".toList ++ Decimal.ofInt number
  | epilogueRange start stop count =>
    "Epilogue range [".toList ++ Decimal.ofInt start ++ ", ".toList ++ Decimal.ofInt stop ++
      ") does not fit in ".toList ++ Decimal.ofInt count ++ " lines".toList
  | emptyMarker => "empty separator".toList
  | unresolved symbol =>
    "Failed to find label to replace of position independent code: ".toList ++ symbol
  | belowFrame line => "Not expected to find [rbp -] based loads: ".toList ++ line.trim
  | noReturn name => "no ret instruction in ".toList ++ name
  | severalReturns name count =>
    name ++ " has ".toList ++ Decimal.ofNat count ++ " epilogues, only one is supported".toList
  | undeclared name => "no argument count declared for ".toList ++ name
  | notANumber text => "Cannot evaluate: ".toList ++ text
  | notOneCharacter length =>
    "ord() expected a character, but string of length ".toList ++ Decimal.ofNat length ++
      " found".toList
  | negativeShift => "negative shift count".toList
  | shiftTooWide => "too many digits in integer".toList
  | unencodable char first last =>
    (if first = last then
      "\x27latin-1\x27 codec can\x27t encode character \x27".toList ++ Quoted.codeEscape char ++
        "\x27 in position ".toList
    else "\x27latin-1\x27 codec can\x27t encode characters in position ".toList) ++
      positions first last ++ ": ordinal not in range(256)".toList
  | unknownDirective name => "Unknown directive .".toList ++ name
  | lengthTooLarge => "cannot fit \x27int\x27 into an index-sized integer".toList
  | outOfMemory => []
  | notAssembled instruction => "Failed to assemble: ".toList ++ instruction
  | rejected reason instruction => reason ++ " - ".toList ++ instruction
  | noAssembler reason =>
    "Keystone Engine not available.\n".toList ++
      (if reason.isEmpty then [] else "Error: ".toList ++ reason ++ "\n\n".toList) ++
      "Install with: pip install keystone-engine".toList
  | brokenAssembler reason => "Failed to initialize Keystone for x86_64: ".toList ++ reason
  | undecodable reason byte first last =>
    (if first = last then
      "\x27utf-8\x27 codec can\x27t decode byte 0x".toList ++ Hex.ofByte byte ++
        " in position ".toList
    else "\x27utf-8\x27 codec can\x27t decode bytes in position ".toList) ++
      positions first last ++ ": ".toList ++ reason.message
  | noSuchFile path => "[Errno 2] No such file or directory: ".toList ++ path.quoted
  | notDirectory path => "[Errno 20] Not a directory: ".toList ++ path.quoted
  | isDirectory path => "[Errno 21] Is a directory: ".toList ++ path.quoted
  | nameTooLong path => "[Errno 36] File name too long: ".toList ++ path.quoted
  | emptyFileName path => "PosixPath(".toList ++ path.quoted ++ ") has an empty name".toList
  | nullInPath => "embedded null byte".toList
  | pathMissing => "expected str, bytes or os.PathLike object, not list".toList
  | countMissing index =>
    "dictionary update sequence element #".toList ++ Decimal.ofNat index ++
      " has length 0; 2 is required".toList

end AsmBridge
