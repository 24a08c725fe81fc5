import AsmBridge.Fault

/-!
# UTF-8

Files are bytes and listings are text. Bytes that are no UTF-8 are refused, with the reason and the
place of the first sequence that breaks the rules: a sequence is broken off at the first byte that
cannot continue it.
-/

namespace AsmBridge

namespace Utf8

/-- What the first byte of a longer sequence says: how many bytes follow, the bits that it adds, and the
bounds of the byte after it. The bounds keep out what a shorter sequence could say, surrogates, and
what lies beyond the last code point. -/
structure Lead where
  count : Nat
  bits : Nat
  low : Nat := 0x80
  high : Nat := 0xBF

/-- The meaning of the first byte of a longer sequence. -/
def Lead.of? (b : Nat) : Option Lead :=
  if b < 0xC2 then none
  else if b < 0xE0 then some { count := 1, bits := b - 0xC0 }
  else if b = 0xE0 then some { count := 2, bits := 0, low := 0xA0 }
  else if b = 0xED then some { count := 2, bits := 0xD, high := 0x9F }
  else if b < 0xF0 then some { count := 2, bits := b - 0xE0 }
  else if b = 0xF0 then some { count := 3, bits := 0, low := 0x90 }
  else if b < 0xF4 then some { count := 3, bits := b - 0xF0 }
  else if b = 0xF4 then some { count := 3, bits := 4, high := 0x8F }
  else none

/-- The value of a sequence of which `count` bytes are to come, the next one within bounds. A broken
sequence gives the reason and the number of its bytes, of which `taken` are gone. -/
def continueWith (low high : Nat) : (count taken value : Nat) → List UInt8 →
    Except (BadBytes × Nat) Nat
  | 0, _, value, _ => .ok value
  | _ + 1, taken, _, [] => .error (.truncated, taken)
  | count + 1, taken, value, b :: rest =>
    if low ≤ b.toNat ∧ b.toNat ≤ high then
      continueWith 0x80 0xBF count (taken + 1) (value * 64 + (b.toNat - 0x80)) rest
    else .error (.continuation, taken)

/-- The first character of bytes and the number of bytes after its first one. -/
def first (b : UInt8) (rest : List UInt8) : Except (BadBytes × Nat) (Char × Nat) :=
  if b.toNat < 0x80 then .ok (Char.ofNat b.toNat, 0)
  else
    match Lead.of? b.toNat with
    | none => .error (.start, 1)
    | some lead =>
      (continueWith lead.low lead.high lead.count 1 lead.bits rest).map fun value =>
        (Char.ofNat value, lead.count)

/-- The characters of bytes at a position, where `before` are those in front of them, read
backwards. -/
def decodeFrom (position : Nat) (before : Text) (bytes : List UInt8) : Except Fault Text :=
  match bytes with
  | [] => .ok before.reverse
  | b :: rest =>
    match first b rest with
    | .ok (c, count) => decodeFrom (position + 1 + count) (c :: before) (rest.drop count)
    | .error (reason, length) =>
      .error (.undecodable reason b position (position + length - 1))
termination_by bytes.length
decreasing_by
  simp only [List.length_drop, List.length_cons]
  omega

/-- The text that bytes stand for. -/
def decode (bytes : List UInt8) : Except Fault Text :=
  decodeFrom 0 [] bytes

/-- The bytes of a text. -/
def encode (t : Text) : List UInt8 :=
  t.flatMap String.utf8EncodeChar

end Utf8

end AsmBridge
