/-!
# Bytes as text

Two readings of bytes that need not be UTF-8. `symbols` keeps every character and marks each stretch of bytes that is
no character; `lossy` writes U+FFFD for such a stretch. On the bytes of a text both give the text back.
-/

namespace CallGraph.Utf8

/-- The number of bytes in a character that begins with `lead`, and the bounds of its second byte. -/
def shape? (lead : UInt8) : Option (Nat × UInt8 × UInt8) :=
  if lead < 0x80 then some (1, 0, 0)
  else if lead < 0xC2 then none
  else if lead < 0xE0 then some (2, 0x80, 0xBF)
  else if lead == 0xE0 then some (3, 0xA0, 0xBF)
  else if lead == 0xED then some (3, 0x80, 0x9F)
  else if lead < 0xF0 then some (3, 0x80, 0xBF)
  else if lead == 0xF0 then some (4, 0x90, 0xBF)
  else if lead < 0xF4 then some (4, 0x80, 0xBF)
  else if lead == 0xF4 then some (4, 0x80, 0x8F)
  else none

/-- Takes up to `n` bytes that continue a character, the first of them between `lo` and `hi`. -/
def continuation : Nat → UInt8 → UInt8 → List UInt8 → List UInt8
  | 0, _, _, _ => []
  | _, _, _, [] => []
  | n + 1, lo, hi, b :: rest =>
    if lo ≤ b && b ≤ hi then b :: continuation n 0x80 0xBF rest else []

/-- The code point that a lead byte of a character of `width` bytes and its continuation spell. -/
def codePoint (width : Nat) (lead : UInt8) (tail : List UInt8) : Nat :=
  let top := if width = 1 then lead.toNat else if width = 2 then lead.toNat % 32
    else if width = 3 then lead.toNat % 16 else lead.toNat % 8
  tail.foldl (fun n b => n * 64 + b.toNat % 64) top

/-- The first symbol of a list of bytes, and the number of bytes it takes. A stretch that begins like a character but
breaks off is one symbol. -/
def first (lead : UInt8) (rest : List UInt8) : Option Char × Nat :=
  match shape? lead with
  | none => (none, 1)
  | some (width, lo, hi) =>
    let tail := continuation (width - 1) lo hi rest
    if tail.length + 1 = width then (some (Char.ofNat (codePoint width lead tail)), width) else (none, tail.length + 1)

/-- The symbols of a list of bytes. -/
def scan : List UInt8 → List (Option Char)
  | [] => []
  | b :: rest =>
    let (symbol, used) := first b rest
    symbol :: scan (rest.drop (used - 1))
termination_by bytes => bytes.length
decreasing_by simp only [List.length_drop, List.length_cons]; omega

/-- The characters that `bytes` spell, with `none` for each stretch that spells no character. -/
def symbols (bytes : ByteArray) : List (Option Char) :=
  match String.fromUTF8? bytes with
  | some text => text.toList.map some
  | none => scan bytes.toList

/-- The text that `bytes` spell, with U+FFFD for each stretch that spells no character. -/
def lossy (bytes : ByteArray) : String :=
  String.ofList ((symbols bytes).map fun symbol => symbol.getD '\uFFFD')

end CallGraph.Utf8
