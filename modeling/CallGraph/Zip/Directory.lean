import CallGraph.Text.Utf8
import CallGraph.Zip.Inflate
/-!
# Zip archives

An archive is read from its end: the end record says where the central directory lies, and that lists the members with
all that is needed to read them. Bytes put in front of an archive shift its offsets; where the end record is found
tells by how much. `members?` lists an archive, `Member.content` reads a member.
-/

namespace CallGraph.Zip

/-- What stands for the bytes from 0x80 on in names that are not marked as UTF-8 (code page 437). -/
def upperHalf : Array Char :=
  ("ÇüéâäàåçêëèïîìÄÅÉæÆôöòûùÿÖÜ¢£¥₧ƒáíóúñÑªº¿⌐¬½¼¡«»░▒▓│┤╡╢╖╕╣║╗╝╜╛┐└┴┬├─┼╞╟╚╔╩╦╠═╬╧╨╤╥╙╘╒╓╫╪┘┌█▄▌▐▀" ++
    "αßΓπΣσµτΦΘΩδ∞φε∩≡±≥≤⌠⌡÷≈°∙·√ⁿ²■\u00A0").toList.toArray

def nameOfBytes (utf8 : Bool) (bytes : ByteArray) : String :=
  if utf8 then Utf8.lossy bytes
  else String.ofList (bytes.toList.map fun b =>
    if b < 0x80 then Char.ofNat b.toNat else upperHalf.getD (b.toNat - 0x80) ' ')

/-- A member of an archive. -/
structure Member where
  name : String
  encrypted : Bool
  method : Nat
  checksum : Nat
  size : Nat
  /-- the size as stored in the archive -/
  packedSize : Nat
  /-- where the member's own header begins -/
  start : Nat
  /-- whether the member is marked as encrypted by a later scheme -/
  sealed : Bool := false
  deriving DecidableEq, Repr

/-! ## The end of the archive -/

/-- What the end record says. -/
structure EndRecord where
  disk : Nat
  directoryDisk : Nat
  countHere : Nat
  count : Nat
  directorySize : Nat
  directoryStart : Nat
  commentLength : Nat

/-- Whether a field of the record holds the mark for numbers that do not fit. -/
def EndRecord.overflows (r : EndRecord) : Bool :=
  r.disk == 0xFFFF || r.directoryDisk == 0xFFFF || r.countHere == 0xFFFF || r.count == 0xFFFF ||
    r.directorySize == 0xFFFFFFFF || r.directoryStart == 0xFFFFFFFF

/-- The end record at `pos`, with all of its comment. -/
def EndRecord.at? (data : ByteArray) (pos : Nat) : Option EndRecord := do
  let disk ← number? data (pos + 4) 2
  let directoryDisk ← number? data (pos + 6) 2
  let countHere ← number? data (pos + 8) 2
  let count ← number? data (pos + 10) 2
  let directorySize ← number? data (pos + 12) 4
  let directoryStart ← number? data (pos + 16) 4
  let commentLength ← number? data (pos + 20) 2
  let _ ← slice? data (pos + 22) commentLength
  return { disk, directoryDisk, countHere, count, directorySize, directoryStart, commentLength }

/-- The last place at or before `pos` where an end record begins, at most `reach` bytes back. -/
def findEnd? (data : ByteArray) (pos : Nat) : (reach : Nat) → Option Nat
  | 0 => if number? data pos 4 = some 0x06054B50 then some pos else none
  | reach + 1 =>
    if number? data pos 4 = some 0x06054B50 then some pos
    else if pos = 0 then none
    else findEnd? data (pos - 1) reach

/-- The first place from `pos` on where a wide end record begins, at most `reach` bytes on. -/
def findWideEnd? (data : ByteArray) (pos : Nat) : (reach : Nat) → Option Nat
  | 0 => if number? data pos 4 = some 0x06064B50 then some pos else none
  | reach + 1 => if number? data pos 4 = some 0x06064B50 then some pos else findWideEnd? data (pos + 1) reach

/-- Where the central directory begins, by how much offsets are shifted, and how many members there are. -/
structure Extent where
  start : Nat
  shift : Nat
  count : Nat

/-- The extent that the wide end record gives, for an archive whose end record at `pos` has a locator before it. -/
def wideExtent? (data : ByteArray) (pos locator : Nat) (r : EndRecord) : Option Extent := do
  let disk ← number? data (locator + 4) 4
  let nominal ← number? data (locator + 8) 8
  let _ ← number? data (locator + 16) 4
  if !r.overflows && r.disk ≠ disk then none
  if pos < 60 || nominal > pos - 60 then none
  let wide ← findWideEnd? data nominal (pos - 60 - nominal)
  let _ ← slice? data wide 56
  if (← number? data (wide + 16) 4) ≠ (← number? data (wide + 20) 4) then none
  let count ← number? data (wide + 32) 8
  let start ← number? data (wide + 48) 8
  let shift := wide - nominal
  if start + shift ≥ UInt64.size then none
  return { start := start + shift, shift, count }

def extent? (data : ByteArray) : Option Extent := do
  if data.size < 22 then none
  let pos ← findEnd? data (data.size - 22) 65535
  let r ← EndRecord.at? data pos
  if !r.overflows && r.disk ≠ r.directoryDisk then none
  let tail := 42 + r.commentLength
  if tail ≤ data.size && number? data (data.size - tail) 4 = some 0x07064B50 then
    wideExtent? data pos (data.size - tail) r
  else
    if r.directorySize + r.directoryStart > pos then none
    let shift := pos - r.directorySize - r.directoryStart
    return { start := r.directoryStart + shift, shift, count := r.countHere }

/-! ## Members -/

/-- The mark of a 32-bit size or offset that is given in the extra field. -/
def wideMark : Nat := 0xFFFFFFFF

/-- Takes a 64-bit number from the extra field in place of a marked one; `none` in the position if it is cut off. -/
def widen (extra : ByteArray) (value : Nat) (pos : Option Nat) : Nat × Option Nat :=
  match pos with
  | none => (value, none)
  | some p =>
    if value = wideMark then
      match number? extra p 8 with
      | some wide => (wide, some (p + 8))
      | none => (value, none)
    else (value, some p)

/-- Applies the wide sizes and offset found at `pos` to a member, and says how far they reach. -/
def Member.widened (m : Member) (extra : ByteArray) (pos : Nat) : Member × Option Nat :=
  let (size, p) := widen extra m.size (some pos)
  let (packedSize, p) := widen extra m.packedSize p
  let (start, p) := widen extra m.start p
  ({ m with size, packedSize, start }, p)

/-- Applies a mark of later encryption at `pos`; none if it is malformed. A mark that is cut off changes nothing. -/
def Member.sealedBy? (m : Member) (extra : ByteArray) (pos length : Nat) : Option (Member × Option Nat) :=
  if length ≠ 7 then none
  else match number? extra pos 2, number? extra (pos + 2) 2, number? extra (pos + 4) 1, number? extra (pos + 5) 2 with
    | some version, some vendor, some strength, some method =>
      if vendor ≠ 0x4541 || (version ≠ 1 && version ≠ 2) || strength < 1 || strength > 3 then none
      else some ({ m with sealed := true, method }, some (pos + 7))
    | _, _, _, _ => some (m, none)

/-- Applies the fields of an extra field from `pos` on. Fields that are cut off are passed over. -/
def Member.extended? (extra : ByteArray) : (fuel pos : Nat) → Member → Option Member
  | 0, _, m => some m
  | fuel + 1, pos, m =>
    match number? extra pos 2, number? extra (pos + 2) 2 with
    | some kind, some length =>
      let body := pos + 4
      let applied := if kind = 0x0001 then some (m.widened extra body)
        else if kind = 0x9901 then m.sealedBy? extra body length
        else some (m, some body)
      match applied with
      | none => none
      | some (m, none) => some m
      | some (m, some reached) => Member.extended? extra fuel (max reached (body + length)) m
    | _, _ => some m

/-- The member whose entry in the central directory begins at `pos`, and the position behind that entry. -/
def Member.at? (data : ByteArray) (pos shift : Nat) : Option (Member × Nat) := do
  if (← number? data pos 4) ≠ 0x02014B50 then none
  let flags ← number? data (pos + 8) 2
  let method ← number? data (pos + 10) 2
  let checksum ← number? data (pos + 16) 4
  let packedSize ← number? data (pos + 20) 4
  let size ← number? data (pos + 24) 4
  let nameLength ← number? data (pos + 28) 2
  let extraLength ← number? data (pos + 30) 2
  let commentLength ← number? data (pos + 32) 2
  let start ← number? data (pos + 42) 4
  let name ← slice? data (pos + 46) nameLength
  let extra ← slice? data (pos + 46 + nameLength) extraLength
  let _ ← slice? data (pos + 46 + nameLength + extraLength) commentLength
  let m : Member :=
    { name := nameOfBytes (flags.testBit 11) name, encrypted := flags.testBit 0, method, checksum, size, packedSize,
      start }
  let m ← Member.extended? extra (extraLength + 1) 0 m
  if m.method = 99 && !m.sealed then none
  if m.start + shift ≥ UInt64.size then none
  return ({ m with start := m.start + shift }, pos + 46 + nameLength + extraLength + commentLength)

/-- `count` members from `pos` on. -/
def readMembers (data : ByteArray) (shift : Nat) : (count pos : Nat) → Option (List Member)
  | 0, _ => some []
  | count + 1, pos =>
    match Member.at? data pos shift with
    | none => none
    | some (m, pos) => (readMembers data shift count pos).map (m :: ·)

/-- The members of an archive in the order of its directory; none if it is no archive. -/
def members? (data : ByteArray) : Option (List Member) :=
  (extent? data).bind fun e => readMembers data e.shift e.count e.start

/-- Why a member cannot be read. -/
inductive MemberFault
  /-- it is missing, encrypted, packed in an unknown way, or its header is not where it should be -/
  | unusable
  /-- its data do not unpack, or unpack to something else -/
  | corrupt
  deriving DecidableEq, Repr

/-- The content of a member. -/
def Member.content (m : Member) (data : ByteArray) : Except MemberFault ByteArray :=
  if m.encrypted || m.sealed || number? data m.start 4 ≠ some 0x04034B50 || (m.method ≠ 0 && m.method ≠ 8) then
    .error .unusable
  else match number? data (m.start + 26) 2, number? data (m.start + 28) 2 with
    | some nameLength, some extraLength =>
      let start := m.start + 30 + nameLength + extraLength
      let packed := data.extract start (min data.size (start + m.packedSize))
      match if m.method = 0 then some packed else inflate? packed with
      | none => .error .corrupt
      | some bytes => if (crc32 bytes).toNat = m.checksum then .ok bytes else .error .corrupt
    | _, _ => .error .unusable

end CallGraph.Zip
