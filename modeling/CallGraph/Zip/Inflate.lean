import CallGraph.Zip.Bytes
/-!
# Inflating

Reads the deflate format: blocks of stored bytes, or of literals and back references under a prefix code that is fixed
or given in the block. `inflate?` gives the bytes up to the final block, or none for data that break a rule of the
format or stop before its end.

Positions count bits, the least significant bit of a byte first.
-/

namespace CallGraph.Zip

def bit? (data : ByteArray) (pos : Nat) : Option Nat :=
  (data[pos / 8]?).map fun b => (b.toNat >>> (pos % 8)) % 2

/-- The number in the `width` bits from `pos` on. -/
def bits? (data : ByteArray) (pos : Nat) : (width : Nat) → Option Nat
  | 0 => some 0
  | width + 1 =>
    match bit? data pos with
    | none => none
    | some b => (bits? data (pos + 1) width).map fun high => b + 2 * high

/-! ## Prefix codes -/

/-- A canonical prefix code: how many codes there are of each length, and the symbols in the order of their codes. -/
structure PrefixCode where
  counts : Array Nat
  symbols : Array Nat

/-- The greatest length of a code. -/
def maxCodeLength : Nat := 15

/-- Room left for codes when the lengths `1 … maxCodeLength` are given out; none if there are too many. -/
def roomLeft? (counts : Array Nat) : Option Nat :=
  (List.range maxCodeLength).foldl (fun left i => left.bind fun n =>
    let count := counts.getD (i + 1) 0
    if count ≤ 2 * n then some (2 * n - count) else none) (some 1)

/-- The code in which symbol `i` has length `lengths[i]`, or no code where that is zero. A code of two or more symbols
leaves no bit pattern unused. -/
def PrefixCode.ofLengths? (lengths : List Nat) : Option PrefixCode :=
  let counts := lengths.foldl (fun cs n => if n = 0 then cs else cs.modify n (· + 1)) (Array.replicate 16 0)
  let symbols := (List.range maxCodeLength).flatMap fun i =>
    (lengths.zipIdx.filter fun x => x.1 = i + 1).map (·.2)
  match roomLeft? counts with
  | none => none
  | some room => if room ≠ 0 && symbols.length > 1 then none else some ⟨counts, symbols.toArray⟩

/-- Reads on in a code: `code` is what the bits so far spell, `first` the first code of their length, `index` where its
symbol stands. -/
def PrefixCode.readFrom (c : PrefixCode) (data : ByteArray) (pos code first index length : Nat) :
    (remaining : Nat) → Option (Nat × Nat)
  | 0 => none
  | remaining + 1 =>
    match bit? data pos with
    | none => none
    | some b =>
      let code := 2 * code + b
      let count := c.counts.getD length 0
      if code < first + count then (c.symbols[index + (code - first)]?).map (·, pos + 1)
      else c.readFrom data (pos + 1) code (2 * (first + count)) (index + count) (length + 1) remaining

/-- The symbol at `pos` and the position behind it. -/
def PrefixCode.read (c : PrefixCode) (data : ByteArray) (pos : Nat) : Option (Nat × Nat) :=
  c.readFrom data pos 0 0 0 1 maxCodeLength

/-! ## Blocks -/

/-- For length symbols from 257 on: the least length, and the number of bits added to it. -/
def lengthTable : Array (Nat × Nat) :=
  #[(3, 0), (4, 0), (5, 0), (6, 0), (7, 0), (8, 0), (9, 0), (10, 0), (11, 1), (13, 1), (15, 1), (17, 1), (19, 2),
    (23, 2), (27, 2), (31, 2), (35, 3), (43, 3), (51, 3), (59, 3), (67, 4), (83, 4), (99, 4), (115, 4), (131, 5),
    (163, 5), (195, 5), (227, 5), (258, 0)]

/-- The same for distance symbols. -/
def distanceTable : Array (Nat × Nat) :=
  #[(1, 0), (2, 0), (3, 0), (4, 0), (5, 1), (7, 1), (9, 2), (13, 2), (17, 3), (25, 3), (33, 4), (49, 4), (65, 5),
    (97, 5), (129, 6), (193, 6), (257, 7), (385, 7), (513, 8), (769, 8), (1025, 9), (1537, 9), (2049, 10),
    (3073, 10), (4097, 11), (6145, 11), (8193, 12), (12289, 12), (16385, 13), (24577, 13)]

/-- Repeats what was written `distance` bytes ago, byte by byte. -/
def repeatBack (out : ByteArray) (distance : Nat) : (count : Nat) → ByteArray
  | 0 => out
  | count + 1 => repeatBack (out.push (out[out.size - distance]?.getD 0)) distance count

/-- A number that a table row and the bits at `pos` make up, and the position behind those bits. -/
def tabled? (table : Array (Nat × Nat)) (row : Nat) (data : ByteArray) (pos : Nat) : Option (Nat × Nat) := do
  let (base, width) ← table[row]?
  let more ← bits? data pos width
  return (base + more, pos + width)

/-- Reads literals and back references up to the end of the block. Each takes a bit or more, so that `fuel` may be the
number of bits. -/
def readSymbols (literals distances : PrefixCode) (data : ByteArray) :
    (fuel pos : Nat) → ByteArray → Option (Nat × ByteArray)
  | 0, _, _ => none
  | fuel + 1, pos, out => do
    let (symbol, pos) ← literals.read data pos
    if symbol < 256 then readSymbols literals distances data fuel pos (out.push (UInt8.ofNat symbol))
    else if symbol = 256 then some (pos, out)
    else
      let (length, pos) ← tabled? lengthTable (symbol - 257) data pos
      let (row, pos) ← distances.read data pos
      let (distance, pos) ← tabled? distanceTable row data pos
      if distance > out.size then none
      else readSymbols literals distances data fuel pos (repeatBack out distance length)

def fixedLengths : List Nat :=
  List.replicate 144 8 ++ List.replicate 112 9 ++ List.replicate 24 7 ++ List.replicate 8 8

/-- The order in which the lengths of the code for code lengths are given. -/
def lengthOrder : List Nat := [16, 17, 18, 0, 8, 7, 9, 6, 10, 5, 11, 4, 12, 3, 13, 2, 14, 1, 15]

/-- Reads `count` code lengths, the last one first in `sofar`; three symbols stand for repetitions. -/
def readLengths (c : PrefixCode) (data : ByteArray) (count : Nat) :
    (fuel pos : Nat) → List Nat → Option (Nat × List Nat)
  | 0, _, _ => none
  | fuel + 1, pos, sofar =>
    if sofar.length = count then some (pos, sofar.reverse)
    else if sofar.length > count then none
    else do
      let (symbol, pos) ← c.read data pos
      if symbol < 16 then readLengths c data count fuel pos (symbol :: sofar)
      else if symbol = 16 then
        let last ← sofar.head?
        let more ← bits? data pos 2
        readLengths c data count fuel (pos + 2) (List.replicate (more + 3) last ++ sofar)
      else
        let (base, width) := if symbol = 17 then (3, 3) else (11, 7)
        let more ← bits? data pos width
        readLengths c data count fuel (pos + width) (List.replicate (more + base) 0 ++ sofar)

/-- The codes given at the start of a block, and the position behind them. -/
def readCodes (data : ByteArray) (pos : Nat) : Option (PrefixCode × PrefixCode × Nat) := do
  let literalCount := (← bits? data pos 5) + 257
  let distanceCount := (← bits? data (pos + 5) 5) + 1
  let lengthCount := (← bits? data (pos + 10) 4) + 4
  if literalCount > 286 || distanceCount > 30 then none
  let given ← (List.range lengthCount).mapM fun i => bits? data (pos + 14 + 3 * i) 3
  let lengths := (List.range 19).map fun symbol => ((lengthOrder.zip given).lookup symbol).getD 0
  let code ← PrefixCode.ofLengths? lengths
  let (pos, all) ← readLengths code data (literalCount + distanceCount) 400 (pos + 14 + 3 * lengthCount) []
  let literals ← PrefixCode.ofLengths? (all.take literalCount)
  let distances ← PrefixCode.ofLengths? (all.drop literalCount)
  return (literals, distances, pos)

/-- Reads a block that begins at `pos`, behind its header of kind `kind`. -/
def readBlock (data : ByteArray) (kind pos : Nat) (out : ByteArray) : Option (Nat × ByteArray) :=
  match kind with
  | 0 => do
    let start := (pos + 7) / 8
    let length ← number? data start 2
    let complement ← number? data (start + 2) 2
    if length + complement ≠ 0xFFFF then none
    let bytes ← slice? data (start + 4) length
    return (8 * (start + 4 + length), out ++ bytes)
  | 1 => do
    let literals ← PrefixCode.ofLengths? fixedLengths
    let distances ← PrefixCode.ofLengths? (List.replicate 32 5)
    readSymbols literals distances data (8 * data.size + 1) pos out
  | 2 => do
    let (literals, distances, pos) ← readCodes data pos
    readSymbols literals distances data (8 * data.size + 1) pos out
  | _ => none

/-- Reads blocks up to the one marked as the last. -/
def readBlocks (data : ByteArray) : (fuel pos : Nat) → ByteArray → Option ByteArray
  | 0, _, _ => none
  | fuel + 1, pos, out => do
    let final ← bits? data pos 1
    let kind ← bits? data (pos + 1) 2
    let (pos, out) ← readBlock data kind (pos + 3) out
    if final = 1 then some out else readBlocks data fuel pos out

/-- What deflated `data` stand for. -/
def inflate? (data : ByteArray) : Option ByteArray :=
  readBlocks data (8 * data.size + 1) 0 .empty

end CallGraph.Zip
