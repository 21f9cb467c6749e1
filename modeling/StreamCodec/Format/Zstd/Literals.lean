import StreamCodec.Format.Zstd.Fse

/-!
# Literals

A block begins with its literal bytes: as they are, one byte repeated, or coded
with a prefix code. The code is described by a weight for each symbol; heavier
symbols have shorter codes. Coded literals stand in one span, or in four of
about equal length, that are read backwards.
-/
namespace StreamCodec.Format.Zstd

def maxLiteralBits : Nat := 12

/-- A prefix code as a table: an entry for each value of the next `bits` bits. -/
structure LiteralCode where
  bits : Nat
  /-- The symbol and the length of its code. -/
  entries : Array (UInt8 × Nat)

namespace LiteralCode

def share (weight : Nat) : Nat := if weight = 0 then 0 else 1 <<< (weight - 1)

/-- The weight of the last symbol, which makes the code complete, with the longest code. -/
def lastWeight? (weights : List Nat) : Option (Nat × Nat) :=
  let total := weights.foldl (fun sum w => sum + share w) 0
  let bits := total.log2 + 1
  let left := (1 <<< bits) - total
  if total = 0 ∨ maxLiteralBits < bits ∨ 1 <<< left.log2 ≠ left then none
  else some (left.log2 + 1, bits)

/-- The code with these weights, the last symbol's excepted. -/
def ofWeights? (weights : List Nat) : Option LiteralCode := do
  let (last, bits) ← lastWeight? weights
  let weights := weights ++ [last]
  let lightest := weights.count 1
  guard (2 ≤ lightest ∧ lightest % 2 = 0 ∧ weights.length ≤ 256)
  let entries := (List.range bits).flatMap fun i =>
    weights.zipIdx.flatMap fun (w, symbol) =>
      if w = i + 1 then List.replicate (1 <<< i) (UInt8.ofNat symbol, bits - i) else []
  return ⟨bits, entries.toArray⟩

/-- So many symbols from the high end of a span, which they have to use up. -/
def decode? (code : LiteralCode) : (count : Nat) → (span : BitSpan) → (literals : ByteArray) →
    Option ByteArray
  | 0, span, literals => if span.size = 0 then some literals else none
  | count + 1, span, literals =>
    let (symbol, length) := code.entries.getD (span.peekHigh code.bits) (0, 0)
    match span.dropHigh? length with
    | some span => decode? code count span (literals.push symbol)
    | none => none

/-- The symbols of two states that take turns, up to the one for which no bits are left. -/
def alternate (t : FseTable) : (limit : Nat) → (first second : Nat) → BitSpan → List Nat
  | 0, _, _, _ => []
  | limit + 1, first, second, span =>
    (t.state first).symbol ::
      match t.next? first span with
      | none => [(t.state second).symbol]
      | some (first, span) => alternate t limit second first span

/-- The weights in some bytes that are coded with a table of states. -/
def codedWeights? (data : ByteArray) : Option (List Nat) := do
  let (table, used) ← Distribution.table? 6 255 data
  let span ← BitSpan.belowMark? (data.extract used data.size)
  let (first, span) ← table.begin? span
  let (second, span) ← table.begin? span
  let weights := alternate table 256 first second span
  guard (weights.length ≤ 255)
  return weights

/-- The code described at the head of some bytes, and how many of them describe it. -/
def read? (data : ByteArray) : Option (LiteralCode × Nat) := do
  let head := (byteAt data 0).toNat
  if head < 128 then
    guard (head < data.size)
    let code ← ofWeights? (← codedWeights? (data.extract 1 (1 + head)))
    return (code, 1 + head)
  else
    let count := head - 127
    let size := (count + 1) / 2
    guard (size < data.size)
    let weights := (List.range count).map fun i =>
      let b := (byteAt data (1 + i / 2)).toNat
      if i % 2 = 0 then b / 16 else b % 16
    return (← ofWeights? weights, 1 + size)

end LiteralCode

/-- The literals of a block, the code they leave for the next, and how many bytes they took. -/
structure Literals where
  bytes : ByteArray
  code : Option LiteralCode
  used : Nat

namespace Literals

/-- How many literals a coded section has, in how many bytes, after how large a header, and
whether they stand in four spans. -/
structure CodedHeader where
  plainSize : Nat
  codedSize : Nat
  size : Nat
  isSplit : Bool

def CodedHeader.read (data : ByteArray) : CodedHeader :=
  let format := (byteAt data 0).toNat / 4 % 4
  let (bits, size) := match format with
    | 2 => (14, 4)
    | 3 => (18, 5)
    | _ => (10, 3)
  let n := numberAt data 0 size / 16
  ⟨n % (1 <<< bits), n >>> bits, size, format ≠ 0⟩

def ofSpan? (code : LiteralCode) (data : ByteArray) (count : Nat) (literals : ByteArray) :
    Option ByteArray := do
  code.decode? count (← BitSpan.belowMark? data) literals

/-- So many literals from four spans, behind the sizes of the first three. -/
def ofSplit? (code : LiteralCode) (data : ByteArray) (count : Nat) : Option ByteArray := do
  let a := numberAt data 0 2
  let b := numberAt data 2 2
  let c := numberAt data 4 2
  let quarter := (count + 3) / 4
  guard (6 + a + b + c < data.size ∧ 6 ≤ count ∧ 3 * quarter ≤ count)
  let piece (start size : Nat) : ByteArray := data.extract (6 + start) (6 + start + size)
  let literals ← ofSpan? code (piece 0 a) quarter .empty
  let literals ← ofSpan? code (piece a b) quarter literals
  let literals ← ofSpan? code (piece (a + b) c) quarter literals
  ofSpan? code (data.extract (6 + a + b + c) data.size) (count - 3 * quarter) literals

/-- Coded literals, with a code of their own or the one from before. -/
def coded? (data : ByteArray) (before : Option LiteralCode) (maxSize : Nat) :
    Option Literals := do
  let h := CodedHeader.read data
  let used := h.size + h.codedSize
  guard (used ≤ data.size ∧ h.plainSize ≤ maxSize)
  let body := data.extract h.size used
  let (code, described) ← match before with
    | some code => some (code, 0)
    | none => LiteralCode.read? body
  let body := body.extract described body.size
  let bytes ← if h.isSplit then ofSplit? code body h.plainSize
    else ofSpan? code body h.plainSize .empty
  return ⟨bytes, some code, used⟩

/-- The size of literals that are not coded, with the size of the header. -/
def plainHeader (data : ByteArray) : Nat × Nat :=
  match (byteAt data 0).toNat / 4 % 4 with
  | 1 => (numberAt data 0 2 / 16, 2)
  | 3 => (numberAt data 0 3 / 16, 3)
  | _ => (numberAt data 0 1 / 8, 1)

/-- The literals at the head of a block, after a block that left the code `before`. -/
def read? (data : ByteArray) (before : Option LiteralCode) (maxSize : Nat) :
    Option Literals := do
  guard (2 ≤ data.size)
  let (size, start) := plainHeader data
  match (byteAt data 0).toNat % 4 with
  | 0 =>
    guard (start + size ≤ data.size ∧ size ≤ maxSize)
    return ⟨data.extract start (start + size), before, start + size⟩
  | 1 =>
    guard (start < data.size ∧ size ≤ maxSize)
    return ⟨⟨Array.replicate size (byteAt data start)⟩, before, start + 1⟩
  | 2 => coded? data none maxSize
  | _ =>
    guard before.isSome
    coded? data before maxSize

end Literals

end StreamCodec.Format.Zstd
