import StreamCodec.Format.Ranges
import StreamCodec.Format.Window
import StreamCodec.Format.Zstd.Literals

/-!
# Blocks of sequences

Behind its literals a coded block has sequences: so many literals, then a match.
Each part of a sequence is a symbol with extra bits, and each kind of symbol has
a table of its own. The last three distances can be named by their age.
-/
namespace StreamCodec.Format.Zstd

/-- What is read with a table: its largest symbol, its largest size, and the distribution for
blocks that bring none. -/
structure PartKind where
  maxSymbol : Nat
  maxLog : Nat
  defaultLog : Nat
  defaults : List Probability

namespace PartKind

def literalLength : PartKind := ⟨35, 9, 6, distribution [
  4, 3, 2, 2, 2, 2, 2, 2, 2, 2, 2, 2, 2, 1, 1, 1, 2, 2, 2, 2, 2, 2, 2, 2, 2, 3, 2, 1, 1, 1, 1, 1,
  -1, -1, -1, -1]⟩

def matchLength : PartKind := ⟨52, 9, 6, distribution [
  1, 4, 3, 2, 2, 2, 2, 2, 2, 1, 1, 1, 1, 1, 1, 1, 1, 1, 1, 1, 1, 1, 1, 1, 1, 1, 1, 1, 1, 1, 1, 1,
  1, 1, 1, 1, 1, 1, 1, 1, 1, 1, 1, 1, 1, 1, -1, -1, -1, -1, -1, -1, -1]⟩

def offset : PartKind := ⟨31, 8, 5, distribution [
  1, 1, 1, 1, 1, 1, 2, 2, 2, 1, 1, 1, 1, 1, 1, 1, 1, 1, 1, 1, 1, 1, 1, 1, -1, -1, -1, -1, -1]⟩

end PartKind

def literalLengths : Array (Nat × Nat) :=
  ranges 0 (.replicate 16 0 ++
    [1, 1, 1, 1, 2, 2, 3, 3, 4, 6, 7, 8, 9, 10, 11, 12, 13, 14, 15, 16])

def matchLengths : Array (Nat × Nat) :=
  ranges 3 (.replicate 32 0 ++
    [1, 1, 1, 1, 2, 2, 3, 3, 4, 4, 5, 7, 8, 9, 10, 11, 12, 13, 14, 15, 16])

structure Tables where
  literalLength : FseTable
  offset : FseTable
  matchLength : FseTable

/-- What blocks of a frame leave to the next. -/
structure Memory where
  code : Option LiteralCode := none
  tables : Option Tables := none
  /-- The last three distances. -/
  distances : Nat × Nat × Nat := (1, 4, 8)

/-- The table that a mode asks for, and how many bytes describe it. -/
def PartKind.table? (kind : PartKind) (mode : Nat) (before : Option FseTable)
    (data : ByteArray) : Option (FseTable × Nat) :=
  match mode with
  | 0 => some (.ofDistribution kind.defaultLog kind.defaults, 0)
  | 1 =>
    let symbol := (byteAt data 0).toNat
    if data.size = 0 ∨ kind.maxSymbol < symbol then none else some (.sole symbol, 1)
  | 2 => Distribution.table? kind.maxLog kind.maxSymbol data
  | _ => before.map (·, 0)

def sequenceCount? (data : ByteArray) : Option (Nat × Nat) :=
  let head := (byteAt data 0).toNat
  let (count, size) :=
    if head < 128 then (head, 1)
    else if head < 255 then (256 * (head - 128) + (byteAt data 1).toNat, 2)
    else (numberAt data 1 2 + 0x7f00, 3)
  if data.size < size then none else some (count, size)

def Tables.read? (data : ByteArray) (before : Option Tables) : Option (Tables × Nat) := do
  guard (0 < data.size)
  let modes := (byteAt data 0).toNat
  guard (modes % 4 = 0)
  let behind (used : Nat) : ByteArray := data.extract used data.size
  let (literalLength, a) ← PartKind.literalLength.table? (modes / 64)
    (before.map (·.literalLength)) (behind 1)
  let (offset, b) ← PartKind.offset.table? (modes / 16 % 4) (before.map (·.offset)) (behind (1 + a))
  let (matchLength, c) ← PartKind.matchLength.table? (modes / 4 % 4)
    (before.map (·.matchLength)) (behind (1 + a + b))
  return (⟨literalLength, offset, matchLength⟩, 1 + a + b + c)

/-- The distance that a value names, and the last distances after it. Values up to three name one
by its age; after no literals the ages count from the second. -/
def distanceOf? (value literals : Nat) (last : Nat × Nat × Nat) :
    Option (Nat × (Nat × Nat × Nat)) :=
  let (a, b, c) := last
  if 3 < value then some (value - 3, (value - 3, a, b))
  else
    match if literals = 0 then value + 1 else value with
    | 1 => some (a, (a, b, c))
    | 2 => some (b, (b, a, c))
    | 3 => some (c, (c, a, b))
    | _ => if a ≤ 1 then none else some (a - 1, (a - 1, a, b))

/-- A block in the making. -/
structure Building where
  /-- All plain bytes of the frame. -/
  plain : ByteArray
  /-- How many literals were used. -/
  used : Nat
  distances : Nat × Nat × Nat

/-- Appends literals and a match. -/
def Building.append? (b : Building) (literals : ByteArray) (literalLength matchLength value : Nat) :
    Option Building := do
  let { plain, used, distances } := b
  let (distance, distances) ← distanceOf? value literalLength distances
  guard (used + literalLength ≤ literals.size)
  let plain := plain ++ literals.extract used (used + literalLength)
  guard (distance ≤ plain.size)
  let copy := repeatBack plain distance matchLength
  return ⟨plain ++ copy, used + literalLength, distances⟩

/-- The numbers of one sequence from the states of the three tables. -/
def sequence? (t : Tables) (states : Nat × Nat × Nat) (span : BitSpan) :
    Option ((Nat × Nat × Nat) × BitSpan) := do
  let (l, o, m) := states
  let offsetBits := (t.offset.state o).symbol
  let (offset, span) ← span.takeHigh? offsetBits
  let (least, extra) := matchLengths.getD (t.matchLength.state m).symbol (0, 0)
  let (more, span) ← span.takeHigh? extra
  let matchLength := least + more
  let (least, extra) := literalLengths.getD (t.literalLength.state l).symbol (0, 0)
  let (more, span) ← span.takeHigh? extra
  return ((least + more, matchLength, (1 <<< offsetBits) + offset), span)

/-- Carries out so many sequences; they have to use up the span. -/
def sequences? (t : Tables) (literals : ByteArray) (maxSize : Nat) :
    (count : Nat) → (states : Nat × Nat × Nat) → BitSpan → Building → Option Building
  | 0, _, span, b => if span.size = 0 then some b else none
  | count + 1, states, span, b => do
    let ((literalLength, matchLength, value), span) ← sequence? t states span
    let b ← b.append? literals literalLength matchLength value
    if maxSize < b.plain.size then none
    else if count = 0 then sequences? t literals maxSize 0 states span b
    else
      let (l, o, m) := states
      let (l, span) ← t.literalLength.next? l span
      let (m, span) ← t.matchLength.next? m span
      let (o, span) ← t.offset.next? o span
      sequences? t literals maxSize count (l, o, m) span b

/-- Decodes a coded block of at most so many plain bytes behind those of the frame so far. -/
def block? (data : ByteArray) (maxSize : Nat) (memory : Memory) (plain : ByteArray) :
    Option (ByteArray × Memory) := do
  let limit := plain.size + maxSize
  let literals ← Literals.read? data memory.code maxSize
  let data := data.extract literals.used data.size
  let (count, size) ← sequenceCount? data
  let data := data.extract size data.size
  if count = 0 then
    guard (data.size = 0 ∧ size = 1)
    return (plain ++ literals.bytes, { memory with code := literals.code })
  else
    let (tables, size) ← Tables.read? data memory.tables
    let span ← BitSpan.belowMark? (data.extract size data.size)
    let (l, span) ← tables.literalLength.begin? span
    let (o, span) ← tables.offset.begin? span
    let (m, span) ← tables.matchLength.begin? span
    let b ← sequences? tables literals.bytes limit count (l, o, m) span
      ⟨plain, 0, memory.distances⟩
    let { plain, used, distances } := b
    let plain := plain ++ literals.bytes.extract used literals.bytes.size
    guard (plain.size ≤ limit)
    return (plain, { code := literals.code, tables := some tables, distances })

end StreamCodec.Format.Zstd
