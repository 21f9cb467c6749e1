import StreamCodec.Format.Brotli.Context
import StreamCodec.Format.Brotli.Dictionary
import StreamCodec.Format.Brotli.Transform
import StreamCodec.Format.Ranges
import StreamCodec.Format.Window

/-!
# Brotli streams

A stream is a window size and a row of metablocks. A metablock holds bytes that
mean nothing, bytes that stand as they are, or commands: some literals, then a
copy of bytes from the window or of a transformed dictionary word. Literals,
commands and distances each change between types of blocks, and each type has
codes of its own.
-/
namespace StreamCodec.Format.Brotli

structure Window where
  log : Nat
  /-- Whether distances may go beyond what a standard window allows. -/
  isLarge : Bool := false

namespace Window

/-- How far back a copy may reach. -/
def reach (w : Window) : Nat := (1 <<< w.log) - 16

/-- The farthest that any copy may reach. -/
def maxDistance : Nat := (1 <<< 31) - 4

/-- How many groups of distances there are symbols for. -/
def distanceGroups (w : Window) : Nat := if w.isLarge then 124 else 48

/-- How many groups of distances, each behind `direct` others and `2 ^ postfixBits` of a kind, lie
within the farthest. -/
def groupsInReach (w : Window) (direct postfixBits : Nat) : Nat :=
  if w.isLarge then
    let offset := ((maxDistance - direct) >>> postfixBits) + 4
    2 * (offset.log2 - 2) + (offset >>> (offset.log2 - 1)) % 2
  else w.distanceGroups

def read : BitFlow Window := do
  if (← BitFlow.bit) = 0 then return ⟨16, false⟩
  else
    match ← BitFlow.bits 3 with
    | 0 =>
      match ← BitFlow.bits 3 with
      | 0 => return ⟨17, false⟩
      | 1 =>
        if (← BitFlow.bit) = 1 then BitFlow.fail "invalid window"
        else
          let log ← BitFlow.bits 6
          if log < 10 ∨ 30 < log then BitFlow.fail "invalid window" else return ⟨log, true⟩
      | n => return ⟨8 + n, false⟩
    | n => return ⟨17 + n, false⟩

end Window

def insertLengths : Array (Nat × Nat) :=
  ranges 0 [0, 0, 0, 0, 0, 0, 1, 1, 2, 2, 3, 3, 4, 4, 5, 5, 6, 7, 8, 9, 10, 12, 14, 24]

def copyLengths : Array (Nat × Nat) :=
  ranges 2 [0, 0, 0, 0, 0, 0, 0, 0, 1, 1, 2, 2, 3, 3, 4, 4, 5, 5, 6, 7, 8, 9, 10, 24]

def blockLengths : Array (Nat × Nat) :=
  ranges 1 [2, 2, 2, 2, 3, 3, 3, 3, 4, 4, 4, 4, 5, 5, 5, 5, 6, 6, 7, 8, 9, 10, 11, 12, 13, 24]

/-- A number that a symbol stands for, with the extra bits that follow it. -/
def extended (table : Array (Nat × Nat)) (symbol : Nat) : BitFlow Nat := do
  let (least, extra) := table.getD symbol (0, 0)
  return least + (← BitFlow.bits extra)

/-- The types of blocks that one kind of symbol runs through. -/
structure BlockTypes where
  count : Nat := 1
  typeCode : PrefixCode := .sole 0
  lengthCode : PrefixCode := .sole 0
  current : Nat := 0
  previous : Nat := 1
  /-- How many symbols are left in the block. -/
  left : Nat := 1 <<< 24

namespace BlockTypes

def read : BitFlow BlockTypes := do
  let count ← smallCount
  if count = 1 then return {}
  else
    let typeCode ← readCode (count + 2)
    let lengthCode ← readCode 26
    let left ← extended blockLengths (← lengthCode.read)
    return { count, typeCode, lengthCode, left }

/-- Counts one more symbol, in a new block if there is none left in this one. -/
def advance (b : BlockTypes) : BitFlow BlockTypes := do
  if 0 < b.left then return { b with left := b.left - 1 }
  else
    let current ← match ← b.typeCode.read with
      | 0 => pure b.previous
      | 1 => pure ((b.current + 1) % b.count)
      | s => pure (s - 2)
    let left ← extended blockLengths (← b.lengthCode.read)
    return { b with current, previous := b.current, left := left - 1 }

end BlockTypes

/-- What the head of a metablock settles. -/
structure Codes where
  modes : Array ContextMode
  literalMap : Array Nat
  distanceMap : Array Nat
  literals : Array PrefixCode
  commands : Array PrefixCode
  distances : Array PrefixCode
  /-- How many distances have symbols of their own, and how many low bits of the others have. -/
  directDistances : Nat
  postfixBits : Nat

/-- How far a metablock has come. -/
structure Progress where
  literalTypes : BlockTypes
  commandTypes : BlockTypes
  distanceTypes : BlockTypes
  /-- How many plain bytes are left. -/
  left : Nat
  /-- The last four distances, the latest first. -/
  last : Nat × Nat × Nat × Nat
  /-- The last two bytes, the latest first. -/
  before : UInt8 × UInt8

def readCodes (count : Nat) (code : BitFlow PrefixCode) : BitFlow (Array PrefixCode) := do
  let codes ← (List.replicate count ()).mapM fun _ => code
  return codes.toArray

def commandCount : Nat := 704

/-- The head of a metablock of commands. -/
def readCodesAndTypes (window : Window) (size : Nat) (last : Nat × Nat × Nat × Nat)
    (before : UInt8 × UInt8) : BitFlow (Codes × Progress) := do
  let literalTypes ← BlockTypes.read
  let commandTypes ← BlockTypes.read
  let distanceTypes ← BlockTypes.read
  let postfixBits ← BitFlow.bits 2
  let directDistances := (← BitFlow.bits 4) * (1 <<< postfixBits)
  let modes ← (List.replicate literalTypes.count ()).mapM fun _ => do
    return ContextMode.ofBits (← BitFlow.bits 2)
  let (literalCodes, literalMap) ← contextMap (64 * literalTypes.count)
  let (distanceCodes, distanceMap) ← contextMap (4 * distanceTypes.count)
  let literals ← readCodes literalCodes (readCode 256)
  let commands ← readCodes commandTypes.count (readCode commandCount)
  let distances ← readCodes distanceCodes (readCodeBelow
    (16 + directDistances + window.distanceGroups * (1 <<< postfixBits))
    (16 + directDistances + window.groupsInReach directDistances postfixBits * (1 <<< postfixBits)))
  return ({ modes := modes.toArray, literalMap, distanceMap, literals, commands, distances,
            directDistances, postfixBits },
    { literalTypes, commandTypes, distanceTypes, left := size, last, before })

def codeAt (codes : Array PrefixCode) (i : Nat) : PrefixCode := codes.getD i (.sole 0)

def literals (c : Codes) : (count : Nat) → Progress → BitFlow Progress
  | 0, p => pure p
  | count + 1, p => do
    let literalTypes ← p.literalTypes.advance
    let mode := c.modes.getD literalTypes.current .low
    let context := 64 * literalTypes.current + mode.context p.before.1 p.before.2
    let b := UInt8.ofNat (← (codeAt c.literals (c.literalMap.getD context 0)).read)
    Flow.emit ⟨#[b]⟩
    literals c count { p with literalTypes, before := (b, p.before.1) }

/-- A command: how many literals, how many bytes to copy, and whether from the last distance. -/
structure Command where
  insert : Nat
  copy : Nat
  repeatsDistance : Bool

/-- The first insert and copy symbol of each group of commands, eight of each by eight. -/
def commandGroups : Array (Nat × Nat) :=
  #[(0, 0), (0, 8), (0, 0), (0, 8), (8, 0), (8, 8), (0, 16), (16, 0), (8, 16), (16, 8), (16, 16)]

def command (code : PrefixCode) : BitFlow Command := do
  let s ← code.read
  let (insert, copy) := commandGroups.getD (s / 64) (0, 0)
  let insert ← extended insertLengths (insert + s / 8 % 8)
  let copy ← extended copyLengths (copy + s % 8)
  return ⟨insert, copy, s < 128⟩

/-- The distance that symbols below sixteen name by its age, some with a small change. -/
def recentDistance (last : Nat × Nat × Nat × Nat) (s : Nat) : Int :=
  let (a, b, c, d) := last
  let change : Int := [-1, 1, -2, 2, -3, 3].getD ((s - 4) % 6) 0
  if s = 0 then a else if s = 1 then b else if s = 2 then c else if s = 3 then d
  else if s < 10 then a + change
  else b + change

def distance (c : Codes) (code : PrefixCode) (last : Nat × Nat × Nat × Nat) :
    BitFlow (Nat × Bool) := do
  let s ← code.read
  if s < 16 then
    let d := recentDistance last s
    if d ≤ 0 then BitFlow.fail "invalid distance" else return (d.toNat, s ≠ 0)
  else if s < 16 + c.directDistances then return (s - 15, true)
  else
    let s := s - 16 - c.directDistances
    let extra := 1 + (s >>> (c.postfixBits + 1))
    let high := s >>> c.postfixBits
    let low := s % (1 <<< c.postfixBits)
    let offset := (2 + high % 2) * (1 <<< extra) - 4 + (← BitFlow.bits extra)
    return (offset * (1 <<< c.postfixBits) + low + c.directDistances + 1, true)

/-- Gives bytes, which must not be more than are left. -/
def emit (p : Progress) (bytes : ByteArray) : BitFlow Progress := do
  if p.left < bytes.size then BitFlow.fail "metablock overrun"
  else
    Flow.emit bytes
    let second := if bytes.size < 2 then p.before.1 else byteAt bytes (bytes.size - 2)
    return { p with
      left := p.left - bytes.size
      before := if bytes.size = 0 then p.before else (byteAt bytes (bytes.size - 1), second) }

/-- The dictionary word with this number among those of its length, which tells the transform
too. -/
def dictionaryWord? (length number : Nat) : Option ByteArray := do
  let list ← wordsOf? length
  let word ← transformed? (list.word (number % (1 <<< list.log))) (number >>> list.log)
  return ofList word

/-- Copies from the window, or from the dictionary where the distance reaches beyond it. -/
def copy (window : Window) (p : Progress) (length distance : Nat) (isNew : Bool) :
    BitFlow Progress := do
  let history ← Flow.history
  let reach := min history.size window.reach
  if distance ≤ reach then
    let (a, b, c, _) := p.last
    let last := if isNew then (distance, a, b, c) else p.last
    emit { p with last } (repeatBack history distance length)
  else
    match dictionaryWord? length (distance - reach - 1) with
    | none => BitFlow.fail "no such dictionary word"
    | some word => emit p word

def commandStep (window : Window) (c : Codes) (p : Progress) : BitFlow (Progress ⊕ Progress) := do
  if p.left = 0 then return .inr p
  else
    let commandTypes ← p.commandTypes.advance
    let k ← command (codeAt c.commands commandTypes.current)
    let p := { p with commandTypes }
    if p.left < k.insert then BitFlow.fail "metablock overrun"
    else
      let p ← literals c k.insert { p with left := p.left - k.insert }
      if p.left = 0 then return .inr p
      else if k.repeatsDistance then return .inl (← copy window p k.copy p.last.1 false)
      else
        let distanceTypes ← p.distanceTypes.advance
        let context := 4 * distanceTypes.current + distanceContext k.copy
        let code := codeAt c.distances (c.distanceMap.getD context 0)
        let (d, isNew) ← distance c code p.last
        return .inl (← copy window { p with distanceTypes } k.copy d isNew)

inductive Head where
  /-- There is nothing more. -/
  | lastEmpty
  | metadata (size : Nat)
  | stored (size : Nat)
  | coded (size : Nat)

/-- A number of so many digits of so many bits, whose last is not zero if there are more than
`plain`. -/
def digits (bits plain : Nat) (count : Nat) : BitFlow Nat := do
  let digits ← (List.replicate count ()).mapM fun _ => BitFlow.bits bits
  if plain < count && digits.getLast? = some 0 then BitFlow.fail "number too long"
  else return digits.foldr (fun digit rest => digit + (1 <<< bits) * rest) 0

/-- The head of a metablock, and whether it is the last. -/
def readHead : BitFlow (Head × Bool) := do
  let isLast := (← BitFlow.bit) = 1
  let isEmpty ← if isLast then BitFlow.bit else pure 0
  if isEmpty = 1 then return (.lastEmpty, true)
  else
    let nibbles ← BitFlow.bits 2
    if nibbles = 3 then
      if (← BitFlow.bit) = 1 then BitFlow.fail "reserved bit is set"
      else
        let bytes ← BitFlow.bits 2
        if bytes = 0 then return (.metadata 0, isLast)
        else return (.metadata ((← digits 8 1 bytes) + 1), isLast)
    else
      let size := (← digits 4 4 (nibbles + 4)) + 1
      let isStored ← if isLast then pure 0 else BitFlow.bit
      return (if isStored = 1 then .stored size else .coded size, isLast)

/-- Goes on to the next byte; the bits before it must be zero. -/
def alignBlank : BitFlow Unit := do
  if (← BitFlow.align) = 0 then return () else BitFlow.fail "padding is not zero"

/-- The last two bytes of everything given so far. -/
def lastBytes : Flow (UInt8 × UInt8) := do
  let history ← Flow.history
  let back (n : Nat) : UInt8 := if history.size < n then 0 else byteAt history (history.size - n)
  return (back 1, back 2)

/-- One metablock after some distances; the answer is those it leaves, unless it is the last. -/
def metablock (window : Window) (last : Nat × Nat × Nat × Nat) :
    BitFlow ((Nat × Nat × Nat × Nat) ⊕ Unit) := do
  let (head, isLast) ← readHead
  let last ← match head with
    | .lastEmpty => pure last
    | .metadata size => do
      alignBlank
      Flow.skip size
      pure last
    | .stored size => do
      alignBlank
      Flow.copyThrough size
      pure last
    | .coded size => do
      let (codes, p) ← readCodesAndTypes window size last (← lastBytes)
      let p ← Flow.repeatFor (commandStep window codes) (BitFlow.fail "metablock without end")
        Flow.endless p
      pure p.last
  if isLast then
    alignBlank
    return .inr ()
  else return .inl last

def decode : Flow Unit :=
  BitFlow.run do
    let window ← Window.read
    Flow.repeatFor (metablock window) (BitFlow.fail "stream without end") Flow.endless
      (4, 11, 15, 16)

end StreamCodec.Format.Brotli
