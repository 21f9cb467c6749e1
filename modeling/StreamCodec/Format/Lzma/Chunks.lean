import StreamCodec.Format.Lzma.Decoder

/-!
# LZMA2

LZMA2 cuts a stream into chunks. A chunk is stored or coded, says how large it
is, and may reset the dictionary, the properties and the probabilities; what it
does not reset goes on from the chunk before.
-/
namespace StreamCodec.Format.Lzma

/-- A row of chunks so far. -/
structure Chunks where
  progress : Progress
  probabilities : Array UInt16 := #[]
  /-- The first chunk has to reset the dictionary. -/
  needsReset : Bool := true
  /-- The first coded chunk after that has to bring properties. -/
  needsProperties : Bool := true
  /-- How many bytes the chunks had, with their headers. -/
  taken : Nat := 0

namespace Chunks

/-- The dictionary size that a byte stands for. -/
def dictionaryOf? (b : UInt8) : Option Nat :=
  let n := b.toNat
  if n < 40 then some ((2 + n % 2) * (1 <<< (n / 2 + 11)))
  else if n = 40 then some ((1 <<< 32) - 1)
  else none

/-- What the control byte of a coded chunk resets. -/
inductive Reset where
  | nothing
  | probabilities
  | properties
deriving DecidableEq, Repr

def Reset.ofControl (control : Nat) : Reset :=
  if 0xc0 ≤ control then .properties else if 0xa0 ≤ control then .probabilities else .nothing

/-- The chunks with an empty dictionary. -/
def resetDictionary (c : Chunks) : Chunks :=
  { c with
    progress := { c.progress with total := 0, before := 0 }
    needsReset := false
    needsProperties := true }

/-- The chunks with even odds and new properties. -/
def renew (c : Chunks) (properties : Properties) : Chunks :=
  { c with
    progress := { c.progress.fresh with properties }
    probabilities := evenOdds properties
    needsProperties := false }

def stored (c : Chunks) : Flow Chunks := do
  let size := (← Flow.bigEndian16) + 1
  Flow.copyThrough size
  let history ← Flow.history
  let progress := { c.progress with
    total := c.progress.total + size
    before := byteAt history (history.size - 1) }
  return { c with progress, taken := c.taken + 3 + size }

/-- The symbols of a coded chunk of so many bytes. -/
def coded (c : Chunks) (plainSize codedSize : Nat) : Flow Chunks := do
  let { progress, probabilities, needsReset, needsProperties, taken } := c
  let coder ← RangeFlow.start codedSize probabilities
  let (progress, coder) ← symbols ⟨some plainSize, false⟩ progress |>.run coder
  if coder.budget ≠ 0 then Flow.fail "chunk has bytes left"
  else return {
    progress, needsReset, needsProperties, probabilities := coder.probabilities
    taken := taken + codedSize }

def chunk (c : Chunks) : Flow (Chunks ⊕ Chunks) := do
  let control := (← Flow.byte).toNat
  if control = 0 then return .inr { c with taken := c.taken + 1 }
  else
    let resets := 0xe0 ≤ control || control = 1
    if c.needsReset && !resets then Flow.fail "no dictionary"
    else
      let c := if resets then c.resetDictionary else c
      if control < 3 then return .inl (← stored c)
      else if control < 0x80 then Flow.fail "invalid control byte"
      else if c.needsProperties && control < 0xc0 then Flow.fail "no properties"
      else
        let plainSize := (control % 32) * (1 <<< 16) + (← Flow.bigEndian16) + 1
        let codedSize := (← Flow.bigEndian16) + 1
        match Reset.ofControl control with
        | .nothing => return .inl (← coded { c with taken := c.taken + 5 } plainSize codedSize)
        | .probabilities =>
          let c := c.renew c.progress.properties
          return .inl (← coded { c with taken := c.taken + 5 } plainSize codedSize)
        | .properties =>
          match Properties.ofByte? (← Flow.byte) with
          | none => Flow.fail "invalid lzma properties"
          | some properties =>
            let c := c.renew properties
            return .inl (← coded { c with taken := c.taken + 6 } plainSize codedSize)

/-- A whole row of chunks; the answer is how many bytes it took. -/
def decode (dictionary : Nat) : Flow Nat := do
  let progress : Progress := { properties := .standard, dictionary }
  let c ← Flow.repeatFor chunk (Flow.fail "stream without end") Flow.endless { progress }
  return c.taken

end Chunks

end StreamCodec.Format.Lzma
