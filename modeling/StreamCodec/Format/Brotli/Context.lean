import StreamCodec.Format.Brotli.Codes

/-!
# Contexts

The code of a literal is chosen by a context of the two bytes before it, that of
a distance by the length of its copy. A context map says which code belongs to
which context in which type of block.
-/
namespace StreamCodec.Format.Brotli

/-- What of the two bytes before a literal makes its context. -/
inductive ContextMode where
  /-- The low six bits of the last byte. -/
  | low
  /-- The high six bits of the last byte. -/
  | high
  /-- The kinds of both bytes, as parts of text. -/
  | text
  /-- The magnitudes of both bytes, as numbers with a sign. -/
  | signed
deriving DecidableEq, Repr

namespace ContextMode

def ofBits : Nat → ContextMode
  | 0 => .low
  | 1 => .high
  | 2 => .text
  | _ => .signed

/-- The kinds of the ASCII characters. -/
def asciiKinds : Array Nat := #[
  0, 0, 0, 0, 0, 0, 0, 0, 0, 1, 1, 0, 0, 1, 0, 0, 0, 0, 0, 0, 0, 0, 0, 0, 0, 0, 0, 0, 0, 0, 0, 0,
  2, 3, 4, 3, 3, 5, 3, 4, 6, 7, 3, 3, 8, 3, 9, 3,
  11, 11, 11, 11, 11, 11, 11, 11, 11, 11, 8, 8, 6, 10, 7, 3,
  3, 12, 13, 13, 13, 12, 13, 13, 13, 12, 13, 13, 13, 13, 13, 12,
  13, 13, 13, 13, 13, 12, 13, 13, 13, 13, 13, 6, 3, 7, 3, 3,
  3, 14, 15, 15, 15, 14, 15, 15, 15, 14, 15, 15, 15, 15, 15, 14,
  15, 15, 15, 15, 15, 14, 15, 15, 15, 15, 15, 6, 3, 7, 3, 0]

/-- The kind of the last byte of a text. -/
def lastKind (b : Nat) : Nat :=
  if b < 128 then 4 * asciiKinds.getD b 0 else if b < 192 then b % 2 else 2 + b % 2

/-- The kind of the byte before the last. -/
def secondKind (b : Nat) : Nat :=
  if b < 33 ∨ b = 127 then 0
  else if b < 128 then
    if 48 ≤ b ∧ b ≤ 57 ∨ 65 ≤ b ∧ b ≤ 90 then 2 else if 97 ≤ b ∧ b ≤ 122 then 3 else 1
  else if b < 224 then 0
  else 2

def magnitude (b : Nat) : Nat :=
  if b = 0 then 0 else if b < 16 then 1 else if b < 64 then 2 else if b < 128 then 3
  else if b < 192 then 4 else if b < 240 then 5 else if b < 255 then 6 else 7

def context (mode : ContextMode) (last second : UInt8) : Nat :=
  match mode with
  | .low => last.toNat % 64
  | .high => last.toNat / 4
  | .text => lastKind last.toNat ||| secondKind second.toNat
  | .signed => 8 * magnitude last.toNat + magnitude second.toNat

end ContextMode

/-- The context of a distance, for a copy of so many bytes. -/
def distanceContext (length : Nat) : Nat := min (length - 2) 3

/-- A number from 1 to 256. -/
def smallCount : BitFlow Nat := do
  if (← BitFlow.bit) = 0 then return 1
  else
    let n ← BitFlow.bits 3
    return 1 + (1 <<< n) + (← BitFlow.bits n)

/-- The entries of a context map, with runs of zeros written as one symbol. -/
def mapEntries (code : PrefixCode) (maxRun size : Nat) : BitFlow (Array Nat) :=
  Flow.repeatFor (fun entries => do
    if entries.size = size then return .inr entries
    else
      let s ← code.read
      let entries ←
        if s = 0 then pure (entries.push 0)
        else if s ≤ maxRun then do
          pure (entries ++ Array.replicate ((1 <<< s) + (← BitFlow.bits s)) 0)
        else pure (entries.push (s - maxRun))
      if size < entries.size then BitFlow.fail "context map overrun" else return .inl entries)
    (BitFlow.fail "context map without end") (size + 1) #[]

/-- Replaces each entry by what stands at that place of a list, and moves it to the front. -/
def moveToFront (entries : List Nat) : (order : List Nat := List.range 256) → List Nat :=
  match entries with
  | [] => fun _ => []
  | i :: entries => fun order =>
    let x := order.getD i 0
    x :: moveToFront entries (x :: order.eraseIdx i)

def contextMap (size : Nat) : BitFlow (Nat × Array Nat) := do
  let codes ← smallCount
  if codes = 1 then return (codes, Array.replicate size 0)
  else
    let maxRun ← if (← BitFlow.bit) = 0 then pure 0 else do pure (1 + (← BitFlow.bits 4))
    let entries ← mapEntries (← readCode (codes + maxRun)) maxRun size
    if (← BitFlow.bit) = 0 then return (codes, entries)
    else return (codes, (moveToFront entries.toList).toArray)

end StreamCodec.Format.Brotli
