import StreamCodec.Block.Basic
import StreamCodec.Format.Window

/-!
# LZ4 blocks

A block is a row of sequences: some literal bytes, then a match in what is
decoded by then. The last sequence has literals only. `compress` writes a single
sequence of literals, but only where the worst case of any block would fit.
-/
namespace StreamCodec.Format.Lz4

/-- The bytes of a length that goes beyond its four bits: as many full bytes as it takes, and
one that is not full. -/
def lengthTail (excess : Nat) : List UInt8 :=
  .replicate (excess / 255) 255 ++ [UInt8.ofNat (excess % 255)]

/-- A block that has `src` as its literals. -/
def literalBlock (src : ByteArray) : ByteArray :=
  let head : List UInt8 :=
    if src.size < 15 then [UInt8.ofNat (16 * src.size)]
    else 0xf0 :: lengthTail (src.size - 15)
  ⟨head.toArray⟩ ++ src

def compress (src : ByteArray) (capacity : Nat) : Option ByteArray :=
  if (lz4Bound (UInt64.ofNat src.size)).toNat ≤ capacity then some (literalBlock src) else none

/-- A length from its four bits and the bytes behind them, with the position after it. -/
def readLength (src : ByteArray) (pos length : Nat) : Except String (Nat × Nat) :=
  if length < 15 then .ok (length, pos) else go pos length
where
  go (pos length : Nat) : Except String (Nat × Nat) :=
    if h : pos < src.size then
      if src[pos] = 255 then go (pos + 1) (length + 255)
      else .ok (length + src[pos].toNat, pos + 1)
    else .error "length cut short"
  termination_by src.size - pos

/-- Decodes the sequences from a position on. -/
def sequences (src : ByteArray) (capacity : Nat) : (limit pos : Nat) → (plain : ByteArray) →
    Except String ByteArray
  | 0, _, _ => .error "block without end"
  | limit + 1, pos, plain =>
    match src[pos]? with
    | none => .error "block cut short"
    | some token =>
      match readLength src (pos + 1) (token.toNat / 16) with
      | .error reason => .error reason
      | .ok (literals, pos) =>
        if src.size < pos + literals then .error "literals cut short"
        else if capacity < plain.size + literals then .error "plain text does not fit"
        else
          let plain := plain ++ src.extract pos (pos + literals)
          let pos := pos + literals
          if pos = src.size then .ok plain
          else
            match src[pos]?, src[pos + 1]? with
            | some low, some high =>
              let distance := low.toNat + 256 * high.toNat
              match readLength src (pos + 2) (token.toNat % 16) with
              | .error reason => .error reason
              | .ok (length, pos) =>
                if distance = 0 || plain.size < distance then .error "match out of reach"
                else if capacity < plain.size + (length + 4) then
                  .error "plain text does not fit"
                else
                  sequences src capacity limit pos (plain ++ repeatBack plain distance (length + 4))
            | _, _ => .error "distance cut short"

/-- Decodes a block whose plain text has at most so many bytes. -/
def decompress (src : ByteArray) (capacity : Nat) : Except String ByteArray :=
  sequences src capacity (src.size + 1) 0 .empty

def format : BlockFormat where
  compress
  decompress

end StreamCodec.Format.Lz4
