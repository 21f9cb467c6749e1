import StreamCodec.Format.Checksum
import StreamCodec.Format.Lzma.Encoder
import StreamCodec.Format.Packer
import StreamCodec.Format.Xz
import StreamCodec.Format.Zstd.Frame

/-!
# The framings

How each format stores bytes as they are.
-/
namespace StreamCodec.Format.Framing

/-- Metablocks of stored bytes; the first comes behind the bit that names the window. -/
def brotli : Framing where
  limit := 1 <<< 16
  chunk := chunk
  last index rest _ :=
    if rest.size = 0 then ofList [if index = 0 then 6 else 3]
    else (chunk index rest).push 3
where
  chunk (index : Nat) (data : ByteArray) : ByteArray :=
    let n := (1 <<< 19) + 8 * (data.size - 1)
    ofList (littleEndian (if index = 0 then 2 * n else n) 3) ++ data

/-- Raw blocks in a window of `2 ^ log` bytes. -/
def zstd (log : Nat) : Framing where
  head := ofList (Zstd.magic ++ [0, UInt8.ofNat (8 * (log - 10))])
  limit := min (1 <<< log) Zstd.maxBlockSize
  chunk _ data := ofList (littleEndian (8 * data.size) 3) ++ data
  last _ rest _ := ofList (littleEndian (8 * rest.size + 1) 3) ++ rest

def storedBlock (isFinal : Bool) (data : ByteArray) : ByteArray :=
  ofList ((if isFinal then 1 else 0) ::
    (littleEndian data.size 2 ++ littleEndian (0xffff - data.size) 2)) ++ data

def deflate : Framing where
  limit := 0xffff
  chunk _ := storedBlock false
  last _ rest _ := storedBlock true rest

def zlib : Framing where
  head := ofList [0x78, 0x01]
  limit := 0xffff
  chunk _ := storedBlock false
  last _ rest plain := storedBlock true rest ++ ofList (bigEndian (adler32 plain).toNat 4)

/-- A header with only literals behind it, which are coded when the stream ends. -/
def lzmaAlone : Framing where
  limit := Flow.endless
  chunk _ _ := .empty
  last _ _ plain := Lzma.Alone.encode plain

namespace Xz

open Format.Xz

/-- Bytes with their CRC-32 behind them. -/
def withSeal (bytes : List UInt8) : List UInt8 :=
  bytes ++ littleEndian (crc32 (ofList bytes)).toNat 4

def zeros (count : Nat) : List UInt8 := .replicate count 0

def flags : List UInt8 := [0, 4]

/-- The byte that names a dictionary of at least so many bytes. -/
def dictionaryByte (size : Nat) : UInt8 :=
  UInt8.ofNat (((List.range 40).find? fun b =>
    (Lzma.Chunks.dictionaryOf? (UInt8.ofNat b)).any (size ≤ ·)).getD 40)

def blockHeader (dictionary : Nat) : List UInt8 :=
  withSeal ([2, 0, UInt8.ofNat lzma2, 1, dictionaryByte dictionary] ++ zeros 3)

/-- A number in groups of seven bits. -/
def groups (n : Nat) : List UInt8 :=
  if n < 128 then [UInt8.ofNat n] else UInt8.ofNat (n % 128 + 128) :: groups (n / 128)

/-- A stored chunk; the first resets the dictionary. -/
def chunk (index : Nat) (data : ByteArray) : ByteArray :=
  ofList ((if index = 0 then 1 else 2) :: bigEndian (data.size - 1) 2) ++ data

def trailer (dictionary chunks : Nat) (plain : ByteArray) : List UInt8 :=
  let codedSize := plain.size + 3 * chunks + 1
  let blockSize := (blockHeader dictionary).length + codedSize + 8
  let index := [0, 1] ++ groups blockSize ++ groups plain.size
  let index := withSeal (index ++ zeros (paddingOf index.length))
  let body := littleEndian (index.length / 4 - 1) 4 ++ flags
  [0] ++ zeros (paddingOf codedSize) ++ littleEndian (crc64 plain).toNat 8 ++ index ++
    littleEndian (crc32 (ofList body)).toNat 4 ++ body ++ footerMagic

end Xz

/-- One block of stored chunks. -/
def xz (dictionary : Nat) : Framing where
  head := ofList (Format.Xz.magic ++ Xz.withSeal Xz.flags ++ Xz.blockHeader dictionary)
  limit := 1 <<< 16
  chunk := Xz.chunk
  last index rest plain :=
    if rest.size = 0 then ofList (Xz.trailer dictionary index plain)
    else Xz.chunk index rest ++ ofList (Xz.trailer dictionary (index + 1) plain)

end StreamCodec.Format.Framing
