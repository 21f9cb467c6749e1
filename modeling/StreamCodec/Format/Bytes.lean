/-!
# Bytes and numbers

Bytes at a position, and numbers as rows of bytes.
-/
namespace StreamCodec.Format

def byteAt (data : ByteArray) (pos : Nat) : UInt8 := if h : pos < data.size then data[pos] else 0

/-- The number in so many bytes from a position on, the least significant first. -/
def numberAt (data : ByteArray) (pos : Nat) : (width : Nat) → Nat
  | 0 => 0
  | width + 1 => (byteAt data pos).toNat + 256 * numberAt data (pos + 1) width

/-- A number as so many bytes, the least significant first. -/
def littleEndian (n : Nat) : (width : Nat) → List UInt8
  | 0 => []
  | width + 1 => UInt8.ofNat n :: littleEndian (n / 256) width

/-- A number as so many bytes, the most significant first. -/
def bigEndian (n width : Nat) : List UInt8 := (littleEndian n width).reverse

def ofList (bytes : List UInt8) : ByteArray := ⟨bytes.toArray⟩

def hexDigit (c : Char) : Nat := if c ≤ '9' then c.toNat - 48 else c.toNat - 87

/-- The bytes that pairs of hexadecimal digits stand for. -/
def ofHex (digits : String) : ByteArray :=
  let (bytes, _) := digits.foldl (fun (bytes, high) c =>
    match high with
    | none => (bytes, some (hexDigit c))
    | some high => (bytes.push (UInt8.ofNat (16 * high + hexDigit c)), none))
    (ByteArray.empty, (none : Option Nat))
  bytes

@[simp] theorem length_littleEndian (n width : Nat) : (littleEndian n width).length = width := by
  induction width generalizing n <;> simp_all [littleEndian]

end StreamCodec.Format
