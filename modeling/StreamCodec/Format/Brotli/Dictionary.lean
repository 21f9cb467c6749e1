import StreamCodec.Format.Brotli.Words.EightToTen
import StreamCodec.Format.Brotli.Words.ElevenToThirteen
import StreamCodec.Format.Brotli.Words.FourToSeven
import StreamCodec.Format.Brotli.Words.FourteenUp
import StreamCodec.Format.Bytes

/-!
# The dictionary

Every decoder has the same dictionary of words of four to twenty-four bytes. For
each length there is a power of two of words.
-/
namespace StreamCodec.Format.Brotli

/-- All words of one length, one after another. -/
structure WordList where
  length : Nat
  /-- The logarithm of how many words there are. -/
  log : Nat
  bytes : ByteArray

namespace WordList

def ofDigits (length : Nat) (digits : List String) : WordList :=
  let bytes := digits.foldl (fun bytes line => bytes ++ ofHex line) .empty
  ⟨length, (bytes.size / length).log2, bytes⟩

def word (list : WordList) (index : Nat) : List UInt8 :=
  (list.bytes.extract (list.length * index) (list.length * (index + 1))).toList

end WordList

/-- The words by their length, from four bytes up. -/
def dictionary : Array WordList := #[
  .ofDigits 4 Words.four, .ofDigits 5 Words.five, .ofDigits 6 Words.six, .ofDigits 7 Words.seven,
  .ofDigits 8 Words.eight, .ofDigits 9 Words.nine, .ofDigits 10 Words.ten,
  .ofDigits 11 Words.eleven, .ofDigits 12 Words.twelve, .ofDigits 13 Words.thirteen,
  .ofDigits 14 Words.fourteen, .ofDigits 15 Words.fifteen, .ofDigits 16 Words.sixteen,
  .ofDigits 17 Words.seventeen, .ofDigits 18 Words.eighteen, .ofDigits 19 Words.nineteen,
  .ofDigits 20 Words.twenty, .ofDigits 21 Words.twentyOne, .ofDigits 22 Words.twentyTwo,
  .ofDigits 23 Words.twentyThree, .ofDigits 24 Words.twentyFour]

def wordsOf? (length : Nat) : Option WordList :=
  if length < 4 then none else dictionary[length - 4]?

end StreamCodec.Format.Brotli
