/-!
# Transforms of dictionary words

A stream names a dictionary word together with a transform: an edit of the word,
between a text before it and a text behind it.
-/
namespace StreamCodec.Format.Brotli

inductive Edit where
  | keep
  | omitFirst (count : Nat)
  | omitLast (count : Nat)
  /-- Its first letter becomes upper case. -/
  | capitalize
  /-- All its letters become upper case. -/
  | upperCase
deriving DecidableEq, Repr

namespace Edit

/-- The first letter of a word in upper case, and what is behind it. A letter has as many bytes
as its first byte tells, and the case of the longer ones is changed by flipping bits. -/
def raiseFirst : List UInt8 → List UInt8 × List UInt8
  | [] => ([], [])
  | a :: rest =>
    if a < 0xc0 then ([if 97 ≤ a ∧ a ≤ 122 then a ^^^ 32 else a], rest)
    else if a < 0xe0 then
      match rest with
      | b :: rest => ([a, b ^^^ 32], rest)
      | [] => ([a], [])
    else
      match rest with
      | b :: c :: rest => ([a, b, c ^^^ 5], rest)
      | rest => (a :: rest, [])

/-- All letters of a word in upper case; a word has no more letters than bytes. -/
def raiseAll : (limit : Nat) → List UInt8 → List UInt8
  | 0, word => word
  | limit + 1, word =>
    match raiseFirst word with
    | (letter, []) => letter
    | (letter, rest) => letter ++ raiseAll limit rest

def apply (word : List UInt8) : Edit → List UInt8
  | .keep => word
  | .omitFirst count => word.drop count
  | .omitLast count => word.take (word.length - count)
  | .capitalize =>
    let (letter, rest) := raiseFirst word
    letter ++ rest
  | .upperCase => raiseAll word.length word

end Edit

/-- The text before, the edit and the text behind of each transform. -/
def transforms : Array (String × Edit × String) := #[
  ("", .keep, ""), ("", .keep, " "), (" ", .keep, " "), ("", .omitFirst 1, ""),
  ("", .capitalize, " "), ("", .keep, " the "), (" ", .keep, ""), ("s ", .keep, " "),
  ("", .keep, " of "), ("", .capitalize, ""), ("", .keep, " and "), ("", .omitFirst 2, ""),
  ("", .omitLast 1, ""), (", ", .keep, " "), ("", .keep, ", "), (" ", .capitalize, " "),
  ("", .keep, " in "), ("", .keep, " to "), ("e ", .keep, " "), ("", .keep, "\""),
  ("", .keep, "."), ("", .keep, "\">"), ("", .keep, "\n"), ("", .omitLast 3, ""), ("", .keep, "]"),
  ("", .keep, " for "), ("", .omitFirst 3, ""), ("", .omitLast 2, ""), ("", .keep, " a "),
  ("", .keep, " that "), (" ", .capitalize, ""), ("", .keep, ". "), (".", .keep, ""),
  (" ", .keep, ", "), ("", .omitFirst 4, ""), ("", .keep, " with "), ("", .keep, "'"),
  ("", .keep, " from "), ("", .keep, " by "), ("", .omitFirst 5, ""), ("", .omitFirst 6, ""),
  (" the ", .keep, ""), ("", .omitLast 4, ""), ("", .keep, ". The "), ("", .upperCase, ""),
  ("", .keep, " on "), ("", .keep, " as "), ("", .keep, " is "), ("", .omitLast 7, ""),
  ("", .omitLast 1, "ing "), ("", .keep, "\n\t"), ("", .keep, ":"), (" ", .keep, ". "),
  ("", .keep, "ed "), ("", .omitFirst 9, ""), ("", .omitFirst 7, ""), ("", .omitLast 6, ""),
  ("", .keep, "("), ("", .capitalize, ", "), ("", .omitLast 8, ""), ("", .keep, " at "),
  ("", .keep, "ly "), (" the ", .keep, " of "), ("", .omitLast 5, ""), ("", .omitLast 9, ""),
  (" ", .capitalize, ", "), ("", .capitalize, "\""), (".", .keep, "("), ("", .upperCase, " "),
  ("", .capitalize, "\">"), ("", .keep, "=\""), (" ", .keep, "."), (".com/", .keep, ""),
  (" the ", .keep, " of the "), ("", .capitalize, "'"), ("", .keep, ". This "), ("", .keep, ","),
  (".", .keep, " "), ("", .capitalize, "("), ("", .capitalize, "."), ("", .keep, " not "),
  (" ", .keep, "=\""), ("", .keep, "er "), (" ", .upperCase, " "), ("", .keep, "al "),
  (" ", .upperCase, ""), ("", .keep, "='"), ("", .upperCase, "\""), ("", .capitalize, ". "),
  (" ", .keep, "("), ("", .keep, "ful "), (" ", .capitalize, ". "), ("", .keep, "ive "),
  ("", .keep, "less "), ("", .upperCase, "'"), ("", .keep, "est "), (" ", .capitalize, "."),
  ("", .upperCase, "\">"), (" ", .keep, "='"), ("", .capitalize, ","), ("", .keep, "ize "),
  ("", .upperCase, "."), ("\u00a0", .keep, ""), (" ", .keep, ","), ("", .capitalize, "=\""),
  ("", .upperCase, "=\""), ("", .keep, "ous "), ("", .upperCase, ", "), ("", .capitalize, "='"),
  (" ", .capitalize, ","), (" ", .upperCase, "=\""), (" ", .upperCase, ", "),
  ("", .upperCase, ","), ("", .upperCase, "("), ("", .upperCase, ". "), (" ", .upperCase, "."),
  ("", .upperCase, "='"), (" ", .upperCase, ". "), (" ", .capitalize, "=\""),
  (" ", .upperCase, "='"), (" ", .capitalize, "='")]

def transformed? (word : List UInt8) (transform : Nat) : Option (List UInt8) :=
  transforms[transform]?.map fun (before, edit, behind) =>
    before.toUTF8.toList ++ edit.apply word ++ behind.toUTF8.toList

end StreamCodec.Format.Brotli
