/-!
# Symbols for ranges

Many formats code a number as a symbol that stands for a range of numbers, and
extra bits that say which of them it is. The ranges follow one another.
-/
namespace StreamCodec.Format

/-- The least number and the extra bits of each symbol, from the extra bits alone. -/
def ranges (least : Nat) (extras : List Nat) : Array (Nat × Nat) :=
  (extras.foldl (fun (table, next) extra => (table.push (next, extra), next + (1 <<< extra)))
    ((#[] : Array (Nat × Nat)), least)).1

end StreamCodec.Format
