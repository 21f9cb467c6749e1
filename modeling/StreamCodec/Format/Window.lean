import StreamCodec.Format.Bytes

/-!
# Copies from a window

A match repeats bytes that were decoded before: it starts so many bytes back
and may run into its own output. `repeatBack` is the copy. Before the first
byte the window is blank.
-/
namespace StreamCodec.Format

/-- Appends `length` bytes to a copy that repeats what stands `distance` bytes back in the
history with the copy behind it. -/
def repeatBack (history : ByteArray) (distance : Nat) : (length : Nat) →
    (copy : ByteArray := .empty) → ByteArray
  | 0, copy => copy
  | length + 1, copy =>
    let b :=
      if distance ≤ copy.size then byteAt copy (copy.size - distance)
      else if distance ≤ history.size + copy.size then
        byteAt history (history.size + copy.size - distance)
      else 0
    repeatBack history distance length (copy.push b)

@[simp] theorem size_repeatBack (history : ByteArray) (distance length : Nat)
    (copy : ByteArray) :
    (repeatBack history distance length copy).size = copy.size + length := by
  induction length generalizing copy with
  | zero => simp [repeatBack]
  | succ length ih => rw [repeatBack, ih, ByteArray.size_push]; omega

end StreamCodec.Format
