/-!
# Flows

A flow is a decoder that can rest anywhere. It takes compressed bytes one at a
time, gives plain bytes, and may recall all that it gave so far; in the end it
has a result, or it fails. Because it takes a byte only when it cannot go on
without one, it takes exactly the bytes of its stream, however these are cut
into pieces.

`Flow.advance` runs a flow over the input at hand. It stops where the flow wants
a byte that is not there, and where the flow would go on though it gave more
than is wanted.
-/
namespace StreamCodec.Format

inductive Flow (α : Type) where
  | done (result : α)
  | fail (reason : String)
  | take (next : UInt8 → Flow α)
  | give (bytes : ByteArray) (next : Unit → Flow α)
  /-- Gives the next so many bytes just as they come. -/
  | copy (count : Nat) (next : Unit → Flow α)
  /-- Looks at everything that was given so far. -/
  | remember (next : ByteArray → Flow α)

namespace Flow

variable {α β γ : Type}

def bind : Flow α → (α → Flow β) → Flow β
  | .done a, f => f a
  | .fail reason, _ => .fail reason
  | .take next, f => .take fun b => (next b).bind f
  | .give bytes next, f => .give bytes fun u => (next u).bind f
  | .copy count next, f => .copy count fun u => (next u).bind f
  | .remember next, f => .remember fun history => (next history).bind f

instance : Monad Flow where
  pure := .done
  bind := bind

theorem bind_done (x : Flow α) : x.bind .done = x := by
  induction x <;> simp_all [bind]

theorem bind_bind (x : Flow α) (f : α → Flow β) (g : β → Flow γ) :
    (x.bind f).bind g = x.bind fun a => (f a).bind g := by
  induction x <;> simp_all [bind]

def byte : Flow UInt8 := .take .done

def emit (bytes : ByteArray) : Flow Unit := .give bytes .done

/-- Everything that was given so far. -/
def history : Flow ByteArray := .remember .done

def bytes : (n : Nat) → (taken : ByteArray := .empty) → Flow ByteArray
  | 0, taken => .done taken
  | n + 1, taken => .take fun b => bytes n (taken.push b)

def littleEndian : (n : Nat) → Flow Nat
  | 0 => .done 0
  | n + 1 => .take fun b => (littleEndian n).bind fun rest => .done (b.toNat + 256 * rest)

/-- Two bytes, the most significant first. -/
def bigEndian16 : Flow Nat := do
  let high ← byte
  return 256 * high.toNat + (← byte).toNat

/-- Four bytes, the most significant first. -/
def bigEndian32 : Flow UInt32 := do
  return (← bytes 4).foldl (fun n b => (n <<< 8) ||| b.toUInt32) (0 : UInt32)

def skip : (n : Nat) → Flow Unit
  | 0 => .done ()
  | n + 1 => .take fun _ => skip n

/-- Hands out the next so many bytes just as they come. -/
def copyThrough (count : Nat) : Flow Unit := .copy count .done

/-- How often a loop over the symbols of a stream goes round. Every round takes a byte in the
end, so no stream at hand comes near the bound. -/
def endless : Nat := 1 <<< 62

/-- Repeats a step until it has a result. -/
@[specialize] def repeatFor {m : Type → Type} [Monad m] {σ : Type} (step : σ → m (σ ⊕ α))
    (giveUp : m α) : (limit : Nat) → σ → m α
  | 0, _ => giveUp
  | limit + 1, s => do
    match ← step s with
    | .inl s => repeatFor step giveUp limit s
    | .inr a => pure a

/-- Where a flow stopped. -/
inductive Stop where
  /-- It has its result. -/
  | finished
  /-- It wants a byte. -/
  | starved
  /-- It gave more than is wanted. -/
  | sated
  | failed (reason : String)
deriving DecidableEq, Repr

/-- A flow that was run: how it stopped, what is left of it, how far it came in its input and all
that it gave. -/
structure Advance where
  stop : Stop
  flow : Flow Unit
  used : Nat
  history : ByteArray

/-- Runs a flow from a position of its input. Once it gave more than `limit` bytes in all, it
neither takes another byte nor fails. -/
def advance (input : ByteArray) (limit : Nat) : Flow Unit → Nat → ByteArray → Advance
  | .done (), used, history => ⟨.finished, .done (), used, history⟩
  | .fail reason, used, history =>
    ⟨if limit < history.size then .sated else .failed reason, .fail reason, used, history⟩
  | .take next, used, history =>
    if limit < history.size then ⟨.sated, .take next, used, history⟩
    else if h : used < input.size then advance input limit (next input[used]) (used + 1) history
    else ⟨.starved, .take next, used, history⟩
  | .give bytes next, used, history => advance input limit (next ()) used (history ++ bytes)
  | .copy count next, used, history =>
    if limit < history.size then ⟨.sated, .copy count next, used, history⟩
    else
      let n := min count (input.size - used)
      let history := history ++ input.extract used (used + n)
      if n = count then advance input limit (next ()) (used + n) history
      else ⟨.starved, .copy (count - n) next, used + n, history⟩
  | .remember next, used, history => advance input limit (next history) used history

end Flow

end StreamCodec.Format
