import StreamCodec.Engine.Codecs

/-!
# Scripted backends

A backend that does as it is told: every creation, every parameter and every
call takes its answer from a queue, and is noted down together with the windows
that it was offered. It stands in for any library when the behaviour of engines
and adapters is studied, since a run asks a library only finitely often.

The libraries differ in how they count. Brotli and zstd report positions within
their windows, so what a step claims is clamped for them; the running totals of
the others grow by the claim as it stands.
-/
namespace StreamCodec.Script

/-- What a step answers where a library knows more than success and failure. -/
inductive Verdict where
  | plain
  | streamEnd
  | memoryNeeded
  | bufferError
  | moreOutput
deriving DecidableEq, Repr

/-- What a step does with its windows. -/
inductive Effect where
  /-- Copies input to output, at most so many bytes. -/
  | echo (limit : Option Nat)
  /-- Claims to use so many bytes, or all, and to produce the output and `excess` more. -/
  | emit (used : Option Nat) (output : ByteArray) (excess : Nat)

/-- The prepared answer to a call. -/
structure Step where
  effect : Effect := .emit (some 0) ByteArray.empty 0
  verdict : Verdict := .plain
  hint : Nat := 0
  error : Option String := none
  hasMore : Bool := false
  isDone : Bool := false
  /-- How often the step is still used after this time. -/
  repeats : Nat := 0

/-- What answers once all steps are used up. -/
def exhausted : Step := { error := some "script exhausted" }

structure Event where
  request : String
  input : Option ByteArray := none
  room : Option Nat := none

end Script

/-- The state of a scripted backend. -/
structure Script where
  steps : List Script.Step := []
  /-- A text makes a creation fail, where it can. -/
  creations : List (Option String) := []
  parameters : List Bool := []
  /-- What was requested, last first. -/
  journal : List Script.Event := []

namespace Script

/-- The outcome of playing a step. The counts are as claimed. -/
structure Played where
  step : Step
  used : Nat
  produced : Nat
  room : ByteArray

def Effect.play (input room : ByteArray) : Effect → Nat × Nat × ByteArray
  | .echo limit =>
    let most := min input.size room.size
    let count := limit.elim most (min · most)
    (count, count, overlay room 0 (input.extract 0 count))
  | .emit used output excess => (used.getD input.size, output.size + excess, overlay room 0 output)

variable (s : Script)

def note (event : Event) : Script := { s with journal := event :: s.journal }

def next : Step × Script :=
  match s.steps with
  | [] => (exhausted, s)
  | step :: rest =>
    match step.repeats with
    | 0 => (step, { s with steps := rest })
    | n + 1 => (step, { s with steps := { step with repeats := n } :: rest })

def play (request : String) (input : Option ByteArray) (room : ByteArray) : Played × Script :=
  match (s.note { request, input, room := some room.size }).next with
  | (step, s) =>
    match step.effect.play (input.getD ByteArray.empty) room with
    | (used, produced, room) => ({ step, used, produced, room }, s)

def create (request : String) : Except String Unit × Script :=
  let s := s.note { request }
  match s.creations with
  | [] => (.ok (), s)
  | none :: rest => (.ok (), { s with creations := rest })
  | some detail :: rest => (.error detail, { s with creations := rest })

/-- Answers a creation that cannot fail. -/
def mustCreate (request : String) : Script := (s.create request).2

def accept (request : String) : Bool × Script :=
  let s := s.note { request }
  match s.parameters with
  | [] => (true, s)
  | accepted :: rest => (accepted, { s with parameters := rest })

def brotli : Brotli.Backend Script where
  newEncoder s := s.mustCreate "new brotli_encoder"
  setQuality value s := s.accept ("set quality=" ++ toString value.toNat)
  setWindow log s := s.accept ("set lgwin=" ++ toString log.toNat)
  compress op input room s :=
    match s.play ("compress " ++ op.name) (some input) room with
    | (p, s) =>
      ({ accepted := p.step.error.isNone
         leftIn := input.size - min p.used input.size
         leftOut := room.size - min p.produced room.size
         room := p.room
         hasMore := p.step.hasMore
         isDone := p.step.isDone }, s)
  newDecoder s := s.mustCreate "new brotli_decoder"
  decompress input room s :=
    match s.play "decompress" (some input) room with
    | (p, s) =>
      let verdict : Brotli.Verdict :=
        if p.step.error.isSome then .failure
        else match p.step.verdict with
          | .streamEnd => .success
          | .moreOutput => .needsMoreOutput
          | _ => .needsMoreInput
      ({ used := min p.used input.size
         leftOut := room.size - min p.produced room.size
         room := p.room
         verdict }, s)

/-- A zstd answer, its counts within the windows. -/
def zstdRun (offered room : Nat) (p : Played) : Zstd.Run where
  used := min p.used offered
  produced := min p.produced room
  room := p.room
  result := p.step.error.elim (.ok p.step.hint) .error

def playZstd (request : String) (input : Option ByteArray) (room : ByteArray) :
    Zstd.Run × Script :=
  match s.play request input room with
  | (p, s) => (zstdRun (input.getD ByteArray.empty).size room.size p, s)

def zstd : Zstd.Backend Script where
  newEncoder s := s.create "new zstd_encoder level=0"
  setLevel value s := s.accept ("set CompressionLevel=" ++ toString value.toInt)
  setWindow log s := s.accept ("set WindowLog=" ++ toString log.toNat)
  run input room s := s.playZstd "run" (some input) room
  flush room s := s.playZstd "flush" none room
  finish room s := s.playZstd "finish frame=false" none room
  newDecoder s := s.create "new zstd_decoder"
  setWindowMax log s := s.accept ("set WindowLogMax=" ++ toString log.toNat)
  decode input room s := s.playZstd "run" (some input) room

def deflateCall (p : Played) : Deflate.Call where
  used := p.used
  produced := p.produced
  room := p.room
  result := p.step.error.elim
    (.ok (match p.step.verdict with
      | .streamEnd => .streamEnd
      | .bufferError => .bufferError
      | _ => .ok)) .error

def deflate : Deflate.Backend Script where
  newEncoder level zlib s :=
    s.mustCreate ("new compress level=" ++ toString level ++ " zlib=" ++ toString zlib)
  compress mode input room s :=
    match s.play ("compress " ++ mode.name) (some input) room with
    | (p, s) => (deflateCall p, s)
  newDecoder zlib s := s.mustCreate ("new decompress zlib=" ++ toString zlib)
  decompress input room s :=
    match s.play "decompress none" (some input) room with
    | (p, s) => (deflateCall p, s)

/-- No limit on a decoder's memory. -/
def noLimit : String := " memlimit=" ++ toString ((1 <<< 64) - 1 : Nat)

def lzma : Lzma.Backend Script where
  newEncoder container preset dictionary s :=
    let settings := " preset=" ++ toString preset ++
      dictionary.elim "" fun d => " dict=" ++ toString d.toNat
    match container with
    | .xz => s.create ("new xz_encoder" ++ settings ++ " check=crc64")
    | .alone => s.create ("new lzma_encoder" ++ settings)
  newDecoder container s :=
    match container with
    | .xz => s.create ("new xz_decoder" ++ noLimit ++ " flags=0")
    | .alone => s.create ("new lzma_decoder" ++ noLimit)
  process action input room s :=
    match s.play ("process " ++ action.name) (some input) room with
    | (p, s) =>
      ({ used := p.used
         produced := p.produced
         room := p.room
         result := p.step.error.elim
           (.ok (match p.step.verdict with
             | .streamEnd => .streamEnd
             | .memoryNeeded => .memoryNeeded
             | _ => .ok)) .error }, s)

/-- The scripted backend of every codec. Its runtime is one that tries interrupted writes again. -/
def backend : Backend Script := { brotli, zstd, deflate, lzma, retriesWrites := true }

end Script

end StreamCodec
