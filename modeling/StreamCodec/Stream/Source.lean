import StreamCodec.Stream.Sink

/-!
# Sources

A source delivers bytes in pieces, fails, or claims more than it was given room
for. Its answers are laid down in advance; once they are used up it has ended
and answers zero. A piece that is larger than the room is served over several
reads, and one read never spans two pieces. What happened is kept in a journal,
the last entry first.
-/
namespace StreamCodec

/-- A prepared answer to reads. -/
inductive SourceAnswer where
  /-- A piece; an empty one looks like the end, once. -/
  | data (piece : ByteArray)
  | fail (error : IoError)
  /-- Claims so many bytes more than there was room for, and delivers none. -/
  | lie (excess : Nat)
  | pause (p : Pause)

namespace SourceAnswer

/-- How many reads into some room an answer may take up. -/
def weight : SourceAnswer → Nat
  | .data piece => piece.size + 1
  | .fail _ | .lie _ | .pause _ => 1

/-- How many reads into some room a row of answers may take up. -/
def total : List SourceAnswer → Nat
  | [] => 0
  | answer :: rest => answer.weight + total rest

end SourceAnswer

/-- What happened to a source. -/
inductive SourceEvent where
  | read (room reported : Nat)
  | readFailed (room : Nat)
  | readPaused (room : Nat)
  | dropped
deriving DecidableEq, Repr

/-- What a read delivered, and how many bytes it claims to have delivered. -/
structure Delivery where
  bytes : ByteArray
  reported : Nat

structure Source where
  /-- What is left of a piece that was served in part. -/
  piece : ByteArray := ByteArray.empty
  answers : List SourceAnswer := []
  /-- What happened, last first. -/
  journal : List SourceEvent := []

namespace Source

def note (s : Source) (event : SourceEvent) : Source := { s with journal := event :: s.journal }

def drop (s : Source) : Source := s.note .dropped

/-- Puts one more answer at the end. -/
def feed (s : Source) (answer : SourceAnswer) : Source :=
  { s with answers := s.answers ++ [answer] }

/-- How many reads into some room may pass before the source has ended. -/
def weight (s : Source) : Nat := s.piece.size + SourceAnswer.total s.answers

/-- Serves a piece into `room` bytes of room. -/
def serve (s : Source) (piece : ByteArray) (room : Nat) : Delivery × Source :=
  let count := min piece.size room
  (⟨piece.extract 0 count, count⟩,
    { s with
      piece := piece.extract count piece.size
      journal := .read room count :: s.journal })

/-- One read into `room` bytes of room, waiting pauses out. Where there is no room a piece
stays as it is. -/
def readFrom (room : Nat) : List SourceAnswer → Source → Except IoError Delivery × Source
  | [], s => (.ok ⟨ByteArray.empty, 0⟩, { s with answers := [] }.note (.read room 0))
  | .data piece :: rest, s =>
    if room = 0 then
      (.ok ⟨ByteArray.empty, 0⟩, { s with answers := .data piece :: rest }.note (.read room 0))
    else
      match { s with answers := rest }.serve piece room with
      | (delivery, s) => (.ok delivery, s)
  | .fail e :: rest, s => (.error e, { s with answers := rest }.note (.readFailed room))
  | .lie excess :: rest, s =>
    (.ok ⟨ByteArray.empty, room + excess⟩,
      { s with answers := rest }.note (.read room (room + excess)))
  | .pause _ :: rest, s => readFrom room rest s

@[inherit_doc readFrom]
def read (s : Source) (room : Nat) : Except IoError Delivery × Source :=
  if s.piece.size = 0 then readFrom room s.answers s
  else
    match s.serve s.piece room with
    | (delivery, s) => (.ok delivery, s)

/-- One read that races a token. Such a source cannot claim more than it was given room for:
its lies come out as zero. -/
def readRacing (room : Nat) (token : Token) :
    List SourceAnswer → Source → Cancelled → Wait (Except IoError Delivery) × Source × Cancelled
  | [], s, cancelled =>
    (.ready (.ok ⟨ByteArray.empty, 0⟩), { s with answers := [] }.note (.read room 0), cancelled)
  | .data piece :: rest, s, cancelled =>
    if room = 0 then
      (.ready (.ok ⟨ByteArray.empty, 0⟩),
        { s with answers := .data piece :: rest }.note (.read room 0), cancelled)
    else
      match { s with answers := rest }.serve piece room with
      | (delivery, s) => (.ready (.ok delivery), s, cancelled)
  | .fail e :: rest, s, cancelled =>
    (.ready (.error e), { s with answers := rest }.note (.readFailed room), cancelled)
  | .lie _ :: rest, s, cancelled =>
    (.ready (.ok ⟨ByteArray.empty, 0⟩), { s with answers := rest }.note (.read room 0), cancelled)
  | .pause p :: rest, s, cancelled =>
    let s := s.note (.readPaused room)
    let cancelled := (p.apply cancelled).look
    if !p.wakes (some token) then (.abandoned, { s with answers := rest }, cancelled)
    else if token ∈ cancelled then (.cancelled, { s with answers := rest }, cancelled)
    else readRacing room token rest s cancelled

/-- One read, unless the token is cancelled first. -/
def readOr (s : Source) (room : Nat) (token : Token) (cancelled : Cancelled) :
    Wait (Except IoError Delivery) × Source × Cancelled :=
  let cancelled := cancelled.look
  if token ∈ cancelled then (.cancelled, s, cancelled)
  else if s.piece.size = 0 then readRacing room token s.answers s cancelled
  else
    match s.serve s.piece room with
    | (delivery, s) => (.ready (.ok delivery), s, cancelled)

theorem weight_serve (s : Source) (piece : ByteArray) (room : Nat) :
    (s.serve piece room).2.weight =
      piece.size - min piece.size room + SourceAnswer.total s.answers := by
  simp only [serve, weight, ByteArray.size_extract, Nat.min_self]

/-- A read into some room that delivers anything brings the source nearer to its end, and no
read takes it further away. -/
theorem weight_readFrom (room : Nat) (answers : List SourceAnswer) (s : Source)
    (hp : s.piece.size = 0) :
    (readFrom room answers s).2.weight ≤ SourceAnswer.total answers ∧
      (∀ d, (readFrom room answers s).1 = .ok d → 0 < room → 0 < d.reported →
        (readFrom room answers s).2.weight < SourceAnswer.total answers) := by
  induction answers generalizing s with
  | nil => simp [readFrom, weight, note, hp, SourceAnswer.total]
  | cons answer rest ih =>
    cases answer with
    | data piece =>
      simp only [readFrom]
      split
      · simp [weight, note, hp, SourceAnswer.total, SourceAnswer.weight]
      · simp only [SourceAnswer.total, SourceAnswer.weight, weight_serve]
        constructor
        · omega
        · intros; omega
    | fail e => simp [readFrom, weight, note, hp, SourceAnswer.total, SourceAnswer.weight]
    | lie excess => simp [readFrom, weight, note, hp, SourceAnswer.total, SourceAnswer.weight]
    | pause p =>
      have := ih s hp
      simp only [readFrom, SourceAnswer.total, SourceAnswer.weight]
      exact ⟨by omega, fun d h1 h2 h3 => by have := this.2 d h1 h2 h3; omega⟩

theorem weight_read (s : Source) (room : Nat) :
    (s.read room).2.weight ≤ s.weight ∧
      (∀ d, (s.read room).1 = .ok d → 0 < room → 0 < d.reported →
        (s.read room).2.weight < s.weight) := by
  simp only [read]
  split
  · next h =>
    have := weight_readFrom room s.answers s h
    simpa [weight, h] using this
  · next h =>
    simp only [weight_serve]
    constructor
    · simp only [weight]; omega
    · intros; simp only [weight]; omega

end Source

end StreamCodec
