import StreamCodec.Error

/-!
# Sinks

A sink takes bytes, in part or whole, or fails. How it will answer is laid down
in advance in a queue per operation, and once a queue is empty every call
succeeds in full: since a run asks a sink only finitely often, such queues
stand for any sink whatever. What a sink was given and how it answered is kept
in its journal, the last entry first.

A suspending caller may also meet pauses in a queue. A pause suspends the
caller, and what wakes it, if anything, depends on the kind of pause; a
blocking caller waits every pause out.

A blocking caller who writes a whole chunk tries again where it is interrupted.
A suspending one leaves the chunk to the runtime, which as a rule gives up at
the first failure of any kind; a sink says of itself under which kind of runtime
it is written to.
-/
namespace StreamCodec

/-- The name of a cancellation token. -/
abbrev Token := String

/-- The cancellation tokens that have been cancelled, and those that will be. Anyone may cancel a
token at any time: `coming` holds what is cancelled between one look at the tokens and the next. -/
structure Cancelled where
  tokens : List Token := []
  coming : List (List Token) := []

namespace Cancelled

instance : Membership Token Cancelled := ⟨fun cancelled token => token ∈ cancelled.tokens⟩

instance (token : Token) (cancelled : Cancelled) : Decidable (token ∈ cancelled) :=
  inferInstanceAs (Decidable (token ∈ cancelled.tokens))

/-- What there is to see at the next look. -/
def look (cancelled : Cancelled) : Cancelled :=
  match cancelled.coming with
  | [] => cancelled
  | batch :: later => ⟨batch ++ cancelled.tokens, later⟩

end Cancelled

/-- How a suspended caller fares. -/
inductive Pause where
  /-- The token is cancelled, which wakes whoever waits on it. -/
  | cancel (token : Token)
  /-- The caller is woken at once. -/
  | yield
  /-- Nobody will ever wake the caller. -/
  | forever
deriving DecidableEq, Repr

namespace Pause

/-- The tokens cancelled after the pause. -/
def apply (p : Pause) (cancelled : Cancelled) : Cancelled :=
  match p with
  | .cancel token =>
    if token ∈ cancelled then cancelled
    else { cancelled with tokens := token :: cancelled.tokens }
  | .yield | .forever => cancelled

/-- Whether a caller that also waits on `token` is woken. -/
def wakes (p : Pause) (token : Option Token) : Bool :=
  match p with
  | .cancel t => token = some t
  | .yield => true
  | .forever => false

end Pause

/-- How an awaited operation ended. -/
inductive Wait (α : Type) where
  | ready (value : α)
  /-- The caller's token was cancelled before the operation was carried on. -/
  | cancelled
  /-- The caller was suspended for good, and dropped. -/
  | abandoned
deriving Repr

/-- A prepared answer to a write. -/
inductive WriteAnswer where
  /-- Takes at most so many bytes; all of them where no number is given. -/
  | accept (limit : Option Nat)
  | fail (error : IoError)
  | pause (p : Pause)
deriving DecidableEq, Repr

/-- A prepared answer to a flush or a shutdown. -/
inductive SignalAnswer where
  | ok
  | fail (error : IoError)
  | pause (p : Pause)
deriving DecidableEq, Repr

/-- The operations on a sink that carry no bytes. -/
inductive Signal where
  | flush
  | shutdown
deriving DecidableEq, Repr

/-- What happened to a sink. -/
inductive SinkEvent where
  | wrote (offered taken : Nat)
  | writeFailed (offered : Nat)
  | writePaused (offered : Nat)
  | signalled (signal : Signal)
  | signalFailed (signal : Signal)
  | signalPaused (signal : Signal)
  | dropped
deriving DecidableEq, Repr

structure Sink where
  writes : List WriteAnswer := []
  flushes : List SignalAnswer := []
  shutdowns : List SignalAnswer := []
  /-- All bytes ever taken. -/
  data : ByteArray := ByteArray.empty
  /-- The bytes of every write that was answered, taken or not, last first. -/
  offers : List ByteArray := []
  /-- What happened, last first. -/
  journal : List SinkEvent := []
  /-- Whether the runtime tries an interrupted write again. As a rule it gives up then, as it does
  after any other failure. -/
  retriesWrites : Bool := false

namespace Sink

variable (s : Sink)

/-- The sink after it took the first `count` of the offered bytes. -/
def take (offered : ByteArray) (count : Nat) : Sink :=
  { s with
    data := s.data ++ offered.extract 0 count
    offers := offered :: s.offers
    journal := .wrote offered.size count :: s.journal }

/-- The sink after it failed to take the offered bytes. -/
def refuse (offered : ByteArray) : Sink :=
  { s with
    offers := offered :: s.offers
    journal := .writeFailed offered.size :: s.journal }

def note (event : SinkEvent) : Sink := { s with journal := event :: s.journal }

/-- The sink under a runtime. -/
def under (retriesWrites : Bool) : Sink := { s with retriesWrites }

def drop : Sink := s.note .dropped

/-- Bytes put into a sink behind the back of its adapter. -/
def poke (data : ByteArray) : Sink := { s with data := s.data ++ data }

def taken (limit : Option Nat) (offered : ByteArray) : Nat :=
  limit.elim offered.size fun n => min n offered.size

/-- Writes a whole chunk, in as many writes as it takes. Interruptions are tried again; a sink
that takes nothing has failed. -/
def writeAllFrom : List WriteAnswer → Sink → ByteArray → Except IoError Unit × Sink
  | answers, s, chunk =>
    if chunk.size = 0 then (.ok (), { s with writes := answers })
    else
      match answers with
      | [] => (.ok (), { s with writes := [] }.take chunk chunk.size)
      | .accept limit :: rest =>
        let count := taken limit chunk
        let s := s.take chunk count
        if count = 0 then (.error .wholeBuffer, { s with writes := rest })
        else writeAllFrom rest s (chunk.extract count chunk.size)
      | .fail e :: rest =>
        let s := s.refuse chunk
        if e.kind = .interrupted then writeAllFrom rest s chunk
        else (.error e, { s with writes := rest })
      | .pause _ :: rest => writeAllFrom rest s chunk

@[inherit_doc writeAllFrom]
def writeAll (chunk : ByteArray) : Except IoError Unit × Sink := writeAllFrom s.writes s chunk

/-- Takes the next answer of a signal's queue, waiting pauses out. -/
def signalFrom (signal : Signal) : List SignalAnswer → Except IoError Unit × List SignalAnswer
  | [] => (.ok (), [])
  | .ok :: rest => (.ok (), rest)
  | .fail e :: rest => (.error e, rest)
  | .pause _ :: rest => signalFrom signal rest

def queue : Signal → List SignalAnswer
  | .flush => s.flushes
  | .shutdown => s.shutdowns

def withQueue (signal : Signal) (answers : List SignalAnswer) : Sink :=
  match signal with
  | .flush => { s with flushes := answers }
  | .shutdown => { s with shutdowns := answers }

def flush : Except IoError Unit × Sink :=
  match signalFrom .flush s.flushes with
  | (.ok (), rest) => (.ok (), { s with flushes := rest }.note (.signalled .flush))
  | (.error e, rest) => (.error e, { s with flushes := rest }.note (.signalFailed .flush))

/-- Writes a whole chunk while racing a token. The token is looked at before the sink is asked
for the first time and after every pause. The first failure of the sink ends the write, but for an
interruption under a runtime that tries again. -/
def writeAllRacing (token : Token) :
    List WriteAnswer → Sink → ByteArray → Cancelled → Wait (Except IoError Unit) × Sink × Cancelled
  | answers, s, chunk, cancelled =>
    if chunk.size = 0 then (.ready (.ok ()), { s with writes := answers }, cancelled)
    else
      match answers with
      | [] => (.ready (.ok ()), { s with writes := [] }.take chunk chunk.size, cancelled)
      | .accept limit :: rest =>
        let count := taken limit chunk
        let s := s.take chunk count
        if count = 0 then (.ready (.error .zeroWrite), { s with writes := rest }, cancelled)
        else writeAllRacing token rest s (chunk.extract count chunk.size) cancelled
      | .fail e :: rest =>
        let s := s.refuse chunk
        if s.retriesWrites = true ∧ e.kind = .interrupted then
          writeAllRacing token rest s chunk cancelled
        else (.ready (.error e), { s with writes := rest }, cancelled)
      | .pause p :: rest =>
        let s := s.note (.writePaused chunk.size)
        let cancelled := (p.apply cancelled).look
        if !p.wakes (some token) then (.abandoned, { s with writes := rest }, cancelled)
        else if token ∈ cancelled then (.cancelled, { s with writes := rest }, cancelled)
        else writeAllRacing token rest s chunk cancelled

@[inherit_doc writeAllRacing]
def writeAllOr (token : Token) (chunk : ByteArray) (cancelled : Cancelled) :
    Wait (Except IoError Unit) × Sink × Cancelled :=
  let cancelled := cancelled.look
  if token ∈ cancelled then (.cancelled, s, cancelled)
  else writeAllRacing token s.writes s chunk cancelled

/-- Signals the sink while racing a token, if one is given. -/
def signalRacing (signal : Signal) (token : Option Token) :
    List SignalAnswer → Sink → Cancelled → Wait (Except IoError Unit) × Sink × Cancelled
  | [], s, cancelled =>
    (.ready (.ok ()), (s.withQueue signal []).note (.signalled signal), cancelled)
  | .ok :: rest, s, cancelled =>
    (.ready (.ok ()), (s.withQueue signal rest).note (.signalled signal), cancelled)
  | .fail e :: rest, s, cancelled =>
    (.ready (.error e), (s.withQueue signal rest).note (.signalFailed signal), cancelled)
  | .pause p :: rest, s, cancelled =>
    let s := s.note (.signalPaused signal)
    let cancelled := (p.apply cancelled).look
    if !p.wakes token then (.abandoned, s.withQueue signal rest, cancelled)
    else if token.any (· ∈ cancelled) then (.cancelled, s.withQueue signal rest, cancelled)
    else signalRacing signal token rest s cancelled

/-- Signals the sink; with a token, unless that is cancelled first. -/
def signalOr (signal : Signal) (token : Option Token) (cancelled : Cancelled) :
    Wait (Except IoError Unit) × Sink × Cancelled :=
  let cancelled := cancelled.look
  if token.any (· ∈ cancelled) then (.cancelled, s, cancelled)
  else signalRacing signal token (s.queue signal) s cancelled

end Sink

end StreamCodec
