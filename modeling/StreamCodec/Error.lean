import StreamCodec.Codec

/-!
# Errors

One type holds every cause of failure. `CodecError.message` is the only place
where a cause is put into words, and `CodecError.kind` maps it to the coarse
kinds that byte streams report. A failure of the surrounding byte stream is
carried along unchanged.
-/
namespace StreamCodec

/-- The coarse kind of a byte stream's failure. -/
inductive IoKind where
  | notFound
  | permissionDenied
  | brokenPipe
  | wouldBlock
  | timedOut
  | interrupted
  | writeZero
  | unexpectedEof
  | invalidData
  | invalidInput
  | unsupported
  | other
deriving DecidableEq, Repr, Inhabited

namespace IoKind

def name : IoKind → String
  | .notFound => "NotFound"
  | .permissionDenied => "PermissionDenied"
  | .brokenPipe => "BrokenPipe"
  | .wouldBlock => "WouldBlock"
  | .timedOut => "TimedOut"
  | .interrupted => "Interrupted"
  | .writeZero => "WriteZero"
  | .unexpectedEof => "UnexpectedEof"
  | .invalidData => "InvalidData"
  | .invalidInput => "InvalidInput"
  | .unsupported => "Unsupported"
  | .other => "Other"

end IoKind

structure IoError where
  kind : IoKind
  message : String
deriving DecidableEq, Repr, Inhabited

namespace IoError

/-- A sink that takes no byte of a whole buffer. -/
def wholeBuffer : IoError := ⟨.writeZero, "failed to write whole buffer"⟩

/-- The same refusal as a suspending sink words it. -/
def zeroWrite : IoError := ⟨.writeZero, "write zero"⟩

/-- A source that ends before an exact read is satisfied. -/
def fillWholeBuffer : IoError := ⟨.unexpectedEof, "failed to fill whole buffer"⟩

def noSuchFile : IoError := ⟨.notFound, "No such file or directory (os error 2)"⟩

end IoError

inductive ParameterName where
  | quality
  | windowLog
deriving DecidableEq, Repr

namespace ParameterName

def text : ParameterName → String
  | .quality => "quality"
  | .windowLog => "window_log"

end ParameterName

inductive CodecError where
  /-- The engine met corrupt input or failed inside. -/
  | invalidData (codec : Codec) (detail : String)
  | destinationTooSmall (codec : Codec) (capacity : Nat)
  /-- The source ended before the compressed stream did. -/
  | truncated (codec : Codec)
  | disposed
  /-- The compressed stream is complete and takes no more input. -/
  | completed
  /-- An earlier operation was given up before it finished. -/
  | operationInProgress
  | cancelled
  | engineCreation (codec : Codec) (detail : String)
  | invalidParameter (codec : Codec) (name : ParameterName) (value : Int)
  | unsupported (codec : Codec)
  /-- The source claims more bytes than it had room for. -/
  | sourceOverrun (reported capacity : Nat)
  | io (error : IoError)
deriving DecidableEq, Repr

namespace CodecError

def message : CodecError → String
  | .invalidData codec detail => codec.name ++ " engine reported invalid data: " ++ detail
  | .destinationTooSmall codec capacity =>
    codec.name ++ " destination buffer too small (" ++ toString capacity ++ " bytes)"
  | .truncated codec => codec.name ++ " stream truncated before the end of compressed data"
  | .disposed => "codec session has been disposed"
  | .completed => "compressed stream already completed"
  | .operationInProgress => "another operation is in progress or was abandoned mid-flight"
  | .cancelled => "operation cancelled"
  | .engineCreation codec detail => "failed to create " ++ codec.name ++ " engine: " ++ detail
  | .invalidParameter codec name value =>
    "invalid " ++ codec.name ++ " parameter " ++ name.text ++ " = " ++ toString value
  | .unsupported codec => codec.name ++ " is not supported by this build"
  | .sourceOverrun reported capacity =>
    "source reported " ++ toString reported ++ " bytes read into a " ++ toString capacity ++
      " byte buffer"
  | .io error => error.message

/-- The kind under which a byte stream reports the error. -/
def kind : CodecError → IoKind
  | .invalidData .. => .invalidData
  | .sourceOverrun .. => .invalidData
  | .destinationTooSmall .. => .writeZero
  | .truncated _ => .unexpectedEof
  | .invalidParameter .. => .invalidInput
  | .unsupported _ => .unsupported
  | .io error => error.kind
  | .disposed => .other
  | .completed => .other
  | .operationInProgress => .other
  | .cancelled => .other
  | .engineCreation .. => .other

def variant : CodecError → String
  | .invalidData .. => "InvalidData"
  | .destinationTooSmall .. => "DestinationTooSmall"
  | .truncated _ => "Truncated"
  | .disposed => "Disposed"
  | .completed => "Completed"
  | .operationInProgress => "OperationInProgress"
  | .cancelled => "Cancelled"
  | .engineCreation .. => "EngineCreation"
  | .invalidParameter .. => "InvalidParameter"
  | .unsupported _ => "Unsupported"
  | .sourceOverrun .. => "SourceOverrun"
  | .io _ => "Io"

end CodecError

/-- An error as a byte stream passes it on: its own, or a codec error wrapped up. -/
inductive StreamError where
  | plain (error : IoError)
  | wrapped (error : CodecError)
deriving DecidableEq, Repr

namespace StreamError

def kind : StreamError → IoKind
  | .plain error => error.kind
  | .wrapped error => error.kind

def message : StreamError → String
  | .plain error => error.message
  | .wrapped error => error.message

/-- A codec error surfaces wrapped, but a failure of the stream itself surfaces as it was. -/
def ofCodecError : CodecError → StreamError
  | .io error => .plain error
  | error => .wrapped error

/-- A stream's error taken back in: only its kind and its words are kept. -/
def toCodecError (e : StreamError) : CodecError := .io ⟨e.kind, e.message⟩

@[simp] theorem kind_ofCodecError (e : CodecError) : (ofCodecError e).kind = e.kind := by
  cases e <;> rfl

@[simp] theorem message_ofCodecError (e : CodecError) : (ofCodecError e).message = e.message := by
  cases e <;> rfl

end StreamError

end StreamCodec
