import StreamCodec.Options.Parser
import StreamCodec.Options.Printer
import StreamCodec.Backend.Script
import StreamCodec.Backend.Native
import StreamCodec.Format.Lz4
import StreamCodec.Block.Basic
import StreamCodec.Stream.Transfer
import StreamCodec.Async.Decompressor
import StreamCodec.Proofs.Conservation
import StreamCodec.Proofs.SinkPrefix
import StreamCodec.Proofs.RoundTrip
import StreamCodec.Proofs.Poisoning
import StreamCodec.Proofs.Disposal
import StreamCodec.Proofs.Lockstep
import StreamCodec.Proofs.ReadConservation
import StreamCodec.Proofs.FailedReads
import StreamCodec.Proofs.Lifecycle
import StreamCodec.Proofs.CompletionRaces
import StreamCodec.Proofs.EndOfStream
import StreamCodec.Proofs.ReadLockstep
import StreamCodec.Proofs.QueueHistories
import StreamCodec.Proofs.EncoderOutcome
import StreamCodec.Proofs.DecoderOutcome
import StreamCodec.Proofs.BlockDecoding
import StreamCodec.Proofs.DrivePace
import StreamCodec.Proofs.BlockEncoding
import StreamCodec.Proofs.BlockCompletion
import StreamCodec.Proofs.ReadRequests
import StreamCodec.Proofs.ReadReturns
import StreamCodec.Proofs.GuardedDrives
import StreamCodec.Proofs.ZstdRuns
import StreamCodec.Proofs.IdleRequests
import StreamCodec.Proofs.SyncMarkers
import StreamCodec.Proofs.Overruns
import StreamCodec.Proofs.Transfers
import StreamCodec.Proofs.OptionTexts
import StreamCodec.Proofs.SizeBounds
import StreamCodec.Proofs.Openings
