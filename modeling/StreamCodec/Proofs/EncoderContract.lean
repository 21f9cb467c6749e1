import StreamCodec.Proofs.EncoderDrive

/-!
# Encoder engines that keep their contract

`EncoderEngine.Encodes` is the contract of an encoder engine. A call takes in a
front part of what it is offered and emits the next bytes; with room left it
has done all that the operation asks for. A finish is reported when it is
complete, or one call later where the room was filled to the last byte, and an
operation emits finitely many bytes: at most as many as it `owed` before. Until
an operation is done the engine need not accept any call but the next one of
the same operation, and once it has finished it need not accept any.

A session over such an engine needs at most one engine call for each of its own.
-/
namespace StreamCodec

variable {ω σ : Type}

/-- How the states of an encoder engine are read: what it has taken in and emitted, which operation
on which input it accepts, and how many bytes that operation would still emit. -/
structure EncoderView (ω σ : Type) where
  At : σ → ω → List UInt8 → List UInt8 → Prop
  Accepts : FlushOp → List UInt8 → σ → ω → Prop
  owed : FlushOp → List UInt8 → σ → ω → Nat

/-- The contract of one call of an engine that has taken in `x` and emitted `y`. -/
structure EncoderEngine.CallEncodes (engine : EncoderEngine ω σ) (view : EncoderView ω σ)
    (x y : List UInt8) (op : FlushOp) (input room : ByteArray) (handle : σ) (world : ω)
    (reply : Reply) (handle' : σ) (world' : ω) : Prop where
  state : view.At handle' world' (x ++ (octets input).take (input.size - reply.leftIn))
    (y ++ (octets (overlay room 0 reply.room)).take (room.size - reply.leftOut))
  succeeds : ∀ detail, reply.code ≠ .error detail
  roomLeft : room.size - reply.leftOut < room.size →
    if op = .finish then engine.isFinished handle' = true
    else input.size - reply.leftIn = input.size ∧ engine.hasMoreOutput handle' = false
  finishes : engine.isFinished handle' = true → op = .finish
  owes : room.size - reply.leftOut +
      view.owed op ((octets input).drop (input.size - reply.leftIn)) handle' world' ≤
    view.owed op (octets input) handle world
  goesOn : engine.isFinished handle' = false →
    view.Accepts op ((octets input).drop (input.size - reply.leftIn)) handle' world'
  isDone : op ≠ .finish → input.size - reply.leftIn = input.size →
    engine.hasMoreOutput handle' = false → ∀ op' input', view.Accepts op' input' handle' world'

/-- The contract of an encoder engine. -/
structure EncoderEngine.Encodes (engine : EncoderEngine ω σ) (parameters : List Parameter)
    (view : EncoderView ω σ) : Prop where
  opens : ∀ world handle world₁ handle' world', engine.create world = (.ok handle, world₁) →
    engine.configure parameters handle world₁ = (.ok handle', world') →
    view.At handle' world' [] [] ∧ engine.isFinished handle' = false ∧
      ∀ op input, view.Accepts op input handle' world'
  call : ∀ handle world x y op input room, view.At handle world x y →
    engine.isFinished handle = false → view.Accepts op (octets input) handle world →
    0 < room.size →
    ∃ reply handle' world', engine.compress op input room handle world = (reply, handle', world') ∧
      engine.CallEncodes view x y op input room handle world reply handle' world'

namespace EncoderSession

variable {engine : EncoderEngine ω σ} {parameters : List Parameter} {view : EncoderView ω σ}

/-- An open session whose engine has taken in `x` and emitted `y`. -/
structure Stands (engine : EncoderEngine ω σ) (view : EncoderView ω σ) (s : EncoderSession ω σ)
    (finished : Bool) (x y : List UInt8) : Prop where
  engine : s.engine = engine
  isDisposed : s.isDisposed = false
  handle : ∃ handle, s.handle = some handle ∧ view.At handle s.world x y ∧
    s.engine.isFinished handle = finished

/-- Any operation is accepted. -/
def Ready (view : EncoderView ω σ) (s : EncoderSession ω σ) : Prop :=
  ∀ handle, s.handle = some handle → ∀ op input, view.Accepts op input handle s.world

/-- The operation is accepted: any would be, or it is under way and not done. -/
def Takes (view : EncoderView ω σ) (op : FlushOp) (input : List UInt8) (s : EncoderSession ω σ) :
    Prop :=
  s.Ready view ∨ ∀ handle, s.handle = some handle → view.Accepts op input handle s.world ∧
    (op = .finish ∨ input ≠ [] ∨ s.engine.hasMoreOutput handle = true)

theorem Takes.accepts {op : FlushOp} {input : List UInt8} {s : EncoderSession ω σ} {handle : σ}
    (h : Takes view op input s) (hh : s.handle = some handle) :
    view.Accepts op input handle s.world := by
  rcases h with hready | hunder
  · exact hready handle hh op input
  · exact (hunder handle hh).1

/-- What an operation on some input still emits. -/
def owes (view : EncoderView ω σ) (op : FlushOp) (s : EncoderSession ω σ) (input : List UInt8) : Nat :=
  s.handle.elim 0 fun handle => view.owed op input handle s.world

/-- What an operation does: `taken` leaves the source, `emitted` arrives at the destination. It is
done, or the destination is full and it owes less. -/
structure Encoded (engine : EncoderEngine ω σ) (view : EncoderView ω σ) (op : FlushOp)
    (s : EncoderSession ω σ) (w : Windows) (x y : List UInt8) (status : Status)
    (s' : EncoderSession ω σ) (w' : Windows) (taken emitted : List UInt8) : Prop where
  src : octets w.src.unread = taken ++ octets w'.src.unread
  dst : octets w'.dst.unread = octets w.dst.unread ++ emitted
  pos : w'.dst.pos = w.dst.pos
  capacity : w'.dst.capacity = w.dst.capacity
  ends : (status = .done ∧ Stands engine view s' (decide (op = .finish)) (x ++ taken) (y ++ emitted) ∧
      (op ≠ .finish → octets w'.src.unread = [] ∧ s'.Ready view)) ∨
    (status = .destinationTooSmall ∧ Stands engine view s' false (x ++ taken) (y ++ emitted) ∧
      w'.dst.availableWrite = 0 ∧ s'.Takes view op (octets w'.src.unread) ∧
      emitted.length + s'.owes view op (octets w'.src.unread) ≤ s.owes view op (octets w.src.unread))

/-- With room left, the call has done all that the operation asks for. -/
theorem isComplete_of_room {s : EncoderSession ω σ} {op : FlushOp} {x y : List UInt8} {w : Windows}
    {handle handle' : σ} {world' : ω} {reply : Reply}
    (hcall : s.engine.CallEncodes view x y op w.src.unread w.dst.unwritten handle s.world reply
      handle' world') (hroom : (w.settle reply).dst.availableWrite ≠ 0) :
    s.isComplete op handle' (w.settle reply) = true := by
  have hleft : w.dst.unwritten.size - reply.leftOut < w.dst.unwritten.size := by
    rw [w.availableWrite_settle, Windows.produced] at hroom
    rw [CursorBuffer.size_unwritten]
    omega
  have hdone := hcall.roomLeft hleft
  rw [CursorBuffer.size_unread] at hdone
  have hempty : w.src.availableRead - reply.leftIn = w.src.availableRead →
      (w.settle reply).src.isEmpty = true := by
    intro hall
    rw [CursorBuffer.isEmpty_iff, w.availableRead_settle, Windows.consumed]
    omega
  cases op with
  | finish => exact hdone
  | process => simp only [isComplete, hempty hdone.1, hdone.2]; rfl
  | flush => simp only [isComplete, hempty hdone.1, hdone.2]; rfl

theorem Stands.settled {s : EncoderSession ω σ} {finished : Bool} {x y : List UInt8}
    (hs : Stands engine view s finished x y) (op : FlushOp) :
    Stands engine view (s.settled op) finished x y := by
  unfold EncoderSession.settled
  split
  · exact hs
  · exact ⟨hs.engine, hs.isDisposed, hs.handle⟩

theorem isFinished_eq {s : EncoderSession ω σ} {op : FlushOp} {x y : List UInt8} {w : Windows}
    {handle handle' : σ} {world' : ω} {reply : Reply} {complete : Bool}
    (hcall : s.engine.CallEncodes view x y op w.src.unread w.dst.unwritten handle s.world reply
      handle' world') (hcomplete : s.isComplete op handle' (w.settle reply) = complete) :
    s.engine.isFinished handle' = (complete && decide (op = .finish)) := by
  cases op with
  | finish =>
    rw [isComplete] at hcomplete
    simp [hcomplete]
  | process =>
    have hnot : s.engine.isFinished handle' ≠ true := fun h => by cases hcall.finishes h
    simpa using hnot
  | flush =>
    have hnot : s.engine.isFinished handle' ≠ true := fun h => by cases hcall.finishes h
    simpa using hnot

theorem Ready.settled {s : EncoderSession ω σ} (h : s.Ready view) (op : FlushOp) :
    (s.settled op).Ready view := by
  unfold EncoderSession.settled
  split
  · exact h
  · exact h

theorem isComplete_of_ne {s : EncoderSession ω σ} {op : FlushOp} (hop : op ≠ .finish) (handle : σ)
    (w : Windows) :
    s.isComplete op handle w = (w.src.isEmpty && !s.engine.hasMoreOutput handle) := by
  cases op with
  | finish => exact absurd rfl hop
  | process => rfl
  | flush => rfl

section Call

variable {s : EncoderSession ω σ} {op : FlushOp} {x y : List UInt8} {w : Windows} {handle handle' : σ}
  {world' : ω} {reply : Reply}

theorem encoded_done (hs : Stands engine view s false x y)
    (hcall : s.engine.CallEncodes view x y op w.src.unread w.dst.unwritten handle s.world reply
      handle' world') (hcomplete : s.isComplete op handle' (w.settle reply) = true) :
    Encoded engine view op s w x y .done ((s.record w reply handle' world').settled op)
      (w.settle reply) (EngineCall.consumed ⟨.encode op, w.src.unread, w.dst.unwritten, reply⟩)
      (EngineCall.produced ⟨.encode op, w.src.unread, w.dst.unwritten, reply⟩) := by
  have hmoved := Moved.settle (.encode op) w reply
  have hsrc := hmoved.src
  have hdst := hmoved.dst
  rw [Ledger.consumed_singleton] at hsrc
  rw [Ledger.produced_singleton] at hdst
  refine ⟨hsrc, hdst, hmoved.pos, hmoved.capacity, .inl ⟨rfl, ?_, fun hop => ?_⟩⟩
  · have hfinished := isFinished_eq hcall hcomplete
    rw [Bool.true_and] at hfinished
    exact Stands.settled (s := s.record w reply handle' world')
      ⟨hs.engine, hs.isDisposed, handle', rfl, hcall.state, hfinished⟩ op
  · rw [isComplete_of_ne hop, Bool.and_eq_true, Bool.not_eq_true'] at hcomplete
    obtain ⟨hempty, hpending⟩ := hcomplete
    have hall : w.src.unread.size - reply.leftIn = w.src.unread.size := by
      rw [CursorBuffer.isEmpty_iff, w.availableRead_settle, Windows.consumed] at hempty
      rw [CursorBuffer.size_unread]
      omega
    refine ⟨(CursorBuffer.octets_unread_eq_nil_iff _).mpr hempty, Ready.settled ?_ op⟩
    intro handle'' hh'' op' input'
    obtain rfl := Option.some.inj hh''
    exact hcall.isDone hop hall hpending op' input'

/-- What an operation does that is not complete after one call: it filled the destination. -/
theorem encoded_full (hs : Stands engine view s false x y) (hh : s.handle = some handle)
    (hcall : s.engine.CallEncodes view x y op w.src.unread w.dst.unwritten handle s.world reply
      handle' world') (hincomplete : s.isComplete op handle' (w.settle reply) = false)
    (hfull : (w.settle reply).dst.availableWrite = 0) :
    Encoded engine view op s w x y .destinationTooSmall (s.record w reply handle' world')
      (w.settle reply) (EngineCall.consumed ⟨.encode op, w.src.unread, w.dst.unwritten, reply⟩)
      (EngineCall.produced ⟨.encode op, w.src.unread, w.dst.unwritten, reply⟩) := by
  have hmoved := Moved.settle (.encode op) w reply
  have hsrc := hmoved.src
  have hdst := hmoved.dst
  rw [Ledger.consumed_singleton] at hsrc
  rw [Ledger.produced_singleton] at hdst
  have hfinished := isFinished_eq hcall hincomplete
  rw [Bool.false_and] at hfinished
  have hrest : octets (w.settle reply).src.unread =
      (octets w.src.unread).drop (w.src.availableRead - reply.leftIn) := by
    rw [Windows.settle, CursorBuffer.octets_unread_consume]
  refine ⟨hsrc, hdst, hmoved.pos, hmoved.capacity, .inr ⟨rfl, ?_, hfull, .inr ?_, ?_⟩⟩
  · exact ⟨hs.engine, hs.isDisposed, handle', rfl, hcall.state, hfinished⟩
  · intro handle'' hh''
    obtain rfl := Option.some.inj hh''
    have hgoesOn := hcall.goesOn hfinished
    rw [CursorBuffer.size_unread, ← hrest] at hgoesOn
    refine ⟨hgoesOn, ?_⟩
    by_cases hop : op = .finish
    · exact .inl hop
    · rw [isComplete_of_ne hop, Bool.and_eq_false_iff, Bool.not_eq_false'] at hincomplete
      refine .inr (hincomplete.imp_left fun hsome hnone => ?_)
      rw [(CursorBuffer.octets_unread_eq_nil_iff _).mp hnone] at hsome
      cases hsome
  · have howes := hcall.owes
    have hemitted := w.length_produced (.encode op) reply
    rw [Windows.produced] at hemitted
    rw [CursorBuffer.size_unread, CursorBuffer.size_unwritten, ← hrest] at howes
    have hbefore : s.owes view op (octets w.src.unread) =
        view.owed op (octets w.src.unread) handle s.world := by
      rw [EncoderSession.owes, hh]
      rfl
    have hafter : (s.record w reply handle' world').owes view op
        (octets (w.settle reply).src.unread) =
        view.owed op (octets (w.settle reply).src.unread) handle' world' := rfl
    rw [hafter, hbefore]
    omega

end Call

/-- A drive is one call. -/
theorem drive_encodes (hc : engine.Encodes parameters view) (op : FlushOp)
    {s : EncoderSession ω σ} {x y : List UInt8} (hs : Stands engine view s false x y) {handle : σ}
    (hh : s.handle = some handle) {w : Windows} (hroom : w.dst.availableWrite ≠ 0)
    (htakes : s.Takes view op (octets w.src.unread)) :
    ∃ taken emitted, Encoded engine view op s w x y (drive op s handle w 0).1
      (drive op s handle w 0).2.1 (drive op s handle w 0).2.2 taken emitted := by
  have hpos : 0 < w.dst.unwritten.size := by
    rw [CursorBuffer.size_unwritten]
    omega
  obtain ⟨handle₀, hh₀, hat, hunfinished⟩ := hs.handle
  obtain rfl := Option.some.inj (hh.symm.trans hh₀)
  rw [hs.engine] at hunfinished
  obtain ⟨reply, handle', world', hreply, hcall⟩ :=
    hc.call handle s.world x y op w.src.unread w.dst.unwritten hat hunfinished (htakes.accepts hh)
      hpos
  rw [← hs.engine] at hreply hcall
  refine ⟨EngineCall.consumed ⟨.encode op, w.src.unread, w.dst.unwritten, reply⟩,
    EngineCall.produced ⟨.encode op, w.src.unread, w.dst.unwritten, reply⟩, ?_⟩
  rw [drive, if_neg hroom, hreply]
  dsimp only
  split
  · next hcode => exact absurd hcode (hcall.succeeds _)
  · split
    · next hcomplete => exact encoded_done hs hcall hcomplete
    · next hincomplete =>
      have hfull : (w.settle reply).dst.availableWrite = 0 := by
        by_contra hleft
        exact hincomplete (isComplete_of_room hcall hleft)
      rw [if_pos hfull]
      exact encoded_full hs hh hcall (Bool.not_eq_true _ ▸ hincomplete) hfull

theorem compress_encodes (hc : engine.Encodes parameters view) (op : FlushOp)
    {s : EncoderSession ω σ} {x y : List UInt8} (hs : Stands engine view s false x y) {w : Windows}
    (hroom : w.dst.availableWrite ≠ 0) (htakes : s.Takes view op (octets w.src.unread)) :
    ∃ status s' w' taken emitted, s.compress op w = (.ok status, s', w') ∧
      Encoded engine view op s w x y status s' w' taken emitted := by
  obtain ⟨handle, hh, hat, hunfinished⟩ := hs.handle
  rw [compress, opened_of_handle hs.isDisposed hh]
  dsimp only
  rw [if_neg (by simp [hunfinished])]
  split
  · next hidle =>
    simp only [isIdle, Bool.and_eq_true, decide_eq_true_eq] at hidle
    obtain ⟨⟨⟨hempty, hop⟩, hpending⟩, -⟩ := hidle
    have hnone : octets w.src.unread = [] := w.src.octets_unread_eq_nil_iff.mpr hempty
    refine ⟨_, _, _, [], [], rfl, rfl, (List.append_nil _).symm, rfl, rfl, .inl ⟨rfl, ?_, fun _ => ?_⟩⟩
    · rw [decide_eq_false hop, List.append_nil, List.append_nil]
      exact hs
    · refine ⟨hnone, htakes.resolve_right fun hunder => ?_⟩
      rcases (hunder handle hh).2 with hfinish | hsome | hmore
      · exact hop hfinish
      · exact hsome hnone
      · simp [hmore] at hpending
  · obtain ⟨taken, emitted, hencoded⟩ := drive_encodes hc op hs hh hroom htakes
    exact ⟨_, _, _, taken, emitted, rfl, hencoded⟩

end EncoderSession

end StreamCodec
