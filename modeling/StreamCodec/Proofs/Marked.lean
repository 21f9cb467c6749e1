import StreamCodec.Proofs.Conforming
import StreamCodec.Proofs.EncoderContract
import StreamCodec.Stream.Compressor
import StreamCodec.Stream.Decompressor

/-!
# A pair of engines

The smallest format that two engines can be written down for: every plain byte
stands behind a one, and a zero ends the stream. Both engines take all that
they are offered and hold what they cannot emit yet; they keep their contracts,
and the decoder decodes what the encoder emits.
-/
namespace StreamCodec.Marked

/-- Plain bytes, each behind its mark. -/
def mark : List UInt8 → List UInt8
  | [] => []
  | b :: x => 1 :: b :: mark x

/-- The stream of a plain text. -/
def stream (x : List UInt8) : List UInt8 := mark x ++ [0]

theorem mark_append (x z : List UInt8) : mark (x ++ z) = mark x ++ mark z := by
  induction x with
  | nil => rfl
  | cons b x ih => rw [List.cons_append, mark, mark, ih]; rfl

theorem length_mark (x : List UInt8) : (mark x).length = 2 * x.length := by
  induction x with
  | nil => rfl
  | cons b x ih => rw [mark, List.length_cons, List.length_cons, List.length_cons, ih]; omega

theorem length_stream (x : List UInt8) : (stream x).length = 2 * x.length + 1 := by
  rw [stream, List.length_append, length_mark]
  rfl

/-- A reply that emits as much of the pending bytes as there is room for. -/
def reply (leftIn : Nat) (pending : List UInt8) (room : ByteArray) (code : CallCode) : Reply :=
  ⟨leftIn, room.size - pending.length, ⟨(pending.take room.size).toArray⟩, code⟩

theorem emitted_reply (leftIn : Nat) (pending : List UInt8) (room : ByteArray) (code : CallCode) :
    room.size - (reply leftIn pending room code).leftOut = (pending.take room.size).length := by
  rw [List.length_take, reply]
  dsimp only
  omega

theorem bytes_reply (leftIn : Nat) (pending : List UInt8) (room : ByteArray) (code : CallCode) :
    (octets (overlay room 0 (reply leftIn pending room code).room)).take
      (room.size - (reply leftIn pending room code).leftOut) = pending.take room.size := by
  rw [emitted_reply, octets_overlay, List.take_zero, List.nil_append, Nat.sub_zero, reply]
  have hpatch : octets (⟨(pending.take room.size).toArray⟩ : ByteArray) = pending.take room.size := rfl
  rw [hpatch, List.take_take, Nat.min_self, List.take_left]

/-- An encoder with the bytes that it holds, and whether the end is among or behind them. -/
structure Encoder where
  pending : List UInt8 := []
  ended : Bool := false

namespace Encoder

def take (s : Encoder) (op : FlushOp) (input : List UInt8) : Encoder where
  pending := s.pending ++ mark input ++ if op = .finish && !s.ended then [0] else []
  ended := s.ended || op = .finish

def engine : EncoderEngine Unit Encoder where
  create world := (.ok {}, world)
  setParameter _ s world := (true, s, world)
  compress op input room s world :=
    let s := s.take op (octets input)
    (reply 0 s.pending room .ok, { s with pending := s.pending.drop room.size }, world)
  hasMoreOutput s := !s.pending.isEmpty
  isFinished s := s.ended && s.pending.isEmpty

/-- What was emitted and what is pending make up all marked bytes; once the end was taken in only a
finish without input may follow. -/
def view : EncoderView Unit Encoder where
  At s _ x y := y ++ s.pending = mark x ++ if s.ended then [0] else []
  Accepts op input s _ := s.ended = true → op = .finish ∧ input = []
  owed _ input s _ := s.pending.length + 2 * input.length + if s.ended then 0 else 1

theorem configure (parameters : List Parameter) (s : Encoder) (world : Unit) :
    engine.configure parameters s world = (.ok s, world) := by
  induction parameters with
  | nil => rfl
  | cons p rest ih => exact ih

theorem take_pending {s : Encoder} {x y : List UInt8} {op : FlushOp} {input : List UInt8}
    (hat : view.At s () x y) (haccepts : view.Accepts op input s ()) :
    y ++ (s.take op input).pending = mark (x ++ input) ++ if (s.take op input).ended then [0] else [] := by
  have hpending : y ++ s.pending = mark x ++ if s.ended then [0] else [] := hat
  cases hended : s.ended with
  | true =>
    obtain ⟨rfl, rfl⟩ := haccepts hended
    simpa [take, hended, mark] using hpending
  | false =>
    rw [hended, if_neg Bool.false_ne_true, List.append_nil] at hpending
    simp only [take, hended, mark_append, Bool.false_or, Bool.not_false, Bool.and_true]
    rw [← List.append_assoc, ← List.append_assoc, hpending]

theorem length_take (s : Encoder) (op : FlushOp) (input : List UInt8) :
    (s.take op input).pending.length + (if (s.take op input).ended then 0 else 1) ≤
      s.pending.length + 2 * input.length + if s.ended then 0 else 1 := by
  simp only [take, List.length_append, length_mark]
  by_cases hended : s.ended = true <;> by_cases hop : op = .finish <;> simp [hended, hop]

theorem take_input (input : ByteArray) :
    (octets input).take (input.size - 0) = octets input ∧
      (octets input).drop (input.size - 0) = [] :=
  ⟨List.take_of_length_le (Nat.le_refl _), List.drop_of_length_le (Nat.le_refl _)⟩

/-- Room that is left over has emptied the encoder. -/
theorem drop_pending {s : Encoder} {room : Nat} (h : (s.pending.take room).length < room) :
    s.pending.drop room = [] := by
  rw [List.length_take] at h
  rw [List.drop_eq_nil_iff]
  omega

/-- An encoder that has ended was called to finish. -/
theorem finish_of_ended {s : Encoder} {op : FlushOp} {input : List UInt8}
    (haccepts : view.Accepts op input s ()) (h : (s.take op input).ended = true) : op = .finish := by
  rcases Bool.or_eq_true_iff.mp h with hbefore | hnow
  · exact (haccepts hbefore).1
  · exact of_decide_eq_true hnow

theorem call_encodes {s : Encoder} {x y : List UInt8} {op : FlushOp} {input room : ByteArray}
    (hat : view.At s () x y) (haccepts : view.Accepts op (octets input) s ()) :
    engine.CallEncodes view x y op input room s ()
      (reply 0 (s.take op (octets input)).pending room .ok)
      { s.take op (octets input) with
        pending := (s.take op (octets input)).pending.drop room.size } () where
  state := by
    have hpending := take_pending hat haccepts
    rw [bytes_reply, reply, (take_input input).1]
    dsimp only [view]
    rw [List.append_assoc, List.take_append_drop]
    exact hpending
  succeeds := nofun
  roomLeft := by
    rw [emitted_reply]
    intro hleft
    dsimp only [engine]
    rw [drop_pending hleft]
    split
    · next hop => simp [take, hop]
    · exact ⟨rfl, rfl⟩
  finishes := by
    intro h
    exact finish_of_ended haccepts (Bool.and_eq_true_iff.mp h).1
  owes := by
    have hlength := s.length_take op (octets input)
    have hsplit := congrArg List.length
      (List.take_append_drop room.size (s.take op (octets input)).pending)
    rw [List.length_append] at hsplit
    rw [emitted_reply, reply, (take_input input).2]
    dsimp only [view]
    rw [List.length_nil]
    omega
  goesOn := by
    intro _ h
    exact ⟨finish_of_ended haccepts h, (take_input input).2⟩
  isDone := by
    intro hop _ _ op' input' h
    exact absurd (finish_of_ended haccepts h) hop

theorem encodes (parameters : List Parameter) : engine.Encodes parameters view where
  opens := by
    intro world s world₁ s' world' hcreate hconf
    rw [configure] at hconf
    obtain ⟨hs, -⟩ := Prod.mk.inj hcreate
    obtain ⟨hs', -⟩ := Prod.mk.inj hconf
    obtain rfl := (Except.ok.inj hs).trans (Except.ok.inj hs')
    exact ⟨rfl, rfl, fun _ _ => nofun⟩
  call := by
    intro s world x y op input room hat hunfinished haccepts hroom
    exact ⟨_, _, _, rfl, call_encodes hat haccepts⟩

end Encoder

/-- A decoder with the bytes that it holds, and where in the stream it is. -/
structure Decoder where
  pending : List UInt8 := []
  /-- The last byte was a mark. -/
  marked : Bool := false
  ended : Bool := false

namespace Decoder

def step (s : Decoder) (b : UInt8) : Decoder :=
  if s.marked then { s with pending := s.pending ++ [b], marked := false }
  else if b = 0 then { s with ended := true }
  else { s with marked := true }

/-- Takes bytes in up to the end of the stream; answers how many. -/
def feed (s : Decoder) : List UInt8 → Nat × Decoder
  | [] => (0, s)
  | b :: input =>
    if s.ended then (0, s)
    else
      match (s.step b).feed input with
      | (count, s) => (count + 1, s)

def engine : DecoderEngine Unit Decoder where
  create world := (.ok {}, world)
  setParameter _ s world := (true, s, world)
  decompress input room s world :=
    let (count, s) := s.feed (octets input)
    let code := if s.ended && s.pending.length ≤ room.size then .streamEnd else .ok
    (reply (input.size - count) s.pending room code,
      { s with pending := s.pending.drop room.size }, world)
  hasMoreOutput s := !s.pending.isEmpty
  isFinished s := s.ended && s.pending.isEmpty

/-- What a decoder still awaits of a stream, and the plain bytes it will add for it. -/
inductive Awaits (s : Decoder) : List UInt8 → List UInt8 → Prop
  | mark (rest : List UInt8) (ended : s.ended = false) (marked : s.marked = false) :
      Awaits s (stream rest) rest
  | byte (b : UInt8) (rest : List UInt8) (ended : s.ended = false) (marked : s.marked = true) :
      Awaits s (b :: stream rest) (b :: rest)
  | nothing (ended : s.ended = true) : Awaits s [] []

namespace Awaits

variable {s : Decoder} {compressed rest : List UInt8}

theorem length (h : s.Awaits compressed rest) : rest.length = compressed.length / 2 := by
  cases h with
  | mark => rw [length_stream]; omega
  | byte => rw [List.length_cons, List.length_cons, length_stream]; omega
  | nothing => rfl

/-- What is pending makes no difference. -/
theorem drop (h : s.Awaits compressed rest) (count : Nat) :
    Awaits { s with pending := s.pending.drop count } compressed rest := by
  cases h with
  | mark rest ended marked => exact .mark rest ended marked
  | byte b rest ended marked => exact .byte b rest ended marked
  | nothing ended => exact .nothing ended

theorem ended_iff (h : s.Awaits compressed rest) : s.ended = true ↔ compressed = [] := by
  cases h with
  | mark rest ended marked => simp [ended, stream]
  | byte b rest ended marked => simp [ended]
  | nothing ended => simp [ended]

theorem step {b : UInt8} (h : s.Awaits (b :: compressed) rest) :
    ∃ got rest', rest = got ++ rest' ∧ (s.step b).Awaits compressed rest' ∧
      (s.step b).pending = s.pending ++ got := by
  generalize hall : b :: compressed = all at h
  cases h with
  | mark rest ended marked =>
    cases rest with
    | nil =>
      obtain ⟨rfl, rfl⟩ := List.cons.inj hall
      refine ⟨[], [], rfl, ?_, ?_⟩
      · rw [Decoder.step, marked]
        exact .nothing rfl
      · rw [Decoder.step, marked, List.append_nil]
        rfl
    | cons a rest =>
      obtain ⟨rfl, rfl⟩ := List.cons.inj hall
      refine ⟨[], a :: rest, rfl, ?_, ?_⟩
      · rw [Decoder.step, marked]
        exact .byte a rest ended rfl
      · rw [Decoder.step, marked, List.append_nil]
        rfl
  | byte a rest ended marked =>
    obtain ⟨rfl, rfl⟩ := List.cons.inj hall
    refine ⟨[b], rest, rfl, ?_, ?_⟩
    · rw [Decoder.step, if_pos marked]
      exact .mark rest ended rfl
    · rw [Decoder.step, if_pos marked]
  | nothing => cases hall

/-- Feeding takes all that belongs to the stream. -/
theorem feed {input : List UInt8} (h : s.Awaits compressed rest)
    (hinput : input.take compressed.length <+: compressed) :
    (s.feed input).1 = min input.length compressed.length ∧
      ∃ got rest', rest = got ++ rest' ∧
        (s.feed input).2.Awaits (compressed.drop (s.feed input).1) rest' ∧
        (s.feed input).2.pending = s.pending ++ got := by
  induction input generalizing s compressed rest with
  | nil => exact ⟨(Nat.zero_min _).symm, [], rest, rfl, h, (List.append_nil _).symm⟩
  | cons a input ih =>
    rw [Decoder.feed]
    split
    · next hended =>
      obtain rfl := h.ended_iff.mp hended
      exact ⟨(Nat.min_zero _).symm, [], rest, rfl, h, (List.append_nil _).symm⟩
    · next hended =>
      rw [h.ended_iff] at hended
      obtain ⟨b, later, rfl⟩ := List.exists_cons_of_ne_nil hended
      rw [List.length_cons, List.take_succ_cons, List.cons_prefix_cons] at hinput
      obtain ⟨rfl, hlater⟩ := hinput
      obtain ⟨got, rest', rfl, hstep, hpending⟩ := h.step
      obtain ⟨hcount, got', rest'', rfl, hfeed, hpending'⟩ := ih hstep hlater
      refine ⟨?_, got ++ got', rest'', (List.append_assoc ..).symm, hfeed, ?_⟩
      · dsimp only
        rw [hcount, List.length_cons, List.length_cons]
        omega
      · rw [hpending', hpending, List.append_assoc]

end Awaits

theorem configure (parameters : List Parameter) (s : Decoder) (world : Unit) :
    engine.configure parameters s world = (.ok s, world) := by
  induction parameters with
  | nil => rfl
  | cons p rest ih => exact ih

/-- How many plain bytes the front of a stream determines. -/
def out (x : List UInt8) (c : Nat) : Nat := x.length - ((stream x).length - c) / 2

/-- What is pending and what is awaited make up all that was not emitted. -/
structure At (x : List UInt8) (s : Decoder) (_ : Unit) (c e : Nat) : Prop where
  within : c ≤ (stream x).length
  emitted : e ≤ x.length
  awaits : ∃ rest, s.Awaits ((stream x).drop c) rest ∧ x.drop e = s.pending ++ rest

theorem At.pending {x : List UInt8} {s : Decoder} {world : Unit} {c e : Nat} (h : At x s world c e) :
    e + s.pending.length = out x c := by
  obtain ⟨rest, hawaits, hrest⟩ := h.awaits
  have hlen := congrArg List.length hrest
  rw [List.length_drop, List.length_append, hawaits.length, List.length_drop] at hlen
  have hhalf := length_stream x
  have := h.emitted
  have := h.within
  rw [out]
  omega

/-- At the end with nothing pending, all was consumed and emitted. -/
theorem At.ends {x : List UInt8} {s : Decoder} {world : Unit} {c e : Nat} (h : At x s world c e)
    (hended : s.ended = true) (hpending : s.pending = []) :
    c = (stream x).length ∧ e = x.length := by
  obtain ⟨rest, hawaits, hrest⟩ := h.awaits
  have hnone := hawaits.ended_iff.mp hended
  have hrest' := hawaits.length
  rw [hnone] at hrest'
  obtain rfl := List.length_eq_zero_iff.mp hrest'
  rw [hpending] at hrest
  have := List.drop_eq_nil_iff.mp hnone
  have := List.drop_eq_nil_iff.mp hrest
  have := h.within
  have := h.emitted
  omega

def after (s : Decoder) (input : List UInt8) (room : Nat) : Decoder :=
  { (s.feed input).2 with pending := (s.feed input).2.pending.drop room }

/-- A call consumes all that belongs to the stream and emits what there is room for. -/
theorem At.step {x : List UInt8} {s : Decoder} {world : Unit} {c e : Nat} (h : At x s world c e)
    {input : List UInt8} (room : Nat)
    (hinput : input.take ((stream x).length - c) <+: (stream x).drop c) :
    (s.feed input).1 = min input.length ((stream x).length - c) ∧
      At x (s.after input room) world (c + (s.feed input).1)
        (e + ((s.feed input).2.pending.take room).length) ∧
      (s.feed input).2.pending <+: x.drop e := by
  obtain ⟨rest, hawaits, hrest⟩ := h.awaits
  rw [← List.length_drop] at hinput
  obtain ⟨hcount, got, rest', rfl, hfeed, hpending⟩ := hawaits.feed hinput
  rw [List.length_drop] at hcount
  rw [List.drop_drop] at hfeed
  rw [← List.append_assoc, ← hpending] at hrest
  have hlength := congrArg List.length hrest
  rw [List.length_drop, List.length_append] at hlength
  have := h.within
  have := h.emitted
  refine ⟨hcount, ⟨by omega, ?_, rest', hfeed.drop room, ?_⟩, ⟨rest', hrest.symm⟩⟩
  · rw [List.length_take]
    omega
  · rw [← List.drop_drop, hrest, List.length_take]
    rcases Nat.le_total room (s.feed input).2.pending.length with hle | hle
    · rw [Nat.min_eq_left hle, List.drop_append_of_le_length hle]
      rfl
    · rw [Nat.min_eq_right hle, List.drop_left, after, List.drop_of_length_le hle]
      rfl

/-- What a call answers: its code tells the end of the stream once all pending bytes fit. -/
def answer (s : Decoder) (input room : ByteArray) : Reply :=
  reply (input.size - (s.feed (octets input)).1) (s.feed (octets input)).2.pending room
    (if (s.feed (octets input)).2.ended && (s.feed (octets input)).2.pending.length ≤ room.size then
      .streamEnd
    else .ok)

theorem At.call {x : List UInt8} {s : Decoder} {c e : Nat} (h : At x s () c e)
    {input room : ByteArray}
    (hinput : (octets input).take ((stream x).length - c) <+: (stream x).drop c) :
    ∃ c' e', At x (s.after (octets input) room.size) () c' e' ∧
      engine.CallDecodes (stream x) x (out x) c e input room (s.answer input room)
        (s.after (octets input) room.size) c' e' := by
  obtain ⟨hcount, hafter, hfront⟩ := h.step room.size hinput
  rw [length_octets] at hcount
  have hrest (h : (s.feed (octets input)).2.pending.length ≤ room.size) :
      (s.after (octets input) room.size).pending = [] := List.drop_of_length_le h
  have hfits (h : ((s.feed (octets input)).2.pending.take room.size).length < room.size) :
      (s.feed (octets input)).2.pending.length ≤ room.size := by
    rw [List.length_take] at h
    omega
  have hwithin := h.within
  refine ⟨_, _, hafter, ?_⟩
  unfold answer
  constructor
  case consumed =>
    rw [reply]
    dsimp only
    omega
  case emitted => rw [emitted_reply]
  case within => exact hafter.within
  case determined =>
    rw [← hafter.pending]
    exact Nat.le_add_right ..
  case bytes =>
    rw [bytes_reply, emitted_reply]
    exact (List.prefix_iff_eq_take.mp ((List.take_prefix ..).trans hfront))
  case succeeds =>
    intro detail
    dsimp only [reply]
    split <;> exact nofun
  case roomLeft =>
    rw [emitted_reply]
    intro hleft
    have hnone := hrest (hfits hleft)
    refine ⟨by omega, ?_, ?_⟩
    · rw [← hafter.pending, hnone, List.length_nil, Nat.add_zero]
    · dsimp only [engine]
      rw [hnone]
      rfl
  case ended =>
    intro hcode
    dsimp only [reply] at hcode
    split at hcode
    · next hend =>
      simp only [Bool.and_eq_true, decide_eq_true_eq] at hend
      exact hafter.ends hend.1 (hrest hend.2)
    · cases hcode
  case ends =>
    rw [emitted_reply]
    intro hc _ hleft
    obtain ⟨rest, hawaits, -⟩ := hafter.awaits
    have hended : (s.feed (octets input)).2.ended = true :=
      hawaits.ended_iff.mpr (List.drop_of_length_le (Nat.le_of_eq hc.symm))
    dsimp only [reply]
    rw [hended, decide_eq_true (hfits hleft)]
    rfl

theorem decodes (parameters : List Parameter) (x : List UInt8) :
    engine.Decodes parameters (stream x) x (out x) (At x) where
  mono := by
    intro c c' hle
    rw [out, out]
    omega
  out_zero := by
    rw [out, length_stream]
    omega
  out_all := by rw [out, Nat.sub_self, Nat.zero_div, Nat.sub_zero]
  opens := by
    intro world s world₁ s' world' hcreate hconf
    rw [configure] at hconf
    obtain ⟨hs, -⟩ := Prod.mk.inj hcreate
    obtain ⟨hs', -⟩ := Prod.mk.inj hconf
    obtain rfl := (Except.ok.inj hs).trans (Except.ok.inj hs')
    exact ⟨Nat.zero_le _, Nat.zero_le _, x, .mark x rfl rfl, rfl⟩
  finished := by
    intro s world c e hat hfinished
    obtain ⟨hended, hpending⟩ := Bool.and_eq_true_iff.mp hfinished
    exact hat.ends hended (List.isEmpty_iff.mp hpending)
  call := by
    intro s world c e input room hat hunfinished hroom hinput
    obtain ⟨c', e', hafter, hcall⟩ := hat.call hinput
    exact ⟨_, _, world, c', e', rfl, hafter, hcall⟩

/-- Bytes that are pending stay so until they are emitted. -/
theorem pending_feed (s : Decoder) (input : List UInt8) :
    s.pending <+: (s.feed input).2.pending := by
  induction input generalizing s with
  | nil => exact List.prefix_rfl
  | cons b input ih =>
    rw [feed]
    split
    · exact List.prefix_rfl
    · refine List.IsPrefix.trans ?_ (ih (s.step b))
      unfold step
      split
      · exact List.prefix_append ..
      · split <;> exact List.prefix_rfl

/-- A decoder that has not met the end takes something of what it is offered. -/
theorem feed_pos {s : Decoder} {input : List UInt8} (hinput : 0 < input.length)
    (h : s.ended = false) : 0 < (s.feed input).1 := by
  cases input with
  | nil => exact absurd hinput (Nat.lt_irrefl 0)
  | cons b input =>
    rw [feed, if_neg (ne_true_of_eq_false h)]
    exact Nat.succ_pos _

theorem ended_feed {s : Decoder} (input : List UInt8) (h : s.ended = true) : s.feed input = (0, s) := by
  cases input with
  | nil => rfl
  | cons b input => rw [feed, if_pos h]

theorem conforms (parameters : List Parameter) : engine.Conforms parameters fun _ _ => True where
  opens := fun _ _ _ _ _ _ _ => trivial
  live := fun _ _ _ _ _ _ _ _ _ _ => trivial
  idle := by
    intro s world input room _ hunfinished hroom hinput hpending
    have hnone : s.pending = [] := by simpa [engine] using hpending
    have hended : s.ended = false := by simpa [engine, hnone] using hunfinished
    have hoctets : octets input = [] := (octets_eq_nil_iff input).mpr hinput
    refine ⟨s.answer input room, ?_, ?_, ?_, ?_⟩
    · have hafter : s.after (octets input) room.size = s := by
        rw [after, hoctets, feed, hnone, List.drop_nil, ← hnone]
      exact congrArg (fun s' => (s.answer input room, s', world)) hafter
    · simp [answer, hoctets, feed, hnone, reply]
    · simp [answer, hoctets, feed, hnone, reply]
      exact overlay_empty room
    · simp [answer, hoctets, feed, hnone, reply, hended, CallCode.Ends]
  moves := by
    intro s world input room r s' world' _ hroom hwork hcall
    obtain rfl : s.answer input room = r := (Prod.mk.inj hcall).1
    by_cases hpending : (s.feed (octets input)).2.pending = []
    · have hbefore : s.pending = [] := List.prefix_nil.mp (hpending ▸ s.pending_feed (octets input))
      have hinput : 0 < (octets input).length := hwork.resolve_right (by simp [engine, hbefore])
      cases hended : s.ended with
      | true =>
        refine .inr (.inr ?_)
        simp [answer, ended_feed _ hended, hended, hbefore, reply, CallCode.Ends]
      | false =>
        have hpos := feed_pos hinput hended
        rw [length_octets] at hinput
        exact .inl (Nat.sub_lt hinput hpos)
    · have hlength := List.length_pos_iff.mpr hpending
      exact .inr (.inl (Nat.sub_lt hroom hlength))

end Decoder

/-- What a finished encoder emitted is a stream that the decoder decodes. -/
theorem pairs (parameters : List Parameter) {s : Encoder} {x y : List UInt8}
    (hat : Encoder.view.At s () x y) (hfinished : Encoder.engine.isFinished s = true) :
    Decoder.engine.Decodes parameters y x (Decoder.out x) (Decoder.At x) := by
  obtain ⟨hended, hpending⟩ := Bool.and_eq_true_iff.mp hfinished
  have hall : y ++ s.pending = mark x ++ if s.ended then [0] else [] := hat
  rw [List.isEmpty_iff.mp hpending, hended, if_pos rfl, List.append_nil] at hall
  rw [hall]
  exact Decoder.decodes parameters x

/-- Both engines, as engines of a codec. -/
def factory : Factory Unit Encoder Decoder := ⟨⟨.brotli, "marked", "1"⟩, Encoder.engine, Decoder.engine⟩

def registry : Registry Unit Encoder Decoder := { factories := [factory] }

def options : CodecOptions := { codec := .brotli }

/-- Buffers of three bytes. -/
def stream₃ : StreamOptions := { bufferSize := 3 }

/-- A sink that takes its first bytes one and two at a time. -/
def slowSink : Sink := { writes := [.accept (some 1), .accept (some 2)] }

/-- A sink that takes one byte of the first chunk and then fails once. -/
def tearingSink : Sink := { writes := [.accept (some 1), .fail ⟨.brokenPipe, "gone"⟩] }

/-- A sink that takes one byte of the first chunk, then nothing once. It never fails. -/
def idlingSink : Sink := { writes := [.accept (some 1), .accept (some 0)] }

/-- A sink that yields before its answers, takes nothing once and fails its first flush. -/
def yieldingSink : Sink where
  writes := [.pause .yield, .accept (some 1), .pause .yield, .pause .yield, .accept (some 0)]
  flushes := [.pause .yield, .fail ⟨.brokenPipe, "gone"⟩]

/-- A sink that takes one byte of the first chunk, then parks until the token `stop` is
cancelled. -/
def parkingSink : Sink := { writes := [.accept (some 1), .pause (.cancel "stop")] }

/-- A sink that takes all it is given and fails its first flush. -/
def unflushedSink : Sink := { flushes := [.fail ⟨.brokenPipe, "gone"⟩] }

def compressor (sink : Sink) (stream : StreamOptions) : Compressor Unit Encoder where
  session :=
    { options, version := factory.version, engine := Encoder.engine, world := (), handle := some {} }
  output := .withCapacity stream.capacity
  sink
  options := stream

theorem new_compressor (sink : Sink) (stream : StreamOptions) :
    Compressor.new registry () sink options stream = (.ok (compressor sink stream), ()) := rfl

/-- The stream of two bytes in two pieces, and a byte behind it. -/
def wholeSource : Source := { answers := [.data ⟨#[1]⟩, .data ⟨#[97, 1, 98, 0, 7]⟩] }

/-- The same stream, cut off after its second mark. -/
def cutSource : Source := { answers := [.data ⟨#[1]⟩, .data ⟨#[97, 1]⟩] }

/-- The whole stream again, with failures and a claim beyond the room in between. -/
def faultySource : Source where
  answers :=
    [.fail ⟨.brokenPipe, "gone"⟩, .data ⟨#[1]⟩, .fail ⟨.interrupted, "again"⟩, .lie 2,
      .data ⟨#[97, 1, 98, 0, 7]⟩]

/-- The whole stream again, for a caller who gives up waiting once. -/
def haltingSource : Source where
  answers :=
    [.data ⟨#[1]⟩, .pause (.cancel "stop"), .fail ⟨.brokenPipe, "gone"⟩,
      .data ⟨#[97, 1, 98, 0, 7]⟩]

/-- The whole stream again, with a failure and an empty piece in it, for a caller who waits. -/
def yieldingSource : Source where
  answers :=
    [.pause .yield, .data ⟨#[1]⟩, .pause .yield, .pause .yield, .fail ⟨.brokenPipe, "gone"⟩,
      .data ⟨#[97, 1, 98, 0, 7]⟩, .pause .yield, .data ⟨#[]⟩]

def decompressor (source : Source) (stream : StreamOptions) : Decompressor Unit Decoder where
  session :=
    { options, version := factory.version, engine := Decoder.engine, world := (), handle := some {} }
  input := .withCapacity stream.capacity
  source
  options := stream

theorem new_decompressor (source : Source) (stream : StreamOptions) :
    Decompressor.new registry () source options stream = (.ok (decompressor source stream), ()) := rfl

/-- A decoder that takes nothing of what it is offered. -/
def deaf : DecoderEngine Unit Unit where
  create world := (.ok (), world)
  setParameter _ handle world := (true, handle, world)
  decompress input room handle world :=
    (⟨input.size, room.size, room, .needsMoreInput⟩, handle, world)
  hasMoreOutput _ := false
  isFinished _ := false

def deafRegistry : Registry Unit Encoder Unit :=
  { factories := [⟨⟨.brotli, "deaf", "1"⟩, Encoder.engine, deaf⟩] }

/-- A source of one byte. -/
def shortSource : Source := { answers := [.data ⟨#[1]⟩] }

def deafDecompressor : Decompressor Unit Unit where
  session :=
    { options, version := ⟨.brotli, "deaf", "1"⟩, engine := deaf, world := (), handle := some () }
  input := .withCapacity stream₃.capacity
  source := shortSource
  options := stream₃

end StreamCodec.Marked
