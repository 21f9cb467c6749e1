import StreamCodec.Async.Decompressor
import StreamCodec.Proofs.Conforming
import StreamCodec.Proofs.Unpaused

/-!
# Failures of a source

A pull is one attempt of a decompressor to get a piece from its source. Both
kinds of decompressor make them; they differ in what fails them. To a blocking
one an I/O error and a claim beyond the room are failures, and pauses do not
exist. A suspending one fails on an I/O error and where its token is cancelled,
at once or in a pause; nobody can claim more than its room.

`Source.without` is what a source holds but for its failures. A pull that fails
leaves this as it is, and one that succeeds gets the next of it.
-/
namespace StreamCodec

namespace SourceAnswer

/-- What does not reach a blocking reader as a piece. -/
def isFault : SourceAnswer → Bool
  | .fail _ | .pause _ => true
  | .lie excess => 0 < excess
  | .data _ => false

/-- What does not reach a suspending reader as a piece. A lie comes out as zero there. -/
def isSetback : SourceAnswer → Bool
  | .fail _ | .pause _ => true
  | .lie _ | .data _ => false

end SourceAnswer

theorem mem_apply_cancel (cancelled : Cancelled) (token : Token) :
    token ∈ (Pause.cancel token).apply cancelled := by
  unfold Pause.apply
  dsimp only
  split
  · assumption
  · exact List.mem_cons_self ..

theorem Cancelled.mem_look {cancelled : Cancelled} {token : Token} (h : token ∈ cancelled) :
    token ∈ cancelled.look := by
  unfold look
  split
  · exact h
  · exact List.mem_append_right _ h

namespace Source

/-- What a blocking pull makes of a read. -/
def judge (room : Nat) : Except IoError Delivery → Except CodecError Delivery
  | .error e => .error (.io e)
  | .ok delivery =>
    if room < delivery.reported then .error (.sourceOverrun delivery.reported room) else .ok delivery

/-- A blocking pull. Where there is no room interruptions are not tried again. -/
def pull (s : Source) (room : Nat) : Except CodecError Delivery × Source :=
  if room = 0 then (judge 0 (s.read 0).1, (s.read 0).2)
  else (judge room (s.readPatiently room).1, (s.readPatiently room).2)

/-- A pull that races a token. -/
def pullOr (s : Source) (room : Nat) (token : Token) (cancelled : Cancelled) :
    Outcome Delivery × Source × Cancelled :=
  match s.readOr room token cancelled with
  | (.ready (.ok delivery), s, cancelled) => (.returned (.ok delivery), s, cancelled)
  | (.ready (.error e), s, cancelled) => (.returned (.error (.io e)), s, cancelled)
  | (.cancelled, s, cancelled) => (.returned (.error .cancelled), s, cancelled)
  | (.abandoned, s, cancelled) => (.abandoned, s, cancelled)

variable {fault : SourceAnswer → Bool} {room : Nat}

/-- What a source holds but for its failures. -/
def without (fault : SourceAnswer → Bool) (s : Source) : ByteArray × List SourceAnswer :=
  (s.piece, s.answers.filter fun answer => !fault answer)

/-- How many failures are still to come. -/
def faults (fault : SourceAnswer → Bool) (s : Source) : Nat := s.answers.countP fault

/-- The front of a piece that fits into the room, and the rest of it. -/
def cut (piece : ByteArray) (room : Nat) : Delivery × ByteArray :=
  (⟨piece.extract 0 (min piece.size room), min piece.size room⟩,
    piece.extract (min piece.size room) piece.size)

/-- What a source without failures delivers, and what it then holds. -/
def next (lie : Nat → Delivery) (room : Nat) (held : ByteArray × List SourceAnswer) :
    Delivery × ByteArray × List SourceAnswer :=
  if held.1.size = 0 then
    match held.2 with
    | .data piece :: rest =>
      if room = 0 then (⟨.empty, 0⟩, held) else ((cut piece room).1, (cut piece room).2, rest)
    | .lie excess :: rest => (lie excess, held.1, rest)
    | _ => (⟨.empty, 0⟩, held)
  else ((cut held.1 room).1, (cut held.1 room).2, held.2)

/-- How a pull fares: it gets the next piece, or it fails and the source holds what it held. -/
def Fares (fault : SourceAnswer → Bool) (lie : Nat → Delivery) (room : Nat) (s : Source)
    (result : Except CodecError Delivery) (s' : Source) : Prop :=
  match result with
  | .ok delivery => next lie room (s.without fault) = (delivery, s'.without fault)
  | .error e => e.Passing ∧ s'.without fault = s.without fault

/-- A pull that fails uses up a failure, and none adds one. -/
def Costs (fault : SourceAnswer → Bool) (s : Source) (result : Except CodecError Delivery)
    (s' : Source) : Prop :=
  match result with
  | .ok _ => s'.faults fault ≤ s.faults fault
  | .error _ => s'.faults fault < s.faults fault

theorem Fares.of_without {lie : Nat → Delivery} {s s₁ s' : Source} {result : Except CodecError Delivery}
    (h : s₁.Fares fault lie room result s') (hs : s₁.without fault = s.without fault) :
    s.Fares fault lie room result s' := by
  rcases result with e | delivery
  · exact ⟨h.1, h.2.trans hs⟩
  · exact (congrArg _ hs).symm.trans h

theorem Costs.of_le {s s₁ s' : Source} {result : Except CodecError Delivery}
    (h : s₁.Costs fault result s') (hs : s₁.faults fault ≤ s.faults fault) :
    s.Costs fault result s' := by
  rcases result with e | delivery
  · exact Nat.lt_of_lt_of_le h hs
  · exact Nat.le_trans h hs

theorem without_cons {answer : SourceAnswer} (h : fault answer = true) (s : Source)
    (rest : List SourceAnswer) :
    ({ s with answers := rest } : Source).without fault =
      ({ s with answers := answer :: rest } : Source).without fault := by
  rw [without, without, List.filter_cons_of_neg (by simp [h])]

theorem faults_cons {answer : SourceAnswer} (h : fault answer = true) (s : Source)
    (rest : List SourceAnswer) :
    ({ s with answers := rest } : Source).faults fault <
      ({ s with answers := answer :: rest } : Source).faults fault := by
  rw [faults, faults, List.countP_cons_of_pos h]
  exact Nat.lt_succ_self _

theorem faults_cons_le (answer : SourceAnswer) (s : Source) (rest : List SourceAnswer) :
    ({ s with answers := rest } : Source).faults fault ≤
      ({ s with answers := answer :: rest } : Source).faults fault :=
  (List.sublist_cons_self answer rest).countP_le

section Blocking

def overclaim (room excess : Nat) : Delivery := ⟨.empty, room + excess⟩

theorem judge_of_le {bytes : ByteArray} {reported : Nat} (h : reported ≤ room) :
    judge room (.ok ⟨bytes, reported⟩) = .ok ⟨bytes, reported⟩ := if_neg (Nat.not_lt_of_le h)

theorem fares_readFrom (room : Nat) (answers : List SourceAnswer) (s : Source)
    (hp : s.piece.size = 0) :
    Fares SourceAnswer.isFault (overclaim room) room { s with answers }
      (judge room (readFrom room answers s).1) (readFrom room answers s).2 := by
  fun_induction readFrom room answers s with
  | case1 s =>
    rw [judge_of_le (Nat.zero_le _)]
    simp [Fares, next, without, note, hp]
  | case2 piece rest s hroom =>
    rw [judge_of_le (Nat.zero_le _)]
    simp [Fares, next, without, note, hp, hroom, SourceAnswer.isFault]
  | case3 piece rest s hroom delivery s' hserve =>
    obtain ⟨rfl, rfl⟩ := Prod.mk.inj hserve
    rw [judge_of_le (Nat.min_le_right ..)]
    simp [Fares, next, without, cut, hp, hroom, SourceAnswer.isFault]
  | case4 e rest s => exact ⟨trivial, without_cons rfl _ rest⟩
  | case5 excess rest s =>
    rcases Nat.eq_zero_or_pos excess with rfl | hover
    · rw [Nat.add_zero, judge_of_le (Nat.le_refl _)]
      simp [Fares, next, without, note, overclaim, hp, SourceAnswer.isFault]
    · rw [judge, if_pos (Nat.lt_add_of_pos_right hover)]
      exact ⟨trivial, without_cons (decide_eq_true hover) _ rest⟩
  | case6 p rest s ih => exact (ih hp).of_without (without_cons rfl _ rest)

theorem costs_readFrom (room : Nat) (answers : List SourceAnswer) (s : Source) :
    Costs SourceAnswer.isFault { s with answers } (judge room (readFrom room answers s).1)
      (readFrom room answers s).2 := by
  fun_induction readFrom room answers s with
  | case1 s =>
    rw [judge_of_le (Nat.zero_le _)]
    exact Nat.le_refl _
  | case2 piece rest s =>
    rw [judge_of_le (Nat.zero_le _)]
    exact Nat.le_refl _
  | case3 piece rest s hroom delivery s' hserve =>
    obtain ⟨rfl, rfl⟩ := Prod.mk.inj hserve
    rw [judge_of_le (Nat.min_le_right ..)]
    exact faults_cons_le _ _ rest
  | case4 e rest s => exact faults_cons rfl _ rest
  | case5 excess rest s =>
    rcases Nat.eq_zero_or_pos excess with rfl | hover
    · rw [Nat.add_zero, judge_of_le (Nat.le_refl _)]
      exact faults_cons_le _ _ rest
    · rw [judge, if_pos (Nat.lt_add_of_pos_right hover)]
      exact faults_cons (decide_eq_true hover) _ rest
  | case6 p rest s ih => exact ih.of_le (Nat.le_of_lt (faults_cons rfl _ rest))

theorem fares_read (s : Source) (room : Nat) :
    s.Fares SourceAnswer.isFault (overclaim room) room (judge room (s.read room).1)
      (s.read room).2 := by
  unfold read
  split
  · next hp => exact fares_readFrom room s.answers s hp
  · next hp =>
    dsimp only [serve]
    rw [judge_of_le (Nat.min_le_right ..)]
    simp [Fares, next, without, cut, hp]

theorem costs_read (s : Source) (room : Nat) :
    s.Costs SourceAnswer.isFault (judge room (s.read room).1) (s.read room).2 := by
  unfold read
  split
  · exact costs_readFrom room s.answers s
  · dsimp only [serve]
    rw [judge_of_le (Nat.min_le_right ..)]
    exact Nat.le_refl _

/-- Interruptions that are waited out do not show in what a pull gets. -/
theorem fares_readPatiently (s : Source) (room : Nat) :
    s.Fares SourceAnswer.isFault (overclaim room) room (judge room (s.readPatiently room).1)
        (s.readPatiently room).2 ∧
      s.Costs SourceAnswer.isFault (judge room (s.readPatiently room).1)
        (s.readPatiently room).2 := by
  fun_induction readPatiently s room with
  | case1 s delivery s' h =>
    have hfares := s.fares_read room
    have hcosts := s.costs_read room
    rw [h] at hfares hcosts
    exact ⟨hfares, hcosts⟩
  | case2 s e s' h hi ih =>
    have hfares := s.fares_read room
    have hcosts := s.costs_read room
    rw [h] at hfares hcosts
    exact ⟨ih.1.of_without hfares.2, ih.2.of_le (Nat.le_of_lt hcosts)⟩
  | case3 s e s' h =>
    have hfares := s.fares_read room
    have hcosts := s.costs_read room
    rw [h] at hfares hcosts
    exact ⟨hfares, hcosts⟩

theorem fares_pull (s : Source) (room : Nat) :
    s.Fares SourceAnswer.isFault (overclaim room) room (s.pull room).1 (s.pull room).2 ∧
      s.Costs SourceAnswer.isFault (s.pull room).1 (s.pull room).2 := by
  unfold pull
  split
  · next hroom =>
    subst hroom
    exact ⟨s.fares_read 0, s.costs_read 0⟩
  · exact s.fares_readPatiently room

end Blocking

section Suspending

def nothingClaimed (_ : Nat) : Delivery := ⟨.empty, 0⟩

/-- The pauses of a row of answers wake whoever waits with the token: all of them yield, up to one
that cancels the token. -/
def Wakes (token : Token) : List SourceAnswer → Prop
  | [] => True
  | .pause .yield :: rest => Wakes token rest
  | .pause (.cancel t) :: _ => t = token
  | .pause .forever :: _ => False
  | .data _ :: rest | .fail _ :: rest | .lie _ :: rest => Wakes token rest

def returned (wait : Wait (Except IoError Delivery)) : Outcome Delivery :=
  match wait with
  | .ready (.ok delivery) => .returned (.ok delivery)
  | .ready (.error e) => .returned (.error (.io e))
  | .cancelled => .returned (.error .cancelled)
  | .abandoned => .abandoned

theorem fares_readRacing (room : Nat) (token : Token) (answers : List SourceAnswer) (s : Source)
    (cancelled : Cancelled) (hp : s.piece.size = 0) {result : Except CodecError Delivery}
    (h : returned (readRacing room token answers s cancelled).1 = .returned result) :
    Fares SourceAnswer.isSetback nothingClaimed room { s with answers } result
      (readRacing room token answers s cancelled).2.1 := by
  fun_induction readRacing room token answers s cancelled with
  | case1 s =>
    obtain rfl := Outcome.returned.inj h
    simp [Fares, next, without, note, hp]
  | case2 piece rest s cancelled hroom =>
    obtain rfl := Outcome.returned.inj h
    simp [Fares, next, without, note, hp, hroom, SourceAnswer.isSetback]
  | case3 piece rest s cancelled hroom delivery s' hserve =>
    obtain rfl := Outcome.returned.inj h
    obtain ⟨rfl, rfl⟩ := Prod.mk.inj hserve
    simp [Fares, next, without, cut, hp, hroom, SourceAnswer.isSetback]
  | case4 e rest s =>
    obtain rfl := Outcome.returned.inj h
    exact ⟨trivial, without_cons rfl _ rest⟩
  | case5 excess rest s =>
    obtain rfl := Outcome.returned.inj h
    simp [Fares, next, without, note, nothingClaimed, hp, SourceAnswer.isSetback]
  | case6 => cases h
  | case7 p rest s =>
    obtain rfl := Outcome.returned.inj h
    exact ⟨trivial, without_cons rfl _ rest⟩
  | case8 p rest s cancelled s' k hwakes hcancelled ih =>
    exact (ih hp h).of_without (without_cons rfl _ rest)

theorem pullOr_eq (s : Source) (room : Nat) (token : Token) (cancelled : Cancelled) :
    s.pullOr room token cancelled =
      (returned (s.readOr room token cancelled).1, (s.readOr room token cancelled).2) := by
  unfold pullOr
  rcases s.readOr room token cancelled with ⟨(e | delivery) | _ | _, source, cancelled'⟩ <;> rfl

/-- Whatever the token and whoever cancels it, a pull that returns fares like any other. -/
theorem fares_pullOr {s s' : Source} {token : Token} {cancelled cancelled' : Cancelled}
    {result : Except CodecError Delivery}
    (h : s.pullOr room token cancelled = (.returned result, s', cancelled')) :
    s.Fares SourceAnswer.isSetback nothingClaimed room result s' := by
  rw [pullOr_eq] at h
  obtain ⟨hresult, hrest⟩ := Prod.mk.inj h
  obtain rfl : (s.readOr room token cancelled).2.1 = s' := congrArg Prod.fst hrest
  unfold readOr at hresult ⊢
  dsimp only at hresult ⊢
  split at hresult
  · next hcancelled =>
    rw [if_pos hcancelled]
    obtain rfl := Outcome.returned.inj hresult
    exact ⟨trivial, rfl⟩
  · next hcancelled =>
    rw [if_neg hcancelled]
    split at hresult
    · next hp =>
      rw [if_pos hp]
      exact fares_readRacing room token s.answers s cancelled.look hp hresult
    · next hp =>
      rw [if_neg hp]
      obtain rfl := Outcome.returned.inj hresult
      simp [Fares, next, without, cut, serve, hp]

/-- How a pull goes for a caller whose token no one has cancelled: it returns, and if it fails it
uses up a failure. -/
structure Heeds (token : Token) (s : Source) (outcome : Outcome Delivery) (s' : Source)
    (cancelled' : Cancelled) : Prop where
  returns : ∃ result, outcome = .returned result ∧ s.Costs SourceAnswer.isSetback result s'
  spares : (∃ delivery, outcome = .returned (.ok delivery)) →
    cancelled'.Spares token ∧ Wakes token s'.answers
  suffix : s'.answers <:+ s.answers

theorem Heeds.of_suffix {token : Token} {s s₁ s' : Source} {outcome : Outcome Delivery}
    {cancelled' : Cancelled} (h : s₁.Heeds token outcome s' cancelled')
    (hs : s₁.answers <:+ s.answers) : s.Heeds token outcome s' cancelled' := by
  obtain ⟨⟨result, houtcome, hcosts⟩, hspares, hsuffix⟩ := h
  exact ⟨⟨result, houtcome, hcosts.of_le hs.sublist.countP_le⟩, hspares, hsuffix.trans hs⟩

theorem heeds_readRacing (room : Nat) (token : Token) (answers : List SourceAnswer) (s : Source)
    (cancelled : Cancelled) (hs : cancelled.Spares token) (hw : Wakes token answers) :
    Heeds token { s with answers } (returned (readRacing room token answers s cancelled).1)
      (readRacing room token answers s cancelled).2.1
      (readRacing room token answers s cancelled).2.2 := by
  fun_induction readRacing room token answers s cancelled with
  | case1 => exact ⟨⟨_, rfl, Nat.le_refl _⟩, fun _ => ⟨hs, hw⟩, List.suffix_refl _⟩
  | case2 => exact ⟨⟨_, rfl, Nat.le_refl _⟩, fun _ => ⟨hs, hw⟩, List.suffix_refl _⟩
  | case3 piece rest s cancelled hroom delivery s' hserve =>
    obtain ⟨rfl, rfl⟩ := Prod.mk.inj hserve
    exact ⟨⟨_, rfl, faults_cons_le _ _ rest⟩, fun _ => ⟨hs, hw⟩, List.suffix_cons _ _⟩
  | case4 e rest s => exact ⟨⟨_, rfl, faults_cons rfl _ rest⟩, by rintro ⟨_, ⟨⟩⟩, List.suffix_cons _ _⟩
  | case5 excess rest s =>
    exact ⟨⟨_, rfl, faults_cons_le _ _ rest⟩, fun _ => ⟨hs, hw⟩, List.suffix_cons _ _⟩
  | case6 p rest s cancelled s' k hwakes =>
    -- Every pause up to the one that cancels the token wakes the caller.
    cases p with
    | cancel t =>
      obtain rfl : t = token := hw
      simp [Pause.wakes] at hwakes
    | yield => simp [Pause.wakes] at hwakes
    | forever => exact hw.elim
  | case7 p rest s => exact ⟨⟨_, rfl, faults_cons rfl _ rest⟩, by rintro ⟨_, ⟨⟩⟩, List.suffix_cons _ _⟩
  | case8 p rest s cancelled s' k hwakes hcancelled ih =>
    cases p with
    | cancel t =>
      obtain rfl : t = token := hw
      exact absurd (Cancelled.mem_look (mem_apply_cancel cancelled t)) hcancelled
    | yield => exact (ih hs.look hw).of_suffix (List.suffix_cons _ rest)
    | forever => exact hw.elim

theorem heeds_pullOr (s : Source) (room : Nat) {token : Token} {cancelled : Cancelled}
    (hs : cancelled.Spares token) (hw : Wakes token s.answers) :
    s.Heeds token (s.pullOr room token cancelled).1 (s.pullOr room token cancelled).2.1
      (s.pullOr room token cancelled).2.2 := by
  rw [pullOr_eq]
  unfold readOr
  dsimp only
  rw [if_neg hs.look.1]
  split
  · exact heeds_readRacing room token s.answers s cancelled.look hs.look hw
  · exact ⟨⟨_, rfl, Nat.le_refl _⟩, fun _ => ⟨hs.look, hw⟩, List.suffix_refl _⟩

/-- Where no pause lasts for ever, some token is the one that the next cancellation is for. -/
theorem exists_wakes {answers : List SourceAnswer} (h : .pause .forever ∉ answers) :
    ∃ token, Wakes token answers := by
  induction answers with
  | nil => exact ⟨"", trivial⟩
  | cons answer rest ih =>
    obtain ⟨token, hrest⟩ := ih fun hmem => h (List.mem_cons_of_mem _ hmem)
    rcases answer with piece | e | excess | p
    · exact ⟨token, hrest⟩
    · exact ⟨token, hrest⟩
    · exact ⟨token, hrest⟩
    · cases p with
      | cancel t => exact ⟨t, rfl⟩
      | yield => exact ⟨token, hrest⟩
      | forever => exact absurd (List.mem_cons_self ..) h

/-- Without pauses no one is left waiting. -/
theorem wakes_of_forall {answers : List SourceAnswer}
    (h : ∀ answer ∈ answers, ¬answer.isSetback = true) (token : Token) : Wakes token answers := by
  induction answers with
  | nil => trivial
  | cons answer rest ih =>
    have hrest := ih fun a ha => h a (List.mem_cons_of_mem _ ha)
    rcases answer with piece | e | excess | p
    · exact hrest
    · exact hrest
    · exact hrest
    · exact absurd rfl (h _ (List.mem_cons_self ..))

end Suspending

end Source

end StreamCodec
