import StreamCodec.Json.Value
import StreamCodec.Proofs.JsonText

/-!
# The texts of values

A value has one sequence of tokens and as many texts as these can be written in.
The parser gives back the value from each of them: its stack machine runs over
the tokens of a value from the place where a value may stand to the place behind
it, with whatever is open below left as it was.
-/
namespace StreamCodec.Json

mutual

/-- The tokens of a value. -/
def toTokens : Json → List Token
  | .null => [.null]
  | .bool b => [.bool b]
  | .number n => [.number n]
  | .string s => [.string s]
  | .array [] => [.openArray, .closeArray]
  | .array (v :: items) => .openArray :: (v.toTokens ++ itemTokens items)
  | .object [] => [.openObject, .closeObject]
  | .object ((k, v) :: fields) =>
    .openObject :: .string k :: .colon :: (v.toTokens ++ fieldTokens fields)

/-- Further items of an array, up to its end. -/
def itemTokens : List Json → List Token
  | [] => [.closeArray]
  | v :: items => .comma :: (v.toTokens ++ itemTokens items)

/-- Further fields of an object, up to its end. -/
def fieldTokens : List (Option String × Json) → List Token
  | [] => [.closeObject]
  | (k, v) :: fields => .comma :: .string k :: .colon :: (v.toTokens ++ fieldTokens fields)

end

/-- The text spells the value, with blanks wherever they may stand. -/
def Spells (v : Json) (text : String) : Prop := Spaced v.toTokens text.toList

/-! ### The stack machine -/

mutual

/-- Over the tokens of a value the machine goes from before the value to behind it. -/
theorem run_toTokens (v : Json) {e : Expect} (he : e = .value ∨ e = .itemOrEnd)
    (frames : List Frame) (rest : List Token) :
    (v.toTokens ++ rest).foldlM step (e, frames) = rest.foldlM step (.next v, frames) := by
  match v with
  | .null | .bool _ | .number _ | .string _ | .array [] | .object [] =>
    rcases he with rfl | rfl <;> rfl
  | .array (v :: items) =>
    have hopen : step (e, frames) .openArray = some (.itemOrEnd, .array [] :: frames) := by
      rcases he with rfl | rfl <;> rfl
    rw [toTokens, List.cons_append, List.foldlM_cons, hopen, List.append_assoc]
    exact (run_toTokens v (.inr rfl) _ _).trans (run_itemTokens items v [] frames rest)
  | .object ((k, v) :: fields) =>
    have hopen : step (e, frames) .openObject = some (.keyOrEnd, frames) := by
      rcases he with rfl | rfl <;> rfl
    rw [toTokens, List.cons_append, List.foldlM_cons, hopen, List.cons_append, List.cons_append,
      List.append_assoc]
    exact (run_toTokens v (.inl rfl) _ _).trans (run_fieldTokens fields k v [] frames rest)

/-- The items that the array holds so far stand last first. -/
theorem run_itemTokens (items : List Json) (v : Json) (held : List Json) (frames : List Frame)
    (rest : List Token) :
    (itemTokens items ++ rest).foldlM step (.next v, .array held :: frames) =
      rest.foldlM step (.next (.array ((v :: held).reverse ++ items)), frames) := by
  match items with
  | [] =>
    rw [List.append_nil]
    rfl
  | w :: items =>
    rw [itemTokens, List.cons_append, List.append_assoc]
    refine (run_toTokens w (.inl rfl) _ _).trans ?_
    rw [run_itemTokens items w (v :: held) frames rest, List.reverse_cons, List.append_assoc,
      List.singleton_append]

theorem run_fieldTokens (fields : List (Option String × Json)) (k : Option String) (v : Json)
    (held : List (Option String × Json)) (frames : List Frame) (rest : List Token) :
    (fieldTokens fields ++ rest).foldlM step (.next v, .object held k :: frames) =
      rest.foldlM step (.next (.object (((k, v) :: held).reverse ++ fields)), frames) := by
  match fields with
  | [] =>
    rw [List.append_nil]
    rfl
  | (j, w) :: fields =>
    rw [fieldTokens, List.cons_append, List.cons_append, List.cons_append, List.append_assoc]
    refine (run_toTokens w (.inl rfl) _ _).trans ?_
    rw [run_fieldTokens fields j w ((k, v) :: held) frames rest, List.reverse_cons, List.append_assoc,
      List.singleton_append]

end

theorem ofTokens?_toTokens (v : Json) : ofTokens? v.toTokens = some v := by
  have hrun := run_toTokens v (.inl rfl) [] []
  rw [List.append_nil, List.foldlM_nil] at hrun
  rw [ofTokens?, hrun]
  rfl

/-! ### No two numbers in a row -/

/-- Tokens that may follow a number. -/
def Loose (ts : List Token) : Prop := ts.IsChain Apart ∧ ∀ n, ts.head? ≠ some (.number n)

theorem isChain_number {n : Option Int} {ts : List Token} (h : Loose ts) :
    (Token.number n :: ts).IsChain Apart :=
  List.isChain_cons.mpr ⟨fun _ ht _ m hm => h.2 m (hm ▸ ht), h.1⟩

theorem isChain_other {t : Token} {ts : List Token} (ht : ∀ n, t ≠ .number n)
    (h : ts.IsChain Apart) : (t :: ts).IsChain Apart :=
  List.isChain_cons.mpr ⟨fun _ _ ⟨n, hn⟩ => absurd hn (ht n), h⟩

theorem Loose.cons {t : Token} {ts : List Token} (ht : ∀ n, t ≠ .number n) (h : ts.IsChain Apart) :
    Loose (t :: ts) :=
  ⟨isChain_other ht h, fun n hn => ht n (Option.some.inj hn)⟩

mutual

theorem isChain_toTokens (v : Json) {rest : List Token} (h : Loose rest) :
    (v.toTokens ++ rest).IsChain Apart := by
  match v with
  | .number _ => exact isChain_number h
  | .null | .bool _ | .string _ => exact isChain_other nofun h.1
  | .array [] | .object [] => exact isChain_other nofun (isChain_other nofun h.1)
  | .array (v :: items) =>
    rw [toTokens, List.cons_append, List.append_assoc]
    exact isChain_other nofun (isChain_toTokens v (loose_itemTokens items h))
  | .object ((k, v) :: fields) =>
    rw [toTokens, List.cons_append, List.cons_append, List.cons_append, List.append_assoc]
    exact isChain_other nofun (isChain_other nofun (isChain_other nofun
      (isChain_toTokens v (loose_fieldTokens fields h))))

theorem loose_itemTokens (items : List Json) {rest : List Token} (h : Loose rest) :
    Loose (itemTokens items ++ rest) := by
  match items with
  | [] => exact .cons nofun h.1
  | v :: items =>
    rw [itemTokens, List.cons_append, List.append_assoc]
    exact .cons nofun (isChain_toTokens v (loose_itemTokens items h))

theorem loose_fieldTokens (fields : List (Option String × Json)) {rest : List Token}
    (h : Loose rest) : Loose (fieldTokens fields ++ rest) := by
  match fields with
  | [] => exact .cons nofun h.1
  | (k, v) :: fields =>
    rw [fieldTokens, List.cons_append, List.cons_append, List.cons_append, List.append_assoc]
    exact .cons nofun (isChain_other nofun (isChain_other nofun
      (isChain_toTokens v (loose_fieldTokens fields h))))

end

theorem parse?_of_spells {v : Json} {text : String} (h : Spells v text) : parse? text = some v := by
  have hapart : v.toTokens.IsChain Apart := by
    have hloose : Loose [] := ⟨.nil, nofun⟩
    have htokens := isChain_toTokens v hloose
    rwa [List.append_nil] at htokens
  rw [parse?, tokens_spaced h hapart, Option.bind_some, ofTokens?_toTokens]

end StreamCodec.Json
