/-!
# JSON tokens

The lexical half of JSON. A string is kept decoded, or as `none` where its
escapes spell a lone surrogate; such a string is well formed but no text. A
number is kept as an integer where it is written as one, else as `none`:
fractions, exponents and `-0` are not integers.
-/
namespace StreamCodec.Json

inductive Token where
  | openArray
  | closeArray
  | openObject
  | closeObject
  | comma
  | colon
  | null
  | bool (value : Bool)
  | number (value : Option Int)
  | string (text : Option String)
deriving DecidableEq, Repr

/-- The four characters that may stand between tokens. -/
def isBlank (c : Char) : Bool := c = ' ' || c = '\t' || c = '\n' || c = '\r'

def hexDigit? (c : Char) : Option Nat :=
  if '0' ≤ c ∧ c ≤ '9' then some (c.toNat - 48)
  else if 'a' ≤ c ∧ c ≤ 'f' then some (c.toNat - 87)
  else if 'A' ≤ c ∧ c ≤ 'F' then some (c.toNat - 55)
  else none

def escaped? : Char → Option Char
  | '"' => some '"'
  | '\\' => some '\\'
  | '/' => some '/'
  | 'b' => some '\x08'
  | 'f' => some '\x0c'
  | 'n' => some '\n'
  | 'r' => some '\r'
  | 't' => some '\t'
  | _ => none

/-- The rest of a string after its opening quote, as code units: a plain character
is its code point, a `\u` escape its sixteen bits. -/
def stringUnits : List Char → Option (List Nat × List Char)
  | [] => none
  | '"' :: rest => some ([], rest)
  | '\\' :: 'u' :: a :: b :: c :: d :: rest =>
    match hexDigit? a, hexDigit? b, hexDigit? c, hexDigit? d with
    | some a, some b, some c, some d =>
      (stringUnits rest).map fun (units, left) =>
        ((((a * 16 + b) * 16 + c) * 16 + d) :: units, left)
    | _, _, _, _ => none
  | '\\' :: e :: rest =>
    match escaped? e with
    | some c => (stringUnits rest).map fun (units, left) => (c.toNat :: units, left)
    | none => none
  | c :: rest =>
    if c.toNat < 32 ∨ c = '\\' then none
    else (stringUnits rest).map fun (units, left) => (c.toNat :: units, left)

/-- Joins surrogate pairs; a surrogate without its partner is no text. -/
def textOfUnits : List Nat → Option (List Char)
  | [] => some []
  | [u] => if 0xD800 ≤ u ∧ u < 0xE000 then none else some [Char.ofNat u]
  | u :: v :: rest =>
    if 0xD800 ≤ u ∧ u < 0xDC00 then
      if 0xDC00 ≤ v ∧ v < 0xE000 then
        (textOfUnits rest).map (Char.ofNat (0x10000 + (u - 0xD800) * 0x400 + (v - 0xDC00)) :: ·)
      else none
    else if 0xDC00 ≤ u ∧ u < 0xE000 then none
    else (textOfUnits (v :: rest)).map (Char.ofNat u :: ·)

/-- A run of decimal digits and what follows it. -/
def digits (cs : List Char) : List Char × List Char :=
  (cs.takeWhile Char.isDigit, cs.dropWhile Char.isDigit)

def natOfDigits (ds : List Char) : Nat := ds.foldl (fun n d => n * 10 + (d.toNat - 48)) 0

/-- The fraction of a number, if any: a point needs a digit behind it. -/
def fraction : List Char → Option (Bool × List Char)
  | '.' :: rest =>
    match digits rest with
    | ([], _) => none
    | (_, left) => some (true, left)
  | cs => some (false, cs)

def afterSign : List Char → List Char
  | '+' :: rest => rest
  | '-' :: rest => rest
  | cs => cs

/-- The exponent of a number, if any: its mark needs a digit behind it or behind its sign. -/
def exponent : List Char → Option (Bool × List Char)
  | c :: rest =>
    if c = 'e' ∨ c = 'E' then
      match digits (afterSign rest) with
      | ([], _) => none
      | (_, left) => some (true, left)
    else some (false, c :: rest)
  | [] => some (false, [])

/-- The whole part of a number. A leading zero stands alone. -/
def wholePart (cs : List Char) : Option (Nat × List Char) :=
  match digits cs with
  | ([], _) => none
  | ('0' :: _ :: _, _) => none
  | (ds, rest) => some (natOfDigits ds, rest)

def unsignedNumber (negative : Bool) (cs : List Char) : Option (Token × List Char) :=
  match wholePart cs with
  | none => none
  | some (n, rest) =>
    match fraction rest with
    | none => none
    | some (fractional, rest) =>
      match exponent rest with
      | none => none
      | some (scaled, rest) =>
        let value : Option Int :=
          if fractional || scaled || (negative && n = 0) then none
          else some (if negative then -n else n)
        some (.number value, rest)

/-- The token that starts with `c` and goes on in `rest`. -/
def token? (c : Char) (rest : List Char) : Option (Token × List Char) :=
  match c with
  | '[' => some (.openArray, rest)
  | ']' => some (.closeArray, rest)
  | '{' => some (.openObject, rest)
  | '}' => some (.closeObject, rest)
  | ',' => some (.comma, rest)
  | ':' => some (.colon, rest)
  | '"' => (stringUnits rest).map fun (units, left) =>
      (.string ((textOfUnits units).map String.ofList), left)
  | 'n' => match rest with
    | 'u' :: 'l' :: 'l' :: left => some (.null, left)
    | _ => none
  | 't' => match rest with
    | 'r' :: 'u' :: 'e' :: left => some (.bool true, left)
    | _ => none
  | 'f' => match rest with
    | 'a' :: 'l' :: 's' :: 'e' :: left => some (.bool false, left)
    | _ => none
  | '-' => unsignedNumber true rest
  | c => unsignedNumber false (c :: rest)

theorem length_stringUnits {cs rest : List Char} {units : List Nat}
    (h : stringUnits cs = some (units, rest)) : rest.length ≤ cs.length := by
  fun_induction stringUnits cs generalizing units rest with
  | case1 => simp at h
  | case2 r => simp at h; simp [h.2]
  | case3 a b c d r _ _ _ _ _ _ _ _ ih =>
    simp only [Option.map_eq_some_iff] at h
    obtain ⟨⟨u, l⟩, hu, he⟩ := h
    cases he
    have := ih hu
    simp only [List.length_cons]; omega
  | case4 => simp at h
  | case5 e r _ c _ ih =>
    simp only [Option.map_eq_some_iff] at h
    obtain ⟨⟨u, l⟩, hu, he⟩ := h
    cases he
    have := ih hu
    simp only [List.length_cons]; omega
  | case6 => simp at h
  | case7 => simp at h
  | case8 c r _ _ _ _ ih =>
    simp only [Option.map_eq_some_iff] at h
    obtain ⟨⟨u, l⟩, hu, he⟩ := h
    cases he
    have := ih hu
    simp only [List.length_cons]; omega

theorem length_digits (cs : List Char) : (digits cs).2.length ≤ cs.length :=
  (List.dropWhile_sublist _).length_le

theorem length_fraction {cs rest : List Char} {b : Bool} (h : fraction cs = some (b, rest)) :
    rest.length ≤ cs.length := by
  unfold fraction at h
  split at h
  · next r =>
    have hd := length_digits r
    split at h
    · simp at h
    · next left he =>
      simp only [he] at hd
      simp only [Option.some.injEq, Prod.mk.injEq] at h
      simp only [List.length_cons, ← h.2]; omega
  · simp only [Option.some.injEq, Prod.mk.injEq] at h
    simp [h.2]

theorem length_afterSign (cs : List Char) : (afterSign cs).length ≤ cs.length := by
  unfold afterSign; split <;> simp

theorem length_exponent {cs rest : List Char} {b : Bool} (h : exponent cs = some (b, rest)) :
    rest.length ≤ cs.length := by
  unfold exponent at h
  split at h
  · next c r =>
    split at h
    · have hs := length_afterSign r
      have hd := length_digits (afterSign r)
      split at h
      · simp at h
      · next left he =>
        simp only [he] at hd
        simp only [Option.some.injEq, Prod.mk.injEq] at h
        simp only [List.length_cons, ← h.2]; omega
    · simp only [Option.some.injEq, Prod.mk.injEq] at h
      simp [← h.2]
  · simp only [Option.some.injEq, Prod.mk.injEq] at h
    simp [← h.2]

theorem length_wholePart {cs rest : List Char} {n : Nat} (h : wholePart cs = some (n, rest)) :
    rest.length < cs.length := by
  have hl : cs.length = (digits cs).1.length + (digits cs).2.length := by
    rw [← List.length_append, digits, List.takeWhile_append_dropWhile]
  unfold wholePart at h
  split at h
  · simp at h
  · simp at h
  · next ds left hne _ he =>
    simp only [Option.some.injEq, Prod.mk.injEq] at h
    have : ds ≠ [] := by simpa using hne
    have := List.length_pos_iff.2 this
    rw [he] at hl
    rw [hl, ← h.2]; simp only; omega

theorem length_unsignedNumber {negative : Bool} {cs rest : List Char} {t : Token}
    (h : unsignedNumber negative cs = some (t, rest)) : rest.length < cs.length := by
  unfold unsignedNumber at h
  split at h
  · simp at h
  · next hw =>
    split at h
    · simp at h
    · next hf =>
      split at h
      · simp at h
      · next hx =>
        simp only [Option.some.injEq, Prod.mk.injEq] at h
        have h0 := length_wholePart hw
        have h1 := length_fraction hf
        have h2 := length_exponent hx
        rw [← h.2]; omega

theorem length_token? {c : Char} {rest left : List Char} {t : Token}
    (h : token? c rest = some (t, left)) : left.length ≤ rest.length := by
  unfold token? at h
  split at h
  case h_7 =>
    simp only [Option.map_eq_some_iff] at h
    obtain ⟨⟨u, l⟩, hu, he⟩ := h
    cases he
    exact length_stringUnits hu
  case h_11 => exact Nat.le_of_lt (length_unsignedNumber h)
  case h_12 =>
    have := length_unsignedNumber h
    simp only [List.length_cons] at this; omega
  case h_8 | h_9 | h_10 =>
    split at h
    · simp only [Option.some.injEq, Prod.mk.injEq] at h
      simp only [← h.2, List.length_cons]; omega
    · simp at h
  all_goals
    simp only [Option.some.injEq, Prod.mk.injEq] at h
    simp [h.2]

/-- All tokens of a text; none if some part of it is no token. -/
def tokens (cs : List Char) : Option (List Token) :=
  match cs with
  | [] => some []
  | c :: rest =>
    if isBlank c then tokens rest
    else
      match h : token? c rest with
      | none => none
      | some (t, left) =>
        have : left.length ≤ rest.length := length_token? h
        (tokens left).map (t :: ·)
termination_by cs.length

end StreamCodec.Json
