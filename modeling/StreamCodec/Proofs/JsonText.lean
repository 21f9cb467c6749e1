import StreamCodec.Json.Token
import Mathlib.Data.List.Chain

/-!
# The texts of tokens

How tokens may be written, as the grammar of JSON has it: digits without a
leading zero, a fraction and an exponent, strings of plain characters and
escapes, and any blanks around the tokens. The tokens of a text are those that
it was written for, whichever way they were written. Only two numbers in a row
would run into each other, and no value has such tokens.
-/
namespace StreamCodec.Json

/-! ### Numbers -/

/-- Decimal digits, at least one. -/
structure Digits (ds : List Char) : Prop where
  some : ds ≠ []
  digits : ∀ d ∈ ds, d.isDigit = true

/-- A zero in front stands alone. -/
structure Whole (ds : List Char) : Prop extends Digits ds where
  leading : ds.head? = .some '0' → ds = ['0']

/-- A fraction, or none. -/
inductive Fraction : Bool → List Char → Prop
  | absent : Fraction false []
  | present {ds : List Char} (digits : Digits ds) : Fraction true ('.' :: ds)

/-- An exponent, or none. -/
inductive Exponent : Bool → List Char → Prop
  | absent : Exponent false []
  | present {mark : Char} {sign ds : List Char} (marks : mark = 'e' ∨ mark = 'E')
      (signs : sign = [] ∨ sign = ['+'] ∨ sign = ['-']) (digits : Digits ds) :
      Exponent true (mark :: (sign ++ ds))

/-- What is written as an integer is one, but for a negative zero. -/
def integer? (negative : Bool) (n : Nat) (isInteger : Bool) : Option Int :=
  if !isInteger || (negative && n = 0) then none else some (if negative then -n else n)

/-- A number behind its sign. -/
inductive Unsigned (negative : Bool) : Option Int → List Char → Prop
  | written {ds f e : List Char} {fractional scaled : Bool} (whole : Whole ds)
      (fraction : Fraction fractional f) (exponent : Exponent scaled e) :
      Unsigned negative (integer? negative (natOfDigits ds) (!(fractional || scaled)))
        (ds ++ (f ++ e))

/-- A character that goes on with a number. -/
def runsOn (c : Char) : Bool := c.isDigit || c = '.' || c = 'e' || c = 'E'

/-- A text that does not start with such a character. -/
def Halts (p : Char → Bool) (rest : List Char) : Prop := ∀ c ∈ rest.head?, p c = false

theorem Halts.nil (p : Char → Bool) : Halts p [] := nofun

theorem Halts.cons {p : Char → Bool} {c : Char} (h : p c = false) (rest : List Char) :
    Halts p (c :: rest) := by
  intro d hd
  rwa [← Option.some.inj hd]

theorem Halts.of_runsOn {p : Char → Bool} {rest : List Char} (h : Halts runsOn rest)
    (hp : ∀ c, runsOn c = false → p c = false) : Halts p rest :=
  fun c hc => hp c (h c hc)

theorem isDigit_of_runsOn {c : Char} (h : runsOn c = false) : c.isDigit = false := by
  simp only [runsOn, Bool.or_eq_false_iff] at h
  exact h.1.1.1

theorem digits_append {ds rest : List Char} (h : Digits ds) (hrest : Halts Char.isDigit rest) :
    digits (ds ++ rest) = (ds, rest) := by
  have hnone : rest.takeWhile Char.isDigit = [] ∧ rest.dropWhile Char.isDigit = rest := by
    cases rest with
    | nil => exact ⟨rfl, rfl⟩
    | cons c rest =>
      have hc : c.isDigit = false := hrest c rfl
      simp [hc]
  rw [digits, List.takeWhile_append_of_pos h.digits, List.dropWhile_append_of_pos h.digits,
    hnone.1, hnone.2, List.append_nil]

/-- A character that goes on with the whole part of a number. -/
def isPart (c : Char) : Bool := c.isDigit || c = '.'

theorem fraction_append {fractional : Bool} {f rest : List Char} (h : Fraction fractional f)
    (hrest : Halts isPart rest) :
    fraction (f ++ rest) = some (fractional, rest) := by
  cases h with
  | absent =>
    unfold fraction
    split
    · next left hsplit =>
      have hpoint := hrest '.' (by rw [show rest = '.' :: left from hsplit]; rfl)
      simp [isPart] at hpoint
    · rfl
  | @present ds hds =>
    have hdigits := digits_append hds fun c hc => (Bool.or_eq_false_iff.mp (hrest c hc)).1
    rw [List.cons_append, fraction, hdigits]
    cases ds with
    | nil => exact absurd rfl hds.some
    | cons d ds => rfl

theorem exponent_append {scaled : Bool} {e rest : List Char} (h : Exponent scaled e)
    (hrest : Halts runsOn rest) : exponent (e ++ rest) = some (scaled, rest) := by
  cases h with
  | absent =>
    cases rest with
    | nil => rfl
    | cons c rest =>
      have hc := hrest c rfl
      simp only [runsOn, Bool.or_eq_false_iff, decide_eq_false_iff_not] at hc
      rw [List.nil_append, exponent, if_neg (by rintro (h | h) <;> simp [h] at hc)]
  | @present mark sign ds marks signs hds =>
    have hdigits := digits_append hds (hrest.of_runsOn fun _ => isDigit_of_runsOn)
    have hsign : afterSign (sign ++ (ds ++ rest)) = ds ++ rest := by
      rcases signs with rfl | rfl | rfl
      · cases ds with
        | nil => exact absurd rfl hds.some
        | cons d ds =>
          have hd : d.isDigit = true := hds.digits d List.mem_cons_self
          rw [List.nil_append, List.cons_append]
          unfold afterSign
          split <;> first | rfl | simp_all
      · rfl
      · rfl
    rw [List.cons_append, exponent, if_pos marks, List.append_assoc, hsign, hdigits]
    cases ds with
    | nil => exact absurd rfl hds.some
    | cons d ds => rfl

theorem wholePart_append {ds rest : List Char} (h : Whole ds) (hrest : Halts Char.isDigit rest) :
    wholePart (ds ++ rest) = some (natOfDigits ds, rest) := by
  rw [wholePart, digits_append h.toDigits hrest]
  have hleading := h.leading
  match ds, h.some with
  | [d], _ => split <;> simp_all
  | d :: d' :: ds, _ => split <;> simp_all

theorem Exponent.halts {scaled : Bool} {e rest : List Char} (h : Exponent scaled e)
    (hrest : Halts runsOn rest) : Halts isPart (e ++ rest) := by
  cases h with
  | absent =>
    refine hrest.of_runsOn fun c hc => ?_
    simp only [runsOn, Bool.or_eq_false_iff] at hc
    simp only [isPart, Bool.or_eq_false_iff]
    exact hc.1.1
  | present marks => exact .cons (by rcases marks with rfl | rfl <;> decide) _

theorem Fraction.halts {fractional : Bool} {f rest : List Char} (h : Fraction fractional f)
    (hrest : Halts isPart rest) : Halts Char.isDigit (f ++ rest) := by
  cases h with
  | absent => exact fun c hc => (Bool.or_eq_false_iff.mp (hrest c hc)).1
  | present => exact .cons (by decide) _

theorem unsignedNumber_append {negative : Bool} {n : Option Int} {cs rest : List Char}
    (h : Unsigned negative n cs) (hrest : Halts runsOn rest) :
    unsignedNumber negative (cs ++ rest) = some (.number n, rest) := by
  obtain ⟨whole, hf, he⟩ := h
  have hparts := he.halts hrest
  rw [List.append_assoc, List.append_assoc, unsignedNumber, wholePart_append whole (hf.halts hparts)]
  dsimp only
  rw [fraction_append hf hparts]
  dsimp only
  rw [exponent_append he hrest, integer?, Bool.not_not]

/-! ### Strings -/

/-- What stands between quotes, with the code units that it spells. -/
inductive Written : List Nat → List Char → Prop
  | nil : Written [] []
  | plain {c : Char} {units : List Nat} {cs : List Char} (visible : 32 ≤ c.toNat) (quote : c ≠ '"')
      (backslash : c ≠ '\\') (rest : Written units cs) : Written (c.toNat :: units) (c :: cs)
  | escape {e c : Char} {units : List Nat} {cs : List Char} (stands : escaped? e = some c)
      (rest : Written units cs) : Written (c.toNat :: units) ('\\' :: e :: cs)
  | unit {a b c d : Char} {i j k l : Nat} {units : List Nat} {cs : List Char}
      (first : hexDigit? a = some i) (second : hexDigit? b = some j) (third : hexDigit? c = some k)
      (fourth : hexDigit? d = some l) (rest : Written units cs) :
      Written ((((i * 16 + j) * 16 + k) * 16 + l) :: units) ('\\' :: 'u' :: a :: b :: c :: d :: cs)

theorem stringUnits_append {units : List Nat} {cs : List Char} (h : Written units cs)
    (rest : List Char) : stringUnits (cs ++ '"' :: rest) = some (units, rest) := by
  induction h with
  | nil => rfl
  | @plain c units cs visible quote backslash _ ih =>
    have hplain : ¬(c.toNat < 32 ∨ c = '\\') := by
      rintro (hlow | rfl)
      · omega
      · exact backslash rfl
    rw [List.cons_append, stringUnits, if_neg hplain, ih]
    · rfl
    · exact quote
    · exact fun _ _ _ _ _ h => absurd h backslash
    · exact fun _ _ h => absurd h backslash
  | @escape e c units cs stands _ ih =>
    have hne : e ≠ 'u' := by
      rintro rfl
      cases stands
    rw [List.cons_append, List.cons_append, stringUnits, stands]
    · dsimp only
      rw [ih]
      rfl
    · exact fun _ _ _ _ _ h => absurd h hne
  | unit first second third fourth _ ih =>
    simp only [List.cons_append, stringUnits, first, second, third, fourth, ih, Option.map_some]

/-! ### Tokens -/

/-- A token as it is written. -/
inductive Lexeme : Token → List Char → Prop
  | openArray : Lexeme .openArray ['[']
  | closeArray : Lexeme .closeArray [']']
  | openObject : Lexeme .openObject ['{']
  | closeObject : Lexeme .closeObject ['}']
  | comma : Lexeme .comma [',']
  | colon : Lexeme .colon [':']
  | null : Lexeme .null ['n', 'u', 'l', 'l']
  | true : Lexeme (.bool true) ['t', 'r', 'u', 'e']
  | false : Lexeme (.bool false) ['f', 'a', 'l', 's', 'e']
  | number {n : Option Int} {cs : List Char} (written : Unsigned false n cs) : Lexeme (.number n) cs
  | negative {n : Option Int} {cs : List Char} (written : Unsigned true n cs) :
      Lexeme (.number n) ('-' :: cs)
  | string {units : List Nat} {cs : List Char} (written : Written units cs) :
      Lexeme (.string ((textOfUnits units).map String.ofList)) ('"' :: (cs ++ ['"']))

/-- Tokens one after the other, with blanks wherever one likes. -/
inductive Spaced : List Token → List Char → Prop
  | nil : Spaced [] []
  | blank {c : Char} {ts : List Token} {cs : List Char} (isBlank : isBlank c = true)
      (rest : Spaced ts cs) : Spaced ts (c :: cs)
  | token {t : Token} {lexeme : List Char} {ts : List Token} {cs : List Char}
      (written : Lexeme t lexeme) (rest : Spaced ts cs) : Spaced (t :: ts) (lexeme ++ cs)

theorem Unsigned.head {negative : Bool} {n : Option Int} {cs : List Char}
    (h : Unsigned negative n cs) : ∃ d rest, cs = d :: rest ∧ d.isDigit = true := by
  obtain ⟨whole, -, -⟩ := h
  rename_i ds f e _ _
  match ds, whole with
  | d :: ds, whole => exact ⟨d, ds ++ (f ++ e), rfl, whole.digits d List.mem_cons_self⟩
  | [], whole => exact absurd rfl whole.some

theorem isBlank_of_isDigit {d : Char} (h : d.isDigit = true) : isBlank d = false := by
  cases hblank : isBlank d with
  | false => rfl
  | true =>
    simp only [isBlank, Bool.or_eq_true, decide_eq_true_eq] at hblank
    rcases hblank with ((rfl | rfl) | rfl) | rfl <;> exact absurd h (by decide)

theorem token?_of_isDigit {d : Char} (h : d.isDigit = true) (rest : List Char) :
    token? d rest = unsignedNumber false (d :: rest) := by
  unfold token?
  split
  case h_12 => rfl
  all_goals exact absurd h (by decide)

/-- The lexer takes a token as it is written, whatever follows, but a number has to end. -/
theorem token?_append {t : Token} {lexeme rest : List Char} (h : Lexeme t lexeme)
    (hrest : (∃ n, t = .number n) → Halts runsOn rest) :
    ∃ c left, lexeme ++ rest = c :: left ∧ isBlank c = false ∧ token? c left = some (t, rest) := by
  cases h with
  | number written =>
    obtain ⟨d, ds, rfl, hd⟩ := written.head
    have hnumber := unsignedNumber_append written (hrest ⟨_, rfl⟩)
    rw [List.cons_append] at hnumber
    exact ⟨d, ds ++ rest, rfl, isBlank_of_isDigit hd, (token?_of_isDigit hd _).trans hnumber⟩
  | negative written =>
    exact ⟨'-', _, rfl, rfl, unsignedNumber_append written (hrest ⟨_, rfl⟩)⟩
  | @string units cs written =>
    refine ⟨'"', cs ++ '"' :: rest, by simp, rfl, ?_⟩
    rw [token?, stringUnits_append written]
    rfl
  | _ => exact ⟨_, _, rfl, rfl, rfl⟩

theorem tokens_blank {c : Char} (h : isBlank c = true) (rest : List Char) :
    tokens (c :: rest) = tokens rest := by
  rw [tokens, if_pos h]

theorem tokens_of_token? {c : Char} {rest left : List Char} {t : Token} (hc : isBlank c = false)
    (h : token? c rest = some (t, left)) : tokens (c :: rest) = (tokens left).map (t :: ·) := by
  rw [tokens, if_neg (by rw [hc]; exact Bool.false_ne_true)]
  split
  · next hnone =>
    rw [hnone] at h
    cases h
  · next hsome =>
    rw [hsome] at h
    cases h
    rfl

/-- Two numbers in a row would run into each other. -/
def Apart (t t' : Token) : Prop := (∃ n, t = .number n) → ∀ n, t' ≠ .number n

/-- What does not start with a number does not go on with one. -/
theorem Spaced.halts {ts : List Token} {cs : List Char} (h : Spaced ts cs)
    (hhead : ∀ n, ts.head? ≠ some (.number n)) : Halts runsOn cs := by
  induction h with
  | nil => exact .nil _
  | blank blank =>
    refine .cons ?_ _
    simp only [isBlank, Bool.or_eq_true, decide_eq_true_eq] at blank
    rcases blank with ((rfl | rfl) | rfl) | rfl <;> decide
  | token written =>
    cases written with
    | number => exact absurd rfl (hhead _)
    | negative => exact absurd rfl (hhead _)
    | _ => exact .cons (by decide) _

/-- The tokens of a text are those that it was written for. -/
theorem tokens_spaced {ts : List Token} {cs : List Char} (h : Spaced ts cs)
    (hapart : ts.IsChain Apart) : tokens cs = some ts := by
  induction h with
  | nil => rw [tokens]
  | blank blank _ ih => rw [tokens_blank blank, ih hapart]
  | @token t lexeme ts cs written rest ih =>
    have hrest : (∃ n, t = .number n) → Halts runsOn cs := by
      intro hnumber
      refine rest.halts fun n hn => ?_
      cases ts with
      | nil => cases hn
      | cons next later => exact (List.isChain_cons_cons.mp hapart).1 hnumber n (Option.some.inj hn)
    obtain ⟨c, left, hsplit, hblank, htoken⟩ := token?_append written hrest
    rw [hsplit, tokens_of_token? hblank htoken, ih hapart.tail]
    rfl

end StreamCodec.Json
