import StreamCodec.Json.Token

/-!
# JSON values

A value keeps everything that a reader of settings may look at: the fields of
an object stay in their order with repeats, since a repeated field is an error
for some readers and noise for others. Parsing runs over the tokens with a
stack of the arrays and objects that are still open, so nesting has no limit.
-/
namespace StreamCodec

inductive Json where
  | null
  | bool (value : Bool)
  | number (value : Option Int)
  | string (text : Option String)
  | array (items : List Json)
  | object (fields : List (Option String × Json))
deriving Inhabited

namespace Json

/-- An array or object that is still open, with what it holds so far, last first. -/
inductive Frame where
  | array (items : List Json)
  /-- An object whose field `key` is being read. -/
  | object (fields : List (Option String × Json)) (key : Option String)

/-- What may come next. -/
inductive Expect where
  | value
  /-- The first item of an array, or its end. -/
  | itemOrEnd
  /-- The first key of an object, or its end. -/
  | keyOrEnd
  /-- A further key of an object with these fields, last first. -/
  | key (fields : List (Option String × Json))
  | colon (fields : List (Option String × Json)) (key : Option String)
  /-- A value has ended; what may follow it depends on the innermost open frame. -/
  | next (value : Json)

def step (state : Expect × List Frame) (token : Token) : Option (Expect × List Frame) :=
  match state.1, token, state.2 with
  | .value, .null, frames | .itemOrEnd, .null, frames => some (.next .null, frames)
  | .value, .bool b, frames | .itemOrEnd, .bool b, frames => some (.next (.bool b), frames)
  | .value, .number n, frames | .itemOrEnd, .number n, frames => some (.next (.number n), frames)
  | .value, .string s, frames | .itemOrEnd, .string s, frames => some (.next (.string s), frames)
  | .value, .openArray, frames | .itemOrEnd, .openArray, frames =>
    some (.itemOrEnd, .array [] :: frames)
  | .value, .openObject, frames | .itemOrEnd, .openObject, frames => some (.keyOrEnd, frames)
  | .itemOrEnd, .closeArray, .array items :: frames =>
    some (.next (.array items.reverse), frames)
  | .keyOrEnd, .closeObject, frames => some (.next (.object []), frames)
  | .keyOrEnd, .string k, frames => some (.colon [] k, frames)
  | .key fields, .string k, frames => some (.colon fields k, frames)
  | .colon fields k, .colon, frames => some (.value, .object fields k :: frames)
  | .next v, .comma, .array items :: frames => some (.value, .array (v :: items) :: frames)
  | .next v, .closeArray, .array items :: frames =>
    some (.next (.array (v :: items).reverse), frames)
  | .next v, .comma, .object fields k :: frames => some (.key ((k, v) :: fields), frames)
  | .next v, .closeObject, .object fields k :: frames =>
    some (.next (.object ((k, v) :: fields).reverse), frames)
  | _, _, _ => none

/-- The value that a token sequence spells, all of it. -/
def ofTokens? (ts : List Token) : Option Json :=
  match ts.foldlM step (.value, []) with
  | some (.next v, []) => some v
  | _ => none

/-- The value that a text spells; blanks may stand around every token. -/
def parse? (text : String) : Option Json := (tokens text.toList).bind ofTokens?

/-- The value of the only field of an object, under its key. -/
def onlyField? : Json → Option (String × Json)
  | .object [(some key, value)] => some (key, value)
  | _ => none

/-- An integer from `low` up to but not including `high`. -/
def intBetween? (low high : Int) : Json → Option Int
  | .number (some n) => if low ≤ n ∧ n < high then some n else none
  | _ => none

def bool? : Json → Option Bool
  | .bool b => some b
  | _ => none

/-- The values of the wanted fields of an object, none where a field is missing. Other
fields are passed over; a wanted field that is given twice, or any key that is no text,
spoils the object. -/
def wantedFields? (wanted : List String) :
    List (Option String × Json) → Option (List (String × Json))
  | [] => some []
  | (none, _) :: _ => none
  | (some key, value) :: rest =>
    match wantedFields? wanted rest with
    | none => none
    | some found =>
      if key ∈ wanted then
        if (found.lookup key).isSome then none else some ((key, value) :: found)
      else some found

end Json

end StreamCodec
