import StreamCodec.Options.Parser
import StreamCodec.Options.Printer
import StreamCodec.Proofs.JsonSpelling

/-!
# The texts of options

Options are read back from every text in which they may be stored. A reader
looks up the wanted fields of an object, so their order and whatever stands
between them do not count, and a default may be left out. The printer writes
one such text: the fields in order, names without escapes, numbers without a
leading zero.
-/
namespace StreamCodec

namespace Json

/-! ### Names and numbers as they are printed -/

/-- A character that stands for itself between quotes. -/
def isPlain (c : Char) : Bool := 32 ≤ c.toNat && c ≠ '"' && c ≠ '\\'

theorem written_plain {cs : List Char} (h : cs.all isPlain = true) :
    Written (cs.map Char.toNat) cs := by
  induction cs with
  | nil => exact .nil
  | cons c cs ih =>
    rw [List.all_cons, Bool.and_eq_true] at h
    obtain ⟨hc, hcs⟩ := h
    simp only [isPlain, Bool.and_eq_true, decide_eq_true_eq] at hc
    exact .plain hc.1.1 hc.1.2 hc.2 (ih hcs)

/-- No character is a surrogate, so characters are joined as they are. -/
theorem textOfUnits_map_toNat (cs : List Char) : textOfUnits (cs.map Char.toNat) = some cs := by
  have hscalar (c : Char) : ¬(0xD800 ≤ c.toNat ∧ c.toNat < 0xE000) := by
    have hvalid : c.toNat < 0xd800 ∨ (0xdfff < c.toNat ∧ c.toNat < 0x110000) := c.valid
    omega
  induction cs with
  | nil => rfl
  | cons c cs ih =>
    have hc := hscalar c
    cases cs with
    | nil => rw [List.map_cons, List.map_nil, textOfUnits, if_neg hc, Char.ofNat_toNat]
    | cons d cs =>
      rw [List.map_cons, List.map_cons, textOfUnits, if_neg (by omega), if_neg (by omega),
        ← List.map_cons, ih, Char.ofNat_toNat]
      rfl

theorem lexeme_quoted {name : String} (h : name.toList.all isPlain = true) :
    Lexeme (.string (some name)) (quoted name).toList := by
  have hstring := Lexeme.string (written_plain h)
  rw [textOfUnits_map_toNat, Option.map_some, String.ofList_toList] at hstring
  simpa [quoted] using hstring

theorem Lexeme.spaced {t : Token} {cs : List Char} (h : Lexeme t cs) : Spaced [t] cs := by
  simpa using Spaced.token h .nil

theorem Spaced.append {ts ts' : List Token} {cs cs' : List Char} (h : Spaced ts cs)
    (h' : Spaced ts' cs') : Spaced (ts ++ ts') (cs ++ cs') := by
  induction h with
  | nil => exact h'
  | blank isBlank _ ih => exact .blank isBlank ih
  | token written _ ih =>
    rw [List.append_assoc]
    exact .token written ih

theorem natOfDigits_toDigits (n : Nat) : natOfDigits (Nat.toDigits 10 n) = n := by
  have hdigits := Nat.ofDigitChars_ten_toDigits (n := n)
  rw [Nat.ofDigitChars_eq_foldl] at hdigits
  simpa only [natOfDigits, Nat.mul_comm, Char.reduceToNat] using hdigits

/-- Only zero is printed with a zero in front. -/
theorem whole_toDigits (n : Nat) : Whole (Nat.toDigits 10 n) where
  some := Nat.toDigits_ne_nil
  digits _ h := Nat.isDigit_of_mem_toDigits (by decide) (by decide) h
  leading h := by
    have hzero : n = 0 := by
      induction n using Nat.base_induction 10 (by decide) with
      | single m hm => simpa [Nat.toDigits_of_lt_base hm] using h
      | digit m k hk hm ih =>
        rw [← Nat.toDigits_append_toDigits (by decide) hm hk,
          List.head?_append_of_ne_nil _ Nat.toDigits_ne_nil] at h
        exact absurd (ih h) (Nat.ne_of_gt hm)
    rw [hzero, Nat.toDigits_zero]

theorem lexeme_nat (n : Nat) : Lexeme (.number (some (n : Int))) (toString n).toList := by
  have hwritten : Unsigned false (some (n : Int)) (Nat.toDigits 10 n) := by
    have hunsigned : Unsigned false _ (Nat.toDigits 10 n ++ ([] ++ [])) :=
      .written (whole_toDigits n) .absent .absent
    rwa [natOfDigits_toDigits, List.append_nil, List.append_nil] at hunsigned
  rw [Nat.toString_eq_repr, Nat.toList_repr]
  exact .number hwritten

theorem lexeme_int (n : Int) : Lexeme (.number (some n)) (toString n).toList := by
  cases n with
  | ofNat n => exact lexeme_nat n
  | negSucc n =>
    have hwritten : Unsigned true (some (Int.negSucc n)) (Nat.toDigits 10 (n + 1)) := by
      have hunsigned : Unsigned true _ (Nat.toDigits 10 (n + 1) ++ ([] ++ [])) :=
        .written (whole_toDigits (n + 1)) .absent .absent
      rwa [natOfDigits_toDigits, List.append_nil, List.append_nil] at hunsigned
    have htext : (toString (Int.negSucc n)).toList = '-' :: Nat.toDigits 10 (n + 1) := by
      rw [Int.toString_eq_repr, Int.repr, String.toList_append, Nat.toList_repr]
      rfl
    rw [htext]
    exact .negative hwritten

/-- A field as it is printed, in front of what follows it. -/
theorem Spells.field {name text : String} {v : Json} {ts : List Token} {cs : List Char}
    (h : v.Spells text) (hname : name.toList.all isPlain = true) (rest : Spaced ts cs) :
    Spaced (.string (some name) :: .colon :: (v.toTokens ++ ts))
      ((quoted name).toList ++ (":".toList ++ (text.toList ++ cs))) :=
  .token (lexeme_quoted hname) (.token .colon (h.append rest))

/-! ### Fields of an object -/

/-- Fields of an object: the wanted ones in their order, and any others among them. -/
inductive Mixed (wanted : List String) : List (String × Json) → List (Option String × Json) → Prop
  | nil : Mixed wanted [] []
  | wanted {key : String} {value : Json} {known : List (String × Json)}
      {fields : List (Option String × Json)} (mem : key ∈ wanted) (rest : Mixed wanted known fields) :
      Mixed wanted ((key, value) :: known) ((some key, value) :: fields)
  | other {key : String} {value : Json} {known : List (String × Json)}
      {fields : List (Option String × Json)} (unknown : key ∉ wanted)
      (rest : Mixed wanted known fields) : Mixed wanted known ((some key, value) :: fields)

theorem lookup_eq_none {known : List (String × Json)} {key : String} :
    known.lookup key = none ↔ key ∉ known.map Prod.fst := by
  rw [List.lookup_eq_none_iff]
  constructor
  · rintro h hmem
    obtain ⟨p, hp, rfl⟩ := List.mem_map.mp hmem
    simpa using h p hp
  · rintro h p hp
    rw [bne_iff_ne]
    rintro rfl
    exact h (List.mem_map_of_mem hp)

/-- The order of the fields does not matter. -/
theorem lookup_perm {known order : List (String × Json)} (hperm : order.Perm known)
    (hnodup : (known.map Prod.fst).Nodup) (key : String) : order.lookup key = known.lookup key := by
  have hkeys := hperm.map Prod.fst
  cases hfound : known.lookup key with
  | none => rwa [lookup_eq_none, hkeys.mem_iff, ← lookup_eq_none]
  | some value =>
    obtain ⟨before, after, hsplit, -⟩ := List.lookup_eq_some_iff.mp hfound
    have hmem : (key, value) ∈ order := hperm.mem_iff.mpr (by simp [hsplit])
    obtain ⟨front, back, rfl⟩ := List.append_of_mem hmem
    have hfront : key ∉ front.map Prod.fst := by
      have horder := hkeys.nodup_iff.mpr hnodup
      rw [List.map_append, List.map_cons, List.nodup_append] at horder
      exact fun hkey => horder.2.2 key hkey key List.mem_cons_self rfl
    rw [List.lookup_append, lookup_eq_none.mpr hfront, Option.none_or, List.lookup_cons_self]

/-- Of the fields of an object only the wanted ones are found. -/
theorem wantedFields?_mixed {wanted : List String} {known : List (String × Json)}
    {fields : List (Option String × Json)} (h : Mixed wanted known fields)
    (hnodup : (known.map Prod.fst).Nodup) : wantedFields? wanted fields = some known := by
  induction h with
  | nil => rfl
  | wanted mem _ ih =>
    rw [List.map_cons, List.nodup_cons] at hnodup
    rw [wantedFields?, ih hnodup.2]
    simp [mem, lookup_eq_none.mpr hnodup.1]
  | other unknown _ ih =>
    rw [wantedFields?, ih hnodup]
    exact if_neg unknown

/-- Whatever the order, the wanted fields are found with their values. -/
theorem finds_of_mixed {wanted : List String} {known order : List (String × Json)}
    {fields : List (Option String × Json)} (hnodup : (known.map Prod.fst).Nodup)
    (hperm : order.Perm known) (hmixed : Mixed wanted order fields) :
    ∃ found, wantedFields? wanted fields = some found ∧
      ∀ key, found.lookup key = known.lookup key :=
  ⟨order, wantedFields?_mixed hmixed ((hperm.map Prod.fst).nodup_iff.mpr hnodup),
    lookup_perm hperm hnodup⟩

/-! ### Choices -/

/-- A choice without a value: its name, or the name with nothing under it. -/
inductive Chooses (name : String) : Json → Prop
  | name : Chooses name (.string (some name))
  | object : Chooses name (.object [(some name, .null)])

theorem Chooses.choice? {name : String} {v : Json} (h : Chooses name v) : v.choice? = some name := by
  cases h <;> rfl

theorem intBetween?_of {low high n : Int} (hlow : low ≤ n) (hhigh : n < high) :
    intBetween? low high (.number (some n)) = some n := if_pos ⟨hlow, hhigh⟩

end Json

open Json (Chooses Mixed Lexeme Spaced Spells intBetween? lexeme_quoted lexeme_nat
  lexeme_int)

/-- The level, as a value. -/
inductive CompressionLevel.Reads : CompressionLevel → Json → Prop
  | fast {v : Json} (chooses : Chooses "Fast" v) : Reads .fast v
  | default {v : Json} (chooses : Chooses "Default" v) : Reads .default v
  | best {v : Json} (chooses : Chooses "Best" v) : Reads .best v
  | custom (value : Int32) :
      Reads (.custom value) (.object [(some "Custom", .number (some value.toInt))])

namespace CompressionLevel

def printed : CompressionLevel → Json
  | .fast => .string (some "Fast")
  | .default => .string (some "Default")
  | .best => .string (some "Best")
  | .custom value => .object [(some "Custom", .number (some value.toInt))]

theorem reads_printed (level : CompressionLevel) : level.Reads level.printed := by
  cases level with
  | fast => exact .fast .name
  | default => exact .default .name
  | best => exact .best .name
  | custom value => exact .custom value

theorem spells_printed (level : CompressionLevel) : level.printed.Spells level.toJsonText := by
  cases level with
  | fast => exact (lexeme_quoted (by decide)).spaced
  | default => exact (lexeme_quoted (by decide)).spaced
  | best => exact (lexeme_quoted (by decide)).spaced
  | custom value =>
    have hvalue : (Json.number (some value.toInt)).Spells (toString value.toInt) :=
      (lexeme_int value.toInt).spaced
    simp only [Spells, printed, Json.toTokens, Json.fieldTokens, toJsonText, String.toList_append,
      List.append_assoc]
    exact .token .openObject (hvalue.field (by decide) Lexeme.closeObject.spaced)

end CompressionLevel

/-- A window log, or its absence, as a value. -/
inductive WindowReads : Option UInt32 → Json → Prop
  | none : WindowReads none .null
  | some (log : UInt32) : WindowReads (some log) (.number (some log.toNat))

theorem Codec.ofJson?_of_chooses {c : Codec} {v : Json} (h : Chooses c.name v) :
    Codec.ofJson? v = some c := by
  rw [ofJson?, h.choice?, Option.bind_some, ofName?_name]

theorem CompressionLevel.ofJson?_of_reads {level : CompressionLevel} {v : Json}
    (h : level.Reads v) : ofJson? v = some level := by
  cases h with
  | fast chooses => cases chooses <;> rfl
  | default chooses => cases chooses <;> rfl
  | best chooses => cases chooses <;> rfl
  | custom value =>
    have hcustom : ofJson? (.object [(some "Custom", .number (some value.toInt))]) =
        (intBetween? (-0x80000000) 0x80000000 (.number (some value.toInt))).map
          fun n => .custom (Int32.ofInt n) := rfl
    have hlow : (-0x80000000 : Int) ≤ value.toInt := value.le_toInt
    have hhigh : value.toInt < 0x80000000 := value.toInt_lt
    rw [hcustom, Json.intBetween?_of hlow hhigh, Option.map_some, Int32.ofInt_toInt]

theorem windowLogOfJson?_of_reads {windowLog : Option UInt32} {v : Json}
    (h : WindowReads windowLog v) : windowLogOfJson? v = some windowLog := by
  cases h with
  | none => rfl
  | some log =>
    have hlog : (log.toNat : Int) < 0x100000000 := by
      have := log.toNat_lt
      omega
    rw [windowLogOfJson?, Json.intBetween?_of (Int.natCast_nonneg _) hlog, Option.map_some,
      Int.toNat_natCast, UInt32.ofNat_toNat]
    exact nofun

theorem bufferSizeOfJson?_number (size : UInt64) :
    bufferSizeOfJson? (.number (some size.toNat)) = some size := by
  have hsize : (size.toNat : Int) < 0x10000000000000000 := by
    have := size.toNat_lt
    omega
  rw [bufferSizeOfJson?, Json.intBetween?_of (Int.natCast_nonneg _) hsize, Option.map_some,
    Int.toNat_natCast, UInt64.ofNat_toNat]

namespace CodecOptions

/-- The values of the fields of some options. The level may be left out where it is the default, the
window where there is none. -/
structure Parts (o : CodecOptions) (codec : Json) (level windowLog : Option Json) : Prop where
  codec : Chooses o.codec.name codec
  level : level.elim (o.level = .default) o.level.Reads
  windowLog : windowLog.elim (o.windowLog = none) (WindowReads o.windowLog)

variable {o : CodecOptions} {codec : Json} {level windowLog : Option Json}

theorem ofParts?_of_parts (h : o.Parts codec level windowLog) :
    ofParts? codec level windowLog = some o := by
  have hlevel : level.elim (some .default) CompressionLevel.ofJson? = some o.level := by
    have hreads := h.level
    cases level with
    | none => exact congrArg some hreads.symm
    | some v => exact CompressionLevel.ofJson?_of_reads hreads
  have hwindow : windowLog.elim (some none) windowLogOfJson? = some o.windowLog := by
    have hreads := h.windowLog
    cases windowLog with
    | none => exact congrArg some hreads.symm
    | some v => exact windowLogOfJson?_of_reads hreads
  rw [ofParts?, Codec.ofJson?_of_chooses h.codec, hlevel, hwindow]

/-- The fields that are given, in the order in which they are declared. -/
def given (codec : Json) (level windowLog : Option Json) : List (String × Json) :=
  ("codec", codec) :: ((level.map ("level", ·)).toList ++ (windowLog.map ("window_log", ·)).toList)

/-- The forms in which options may be stored: an object with the fields in any order among any
others, or an array with the fields in their order. -/
inductive Form (o : CodecOptions) : Json → Prop
  | object {codec : Json} {level windowLog : Option Json} {order : List (String × Json)}
      {fields : List (Option String × Json)} (parts : o.Parts codec level windowLog)
      (perm : order.Perm (given codec level windowLog))
      (mixed : Mixed ["codec", "level", "window_log"] order fields) : Form o (.object fields)
  | array {codec : Json} {level windowLog : Option Json} (parts : o.Parts codec level windowLog)
      (order : windowLog.isSome → level.isSome) :
      Form o (.array (codec :: (level.toList ++ windowLog.toList)))

theorem ofJson?_of_form {v : Json} (h : o.Form v) : ofJson? v = some o := by
  cases h with
  | @object codec level windowLog order fields parts perm mixed =>
    have hnodup : ((given codec level windowLog).map Prod.fst).Nodup := by
      cases level <;> cases windowLog <;> simp [given]
    obtain ⟨found, hfound, hlookup⟩ := Json.finds_of_mixed hnodup perm mixed
    simp only [ofJson?, hfound, hlookup]
    have hparts := ofParts?_of_parts parts
    cases level <;> cases windowLog <;> exact hparts
  | @array codec level windowLog parts order =>
    have hparts := ofParts?_of_parts parts
    cases level with
    | none =>
      cases windowLog with
      | none => exact hparts
      | some w => cases order rfl
    | some l => cases windowLog <;> exact hparts

def printed (o : CodecOptions) : Json :=
  .object [(some "codec", .string (some o.codec.name)), (some "level", o.level.printed),
    (some "window_log", o.windowLog.elim .null fun log => .number (some log.toNat))]

theorem form_printed (o : CodecOptions) : o.Form o.printed := by
  have hparts : o.Parts (.string (some o.codec.name)) (some o.level.printed)
      (some (o.windowLog.elim .null fun log => .number (some log.toNat))) :=
    ⟨.name, o.level.reads_printed, by
      cases o.windowLog with
      | none => exact .none
      | some log => exact .some log⟩
  exact .object hparts (.refl _)
    (.wanted (by decide) (.wanted (by decide) (.wanted (by decide) .nil)))

theorem spells_printed (o : CodecOptions) : o.printed.Spells o.toJsonText := by
  have hwindow : ((o.windowLog.elim .null fun log => .number (some log.toNat) : Json)).Spells
      (o.windowLog.elim "null" fun w => toString w.toNat) := by
    cases o.windowLog with
    | none => exact Lexeme.null.spaced
    | some log => exact (lexeme_nat log.toNat).spaced
  have hcodec : (Json.string (some o.codec.name)).Spells o.codec.toJsonText :=
    (lexeme_quoted (by cases o.codec <;> decide)).spaced
  simp only [Spells, printed, Json.toTokens, Json.fieldTokens, toJsonText, String.toList_append,
    List.append_assoc]
  exact .token .openObject (hcodec.field (by decide) (.token .comma
    (o.level.spells_printed.field (by decide) (.token .comma
    (hwindow.field (by decide) Lexeme.closeObject.spaced)))))

end CodecOptions

namespace StreamOptions

variable {o : StreamOptions}

def given (o : StreamOptions) : List (String × Json) :=
  [("buffer_size", .number (some o.bufferSize.toNat)), ("leave_open", .bool o.leaveOpen)]

/-- The forms in which options may be stored. No field may be missing. -/
inductive Form (o : StreamOptions) : Json → Prop
  | object {order : List (String × Json)} {fields : List (Option String × Json)}
      (perm : order.Perm o.given) (mixed : Mixed ["buffer_size", "leave_open"] order fields) :
      Form o (.object fields)
  | array : Form o (.array (o.given.map Prod.snd))

theorem ofParts?_given (o : StreamOptions) :
    ofParts? (.number (some o.bufferSize.toNat)) (.bool o.leaveOpen) = some o := by
  rw [ofParts?, bufferSizeOfJson?_number, Json.bool?]

theorem ofJson?_of_form {v : Json} (h : o.Form v) : ofJson? v = some o := by
  cases h with
  | object perm mixed =>
    have hnodup : (o.given.map Prod.fst).Nodup := by simp [given]
    obtain ⟨found, hfound, hlookup⟩ := Json.finds_of_mixed hnodup perm mixed
    simp only [ofJson?, hfound, hlookup]
    exact ofParts?_given o
  | array => exact ofParts?_given o

def printed (o : StreamOptions) : Json := .object (o.given.map fun (key, value) => (some key, value))

theorem form_printed (o : StreamOptions) : o.Form o.printed :=
  .object (.refl _) (.wanted (by decide) (.wanted (by decide) .nil))

theorem spells_printed (o : StreamOptions) : o.printed.Spells o.toJsonText := by
  have hsize : (Json.number (some o.bufferSize.toNat)).Spells (toString o.bufferSize.toNat) :=
    (lexeme_nat o.bufferSize.toNat).spaced
  have hopen : (Json.bool o.leaveOpen).Spells (toString o.leaveOpen) := by
    cases o.leaveOpen with
    | false => exact Lexeme.false.spaced
    | true => exact Lexeme.true.spaced
  simp only [Spells, printed, given, List.map_cons, List.map_nil, Json.toTokens, Json.fieldTokens,
    toJsonText, String.toList_append, List.append_assoc]
  exact .token .openObject (hsize.field (by decide) (.token .comma
    (hopen.field (by decide) Lexeme.closeObject.spaced)))

end StreamOptions

/-- Options survive being stored: what is printed reads back, and so does any text of a form in which
the options may be stored, with its fields in any order, unknown ones among them, a default left out
and blanks between the tokens. The keys of the fields are texts; a lone surrogate is none. -/
theorem options_read_back :
    (∀ o : CodecOptions, CodecOptions.parse? o.toJsonText = some o) ∧
    (∀ o : StreamOptions, StreamOptions.parse? o.toJsonText = some o) ∧
    (∀ (o : CodecOptions) (v : Json) (text : String),
      o.Form v → v.Spells text → CodecOptions.parse? text = some o) ∧
    (∀ (o : StreamOptions) (v : Json) (text : String),
      o.Form v → v.Spells text → StreamOptions.parse? text = some o) := by
  have hcodec (o : CodecOptions) (v : Json) (text : String) (hform : o.Form v)
      (hspells : v.Spells text) : CodecOptions.parse? text = some o := by
    rw [CodecOptions.parse?, Json.parse?_of_spells hspells, Option.bind_some,
      CodecOptions.ofJson?_of_form hform]
  have hstream (o : StreamOptions) (v : Json) (text : String) (hform : o.Form v)
      (hspells : v.Spells text) : StreamOptions.parse? text = some o := by
    rw [StreamOptions.parse?, Json.parse?_of_spells hspells, Option.bind_some,
      StreamOptions.ofJson?_of_form hform]
  exact ⟨fun o => hcodec o _ _ o.form_printed o.spells_printed,
    fun o => hstream o _ _ o.form_printed o.spells_printed, hcodec, hstream⟩

theorem options_read_back_reordered :
    let v := Json.object [(some "x", .array [.number (some 0)]), (some "window_log", .number (some 22)),
      (some "codec", .string (some "xz"))]
    let text := "\x7b \"x\":[0],\"window_log\":22,\"codec\":\"xz\"\x7d"
    let o : CodecOptions := { codec := .xz, level := .default, windowLog := some 22 }
    let w := Json.array [.number (some 1), .bool true]
    let line := "[1,\ntrue]"
    let o' : StreamOptions := { bufferSize := 1, leaveOpen := true }
    (o.Form v ∧ v.Spells text ∧ CodecOptions.parse? text = some o) ∧
      (o'.Form w ∧ w.Spells line ∧ StreamOptions.parse? line = some o') := by
  intro v text o w line o'
  have hparts : o.Parts (.string (some "xz")) none (some (.number (some 22))) :=
    ⟨.name, rfl, .some 22⟩
  have hform : o.Form v := .object hparts (.swap _ _ _)
    (.other (by decide) (.wanted (by decide) (.wanted (by decide) .nil)))
  have htext : text.toList = "\x7b".toList ++ (' ' :: ((quoted "x").toList ++ (":".toList ++
      ("[".toList ++ ("0".toList ++ ("]".toList ++ (",".toList ++ ((quoted "window_log").toList ++
      (":".toList ++ ("22".toList ++ (",".toList ++ ((quoted "codec").toList ++ (":".toList ++
      ((quoted "xz").toList ++ "\x7d".toList)))))))))))))) := by decide
  have hspells : v.Spells text := by
    rw [Spells, htext]
    exact .token .openObject (.blank rfl (.token (lexeme_quoted (by decide)) (.token .colon
      (.token .openArray (.token (lexeme_nat 0) (.token .closeArray (.token .comma
      (.token (lexeme_quoted (by decide)) (.token .colon (.token (lexeme_nat 22) (.token .comma
      (.token (lexeme_quoted (by decide)) (.token .colon (.token (lexeme_quoted (by decide))
      (.token .closeObject .nil)))))))))))))))
  have hline : line.toList = "[".toList ++ ("1".toList ++ (",".toList ++ ('\n' ::
      ("true".toList ++ "]".toList)))) := by decide
  have hspells' : w.Spells line := by
    rw [Spells, hline]
    exact .token .openArray (.token (lexeme_nat 1) (.token .comma (.blank rfl (.token .true
      (.token .closeArray .nil)))))
  exact ⟨⟨hform, hspells, options_read_back.2.2.1 o v text hform hspells⟩,
    .array, hspells', options_read_back.2.2.2 o' w line .array hspells'⟩

end StreamCodec
