import SqlTemplate.Command

/-!
# Reading what was written

A text that was written as JSON is read back: a decoder takes the characters of a value from the front of a text,
whatever comes behind them, and gives the value that was written.

* `Takes`: what a decoder takes and what it gives.
* `takes_stringBody`: the characters of a text in quotes.
* `takes_members`: those of the members of an object, which are read into a record one after another.
* `takes_record`: those of a record.
* `decode_queryBody`: the body of a request about a query.
-/

namespace SqlTemplate.Json.Decoder

open Text (Symbol)

/-- The decoder takes these characters from the front of a text, where `rest` comes behind them, and gives a value. -/
def Takes {α : Type} (d : Decoder α) (cs : List Char) (rest : List Symbol) (a : α) : Prop :=
  ∀ source line column, ∃ line' column',
    d ⟨source, cs.map .char ++ rest, line, column⟩ = .ok a ⟨source, rest, line', column'⟩

section

variable {α β : Type} {d : Decoder α} {f : α → Decoder β} {cs cs' : List Char} {rest : List Symbol} {a : α} {b : β}

theorem Takes.pure (a : α) (rest : List Symbol) : Takes (Pure.pure a) [] rest a :=
  fun _ line column => ⟨line, column, rfl⟩

theorem Takes.bind (hd : Takes d cs (cs'.map .char ++ rest) a) (hf : Takes (f a) cs' rest b) :
    Takes (d >>= f) (cs ++ cs') rest b := by
  intro source line column
  obtain ⟨line₁, column₁, hd⟩ := hd source line column
  obtain ⟨line₂, column₂, hf⟩ := hf source line₁ column₁
  refine ⟨line₂, column₂, ?_⟩
  rw [List.map_append, List.append_assoc]
  show EStateM.bind d f _ = _
  rw [EStateM.bind, hd]
  exact hf

/-- A decoder that takes one character comes first. -/
theorem Takes.cons {c : Char} (hd : Takes d [c] (cs.map .char ++ rest) a) (hf : Takes (f a) cs rest b) :
    Takes (d >>= f) (c :: cs) rest b :=
  hd.bind hf

/-- A decoder that only looks ahead comes first. -/
theorem Takes.ahead (hd : Takes d [] (cs.map .char ++ rest) a) (hf : Takes (f a) cs rest b) :
    Takes (d >>= f) cs rest b :=
  hd.bind hf

/-- A decoder that only looks ahead comes last. -/
theorem Takes.behind (hd : Takes d cs rest a) (hf : Takes (f a) [] rest b) : Takes (d >>= f) cs rest b := by
  have h : Takes (d >>= f) (cs ++ []) rest b := hd.bind hf
  rwa [List.append_nil] at h

theorem Takes.placed (h : Takes d cs rest a) : Takes (placed d) cs rest a := by
  intro source line column
  obtain ⟨line', column', h⟩ := h source line column
  refine ⟨line', column', ?_⟩
  rw [Decoder.placed, h]

theorem Takes.closedBy {closing : Decoder Unit} (h : Takes d cs (cs'.map .char ++ rest) a)
    (hclosing : Takes closing cs' rest ()) : Takes (closedBy d closing) (cs ++ cs') rest a := by
  intro source line column
  obtain ⟨line₁, column₁, h⟩ := h source line column
  obtain ⟨line₂, column₂, hclosing⟩ := hclosing source line₁ column₁
  refine ⟨line₂, column₂, ?_⟩
  rw [List.map_append, List.append_assoc, Decoder.closedBy, h]
  simp only [hclosing]

end

/-! ## Single characters -/

section

variable {c : Char} {rest : List Symbol}

theorem takes_take (c : Char) (rest : List Symbol) : Takes take [c] rest (some (.char c)) :=
  fun source line column => ⟨(Cursor.placeAfter ⟨source, .char c :: rest, line, column⟩ (.char c)).1, _, rfl⟩

theorem takes_peek (c : Char) (rest : List Symbol) : Takes peek [] (.char c :: rest) (some (.char c)) :=
  fun _ line column => ⟨line, column, rfl⟩

theorem takes_remaining (rest : List Symbol) : Takes remaining [] rest rest.length :=
  fun _ line column => ⟨line, column, rfl⟩

theorem takes_skipBlanks (hc : isBlank c = false) (fuel : Nat) : Takes (skipBlanks fuel) [] (.char c :: rest) () := by
  cases fuel with
  | zero => exact Takes.pure () _
  | succ fuel =>
    refine (takes_peek c rest).ahead ?_
    simp only [hc]
    exact Takes.pure () _

/-- The next character, if it is no blank. -/
theorem takes_nextToken (hc : isBlank c = false) : Takes nextToken [] (.char c :: rest) (some c) := by
  refine (takes_remaining _).ahead ((takes_skipBlanks hc _).ahead ?_)
  exact (takes_peek c rest).ahead (Takes.pure _ _)

/-- The rest of a word. -/
theorem takes_word (cs : List Char) : Takes (word cs) cs rest () := by
  induction cs with
  | nil => exact Takes.pure () rest
  | cons c cs ih =>
    refine Takes.ahead (takes_peek c _) ?_
    simp only [if_true]
    exact Takes.cons (takes_take c _) ih

theorem takes_byToken {α : Type} {d : Char → Decoder α} {cs : List Char} {a : α} (hc : isBlank c = false)
    (h : Takes (d c) (c :: cs) rest a) : Takes (byToken d) (c :: cs) rest a := by
  refine Takes.placed (Takes.ahead (takes_nextToken hc) ?_)
  exact h

end

/-! ## Texts -/

section

variable {rest : List Symbol}

theorem takes_peekInString (c : Char) (rest : List Symbol) : Takes peekInString [] (.char c :: rest) (.char c) :=
  fun _ line column => ⟨line, column, rfl⟩

theorem takes_takeInString (c : Char) (rest : List Symbol) : Takes takeInString [c] rest (.char c) :=
  (takes_peekInString c rest).ahead ((takes_take c rest).behind (Takes.pure _ _))

theorem takes_takeMany (cs : List Char) : Takes (takeMany cs.length) cs rest () := by
  induction cs with
  | nil => exact Takes.pure () rest
  | cons c cs ih => exact Takes.cons (takes_take c _) ih

/-- Four digits and their values. -/
theorem takes_hexEscape {a b c d : Char} {va vb vc vd : Nat} (hsize : ∀ e ∈ [a, b, c, d], e.utf8Size = 1)
    (hvalues : [Symbol.char a, .char b, .char c, .char d].map hexValue? = [some va, some vb, some vc, some vd]) :
    Takes hexEscape [a, b, c, d] rest (((va * 16 + vb) * 16 + vc) * 16 + vd) := by
  intro source line column
  have htakes : Takes (takeMany 4) [a, b, c, d] rest () := takes_takeMany [a, b, c, d]
  obtain ⟨line', column', htaken⟩ := htakes source line column
  simp only [List.forall_mem_cons] at hsize
  obtain ⟨ha, hb, hc, hd, -⟩ := hsize
  refine ⟨line', column', ?_⟩
  have hlong : ¬ byteCount (([a, b, c, d].map Symbol.char ++ rest).take 4) < 4 := by
    simp [byteCount, Symbol.size, ha, hb, hc, hd]
  have hone : (([a, b, c, d].map Symbol.char ++ rest).take 4).all (·.size = 1) = true := by
    simp [Symbol.size, ha, hb, hc, hd]
  have hget : ∀ c : Cursor, (get : Decoder Cursor) c = .ok c c := fun _ => rfl
  unfold hexEscape
  simp only [bind, EStateM.bind, hget, hlong, hone, if_false, if_true]
  rw [htaken]
  simp only [List.map_cons, List.map_nil, List.cons_append, List.nil_append, List.take_succ_cons,
    List.take_zero] at hvalues ⊢
  rw [hvalues]
  rfl

/-- A hexadecimal digit has its value, and takes one byte. -/
theorem hexValue?_hexDigit (n : Nat) :
    hexValue? (.char (hexDigit n)) = some (n % 16) ∧ (hexDigit n).utf8Size = 1 := by
  have hdigits : (List.range 16).all (fun d =>
      hexValue? (.char (hexDigit d)) == some d && (hexDigit d).utf8Size == 1) = true := by decide +kernel
  have hdigit := List.all_eq_true.1 hdigits (n % 16) (List.mem_range.2 (Nat.mod_lt n (by decide)))
  have hmod : hexDigit (n % 16) = hexDigit n := by rw [hexDigit, hexDigit, Nat.mod_mod]
  simpa [hmod] using hdigit

/-- The hexadecimal digits of a control character. -/
theorem takes_controlEscape {n : Nat} (hn : n < 0x20) :
    Takes unicodeEscape ['0', '0', hexDigit (n / 16), hexDigit n] rest (Char.ofNat n) := by
  obtain ⟨hhigh, hhighSize⟩ := hexValue?_hexDigit (n / 16)
  obtain ⟨hlow, hlowSize⟩ := hexValue?_hexDigit n
  have hzero : hexValue? (.char '0') = some 0 := rfl
  have hvalues : [Symbol.char '0', .char '0', .char (hexDigit (n / 16)), .char (hexDigit n)].map hexValue? =
      [some 0, some 0, some (n / 16), some (n % 16)] := by
    rw [Nat.mod_eq_of_lt (by omega)] at hhigh
    simp only [List.map_cons, List.map_nil, hzero, hhigh, hlow]
  have hsize : ∀ e ∈ ['0', '0', hexDigit (n / 16), hexDigit n], e.utf8Size = 1 := by
    have hzeroSize : ('0' : Char).utf8Size = 1 := rfl
    simp [hzeroSize, hhighSize, hlowSize]
  have hvalue : ((0 * 16 + 0) * 16 + n / 16) * 16 + n % 16 = n := by omega
  refine (takes_hexEscape hsize hvalues).behind ?_
  have hlow : ¬ (0xDC00 ≤ n ∧ n ≤ 0xDFFF) := by omega
  have hhigh : n < 0xD800 ∨ 0xDBFF < n := by omega
  simp only [hvalue, hlow, hhigh, if_false, if_true]
  exact Takes.pure _ _

theorem takes_shortEscape {c e : Char} (h : shortEscape? c = some e) : Takes escape [c] rest e := by
  have hu : Symbol.char c ≠ .char 'u' := by
    rintro ⟨⟩
    cases h
  refine Takes.ahead (takes_peekInString c rest) ?_
  simp only [hu, if_false, shortEscapeOf?, h]
  exact Takes.behind (takes_take c rest) (Takes.pure e rest)

theorem takes_numberEscape {cs : List Char} {c : Char} (h : Takes unicodeEscape cs rest c) :
    Takes escape ('u' :: cs) rest c := by
  refine Takes.ahead (takes_peekInString 'u' _) ?_
  simp only [if_true]
  exact Takes.cons (takes_take 'u' _) h

/-- A character that is written between quotes as it is, or behind a backslash. -/
theorem escapeChar_cases (c : Char) :
    (c ≠ '"' ∧ c ≠ '\\' ∧ ¬ c.toNat < 0x20 ∧ escapeChar c = [c]) ∨
      ∃ cs, escapeChar c = '\\' :: cs ∧ ∀ rest, Takes escape cs rest c := by
  unfold escapeChar
  split
  · exact .inr ⟨['"'], rfl, fun rest => takes_shortEscape rfl⟩
  · exact .inr ⟨['\\'], rfl, fun rest => takes_shortEscape rfl⟩
  · exact .inr ⟨['b'], rfl, fun rest => takes_shortEscape rfl⟩
  · exact .inr ⟨['f'], rfl, fun rest => takes_shortEscape rfl⟩
  · exact .inr ⟨['n'], rfl, fun rest => takes_shortEscape rfl⟩
  · exact .inr ⟨['r'], rfl, fun rest => takes_shortEscape rfl⟩
  · exact .inr ⟨['t'], rfl, fun rest => takes_shortEscape rfl⟩
  next hquote hbackslash _ _ _ _ _ =>
    split
    next hcontrol =>
      refine .inr ⟨['u', '0', '0', hexDigit (c.toNat / 16), hexDigit c.toNat], rfl, fun rest => ?_⟩
      have h : Takes unicodeEscape _ rest (Char.ofNat c.toNat) := takes_controlEscape hcontrol
      rw [Char.ofNat_toNat] at h
      exact takes_numberEscape h
    next hcontrol => exact .inl ⟨hquote, hbackslash, hcontrol, rfl⟩

/-- The symbols of a text that was written in quotes, up to the closing one. -/
theorem takes_stringSymbols (cs : List Char) {fuel : Nat} (hfuel : cs.length < fuel) :
    Takes (stringSymbols fuel) (cs.flatMap escapeChar ++ ['"']) rest (cs.map .char) := by
  induction cs generalizing fuel with
  | nil =>
    cases fuel with
    | zero => exact absurd hfuel (by simp)
    | succ fuel => exact Takes.behind (takes_takeInString '"' rest) (Takes.pure [] rest)
  | cons c cs ih =>
    cases fuel with
    | zero => exact absurd hfuel (by simp)
    | succ fuel =>
      have htail := ih (Nat.lt_of_succ_lt_succ hfuel)
      have hcons : Takes (do return Symbol.char c :: (← stringSymbols fuel)) (cs.flatMap escapeChar ++ ['"']) rest
          ((c :: cs).map .char) := htail.behind (Takes.pure _ rest)
      rw [List.flatMap_cons, List.append_assoc]
      obtain ⟨hquote, hbackslash, hcontrol, hplain⟩ | ⟨escaped, hescaped, htakes⟩ := escapeChar_cases c
      · rw [hplain]
        refine Takes.cons (takes_takeInString c _) ?_
        split
        next heq => exact absurd (by simpa using heq) hquote
        next heq => exact absurd (by simpa using heq) hbackslash
        next heq =>
          cases heq
          rw [if_neg hcontrol]
          exact hcons
        next heq => cases heq
      · rw [hescaped, List.cons_append]
        refine Takes.cons (takes_takeInString '\\' _) ?_
        exact Takes.bind (htakes _) hcons

theorem length_le_flatMap_escapeChar (cs : List Char) : cs.length ≤ (cs.flatMap escapeChar).length := by
  induction cs with
  | nil => exact Nat.le_refl 0
  | cons c cs ih =>
    have hone : 0 < (escapeChar c).length := by
      obtain ⟨-, -, -, h⟩ | ⟨escaped, h, -⟩ := escapeChar_cases c <;> simp [h]
    rw [List.flatMap_cons, List.length_append, List.length_cons]
    omega

theorem chars?_map_char (cs : List Char) : chars? (cs.map .char) = some cs := by
  induction cs with
  | nil => rfl
  | cons c cs ih => rw [List.map_cons, chars?, ih, Option.map_some]

/-- A text that was written in quotes, behind the opening one. -/
theorem takes_stringBody (text : String) :
    Takes stringBody (text.toList.flatMap escapeChar ++ ['"']) rest text := by
  refine Takes.ahead (takes_remaining _) ?_
  refine Takes.behind (takes_stringSymbols text.toList ?_) ?_
  · have hlength := length_le_flatMap_escapeChar text.toList
    simp only [List.length_append, List.length_map]
    omega
  · simp only [chars?_map_char, String.ofList_toList]
    exact Takes.pure text rest

end

/-! ## Scalars -/

section

variable {rest : List Symbol}

theorem toList_quoted (text : String) :
    (quoted text).toList = '"' :: (text.toList.flatMap escapeChar ++ ['"']) := by
  rw [quoted, String.toList_ofList, List.cons_append]

theorem takes_string (expected text : String) : Takes (string expected) (quoted text).toList rest text := by
  rw [toList_quoted]
  refine takes_byToken (by decide) ?_
  simp only [if_true]
  exact Takes.cons (takes_take '"' _) (takes_stringBody text)

/-- A word is taken by its first character. -/
theorem takes_keyword {α : Type} {c : Char} (cs : List Char) (a : α) :
    Takes (do let _ ← take; word cs; return a) (c :: cs) rest a :=
  Takes.cons (takes_take c _) (Takes.behind (takes_word cs) (Takes.pure a _))

theorem takes_bool (b : Bool) : Takes bool (Value.bool b).compact.toList rest b := by
  cases b with
  | false => exact takes_byToken (c := 'f') (by decide) (takes_keyword ['a', 'l', 's', 'e'] false)
  | true => exact takes_byToken (c := 't') (by decide) (takes_keyword ['r', 'u', 'e'] true)

/-- Nothing, where there may be something. -/
theorem takes_null {α : Type} (d : Decoder α) : Takes (optional d) Value.null.compact.toList rest none :=
  Takes.ahead (takes_nextToken (c := 'n') (by decide)) (takes_keyword ['u', 'l', 'l'] none)

/-- A text, where there may be nothing. -/
theorem takes_optional_string (expected text : String) :
    Takes (optional (string expected)) (Value.string text).compact.toList rest (some text) := by
  have hstring : Takes (string expected) (quoted text).toList rest text := takes_string expected text
  rw [Value.compact]
  rw [toList_quoted] at hstring ⊢
  exact Takes.ahead (takes_nextToken (c := '"') (by decide)) (hstring.behind (Takes.pure _ _))

end

/-! ## Records -/

/-- The members of an object as they are written: a comma stands before each of them but the first one. -/
def membersText : (first : Bool) → List (String × Value) → List Char
  | _, [] => []
  | first, (key, value) :: members =>
    (if first then [] else [',']) ++ ((quoted key).toList ++ ':' :: (value.compact.toList ++ membersText false members))

theorem toList_compactMembers (members : List (String × Value)) :
    (String.intercalate "," (compactMembers members)).toList = membersText true members := by
  induction members with
  | nil => rfl
  | cons m ms ih =>
    obtain ⟨key, value⟩ := m
    cases ms with
    | nil => simp [compactMembers, membersText]
    | cons m ms =>
      obtain ⟨key', value'⟩ := m
      rw [compactMembers, compactMembers, String.intercalate_cons_cons, String.toList_append, ← compactMembers, ih]
      simp [membersText]

/-- An object as it is written. -/
theorem toList_compact_object (members : List (String × Value)) :
    (Value.object members).compact.toList = '\x7b' :: (membersText true members ++ ['\x7d']) := by
  rw [Value.compact, String.toList_append, String.toList_append, toList_compactMembers]
  rfl

theorem length_le_membersText (first : Bool) (members : List (String × Value)) :
    members.length ≤ (membersText first members).length := by
  induction members generalizing first with
  | nil => exact Nat.zero_le _
  | cons m ms ih =>
    have hmore := ih false
    simp only [membersText, List.length_append, List.length_cons]
    omega

section

variable {rest : List Symbol}

/-- The next key of an object. -/
theorem takes_nextKey (first : Bool) (key : String) :
    Takes (nextKey first) ((if first then [] else [',']) ++ (quoted key).toList) rest (some key) := by
  rw [toList_quoted]
  have hkey : Takes nextKey.key ('"' :: (key.toList.flatMap escapeChar ++ ['"'])) rest (some key) :=
    Takes.cons (takes_take '"' _) (Takes.behind (takes_stringBody key) (Takes.pure _ rest))
  cases first with
  | true => exact Takes.ahead (takes_nextToken (by decide)) hkey
  | false =>
    refine Takes.ahead (takes_nextToken (c := ',') (by decide)) ?_
    exact Takes.cons (takes_take ',' _) (Takes.ahead (takes_nextToken (by decide)) hkey)

theorem takes_colon : Takes colon [':'] rest () :=
  Takes.ahead (takes_nextToken (by decide)) (Takes.behind (takes_take ':' rest) (Takes.pure _ rest))

theorem takes_endObject : Takes endObject ['\x7d'] rest () :=
  Takes.ahead (takes_nextToken (by decide)) (Takes.behind (takes_take '\x7d' rest) (Takes.pure _ rest))

variable {σ β : Type} {fields : List (RecordField σ)} {s t : σ} {written : List (String × Value)}

/-- The members have fields of their own, whose readers take their values and bring the record from one state to
another one. -/
inductive Fills (fields : List (RecordField σ)) : σ → List (String × Value) → σ → Prop
  | nil (s : σ) : Fills fields s [] s
  | cons {s t : σ} {key : String} {value : Value} {written : List (String × Value)} {f : RecordField σ}
      {update : σ → σ} (hfield : fields.find? (·.names.contains key) = some f) (hset : f.isSet s = false)
      (hread : ∀ rest, Takes f.read value.compact.toList rest update) (hmore : Fills fields (update s) written t) :
      Fills fields s ((key, value) :: written) t

/-- A member whose field is a part of the record. -/
theorem Fills.part {α : Type} {names : List String} {part : σ → Option α} {put : α → σ → σ} {d : Decoder α}
    {defaulted : Bool} {key : String} {value : Value} {a : α}
    (hfield : fields.find? (·.names.contains key) = some (.of names part put d defaulted)) (hpart : part s = none)
    (hd : ∀ rest, Takes d value.compact.toList rest a) (hmore : Fills fields (put a s) written t) :
    Fills fields s ((key, value) :: written) t :=
  .cons hfield (by simp [RecordField.of, hpart]) (fun rest => (hd rest).behind (Takes.pure _ _)) hmore

/-- At the closing brace there is no member more. -/
theorem takes_members_end (fuel : Nat) (first : Bool) (s : σ) :
    Takes (members fields fuel first s) [] (.char '\x7d' :: rest) s := by
  cases fuel with
  | zero => exact Takes.pure s _
  | succ fuel => exact Takes.ahead (Takes.ahead (takes_nextToken (by decide)) (Takes.pure _ _)) (Takes.pure s _)

/-- The members of an object are read into their fields. -/
theorem takes_members (h : Fills fields s written t) {fuel : Nat} (hfuel : written.length ≤ fuel) (first : Bool) :
    Takes (members fields fuel first s) (membersText first written) (.char '\x7d' :: rest) t := by
  induction h generalizing fuel first with
  | nil s => exact takes_members_end fuel first s
  | @cons s t key value written f update hfield hset hread hmore ih =>
    cases fuel with
    | zero => exact absurd hfuel (by simp)
    | succ fuel =>
      have hrest := ih (Nat.le_of_succ_le_succ hfuel) false
      rw [membersText, ← List.append_assoc]
      refine Takes.bind (takes_nextKey first key) ?_
      simp only [hfield, hset, Bool.false_eq_true, if_false]
      exact Takes.cons takes_colon (Takes.bind (hread _) hrest)

/-- An object whose members fill a record is read as that record. -/
theorem takes_record (name : String) {complete : σ → Except String β} {b : β} (h : Fills fields s written t)
    (hcomplete : complete t = .ok b) :
    Takes (record name fields s complete) (Value.object written).compact.toList rest b := by
  rw [toList_compact_object]
  refine takes_byToken (by decide) ?_
  have hbrace : ¬ '\x7b' = '[' := by decide
  simp only [hbrace, if_false, if_true]
  refine Takes.cons (takes_take '\x7b' _) ?_
  refine Takes.closedBy ?_ takes_endObject
  refine Takes.ahead (takes_remaining _) ?_
  refine Takes.behind (takes_members h ?_ true) ?_
  · have hlength := length_le_membersText true written
    simp only [List.length_append, List.length_map]
    omega
  · simp only [hcomplete]
    exact Takes.pure b _

end

/-! ## Whole texts -/

/-- A decoder that takes a whole text gives its value. -/
theorem run_of_takes {α : Type} {d : Decoder α} {cs : List Char} {a : α} (h : Takes d cs [] a) :
    run d (cs.map .char) = .ok a := by
  obtain ⟨line, column, h⟩ := h .text 1 0
  rw [List.append_nil] at h
  unfold run
  simp only [bind, EStateM.bind, Cursor.start, h]
  rfl

/-- A decoder that takes what is written for a value gives what it is decoded to. -/
theorem runValue_of_takes {α : Type} {d : Decoder α} {v : Value} {a : α} (h : Takes d v.compact.toList [] a) :
    runValue d v = .ok a := by
  obtain ⟨line, column, h⟩ := h .value 1 0
  rw [List.append_nil] at h
  unfold runValue
  simp only [Cursor.start, Symbol.ofText, h]

end SqlTemplate.Json.Decoder

namespace SqlTemplate

open Json Json.Decoder Service

variable {text : String}

theorem takes_query (text : String) (rest : List Text.Symbol) :
    Takes query (Value.ofMembers [("query", .string text)]).compact.toList rest text :=
  takes_record "AstData" (.part rfl rfl (fun _ => takes_string "a string" text) (.nil _)) rfl

/-- The body of a request about a query is read as that query. -/
theorem decode_queryBody (text : String) : decode query (Text.Symbol.ofText (Command.queryBody text)) = .ok text := by
  have htakes : Takes (request query) (Command.queryBody text).toList [] text :=
    takes_record "Request" (.part rfl rfl (takes_query text) (.nil _)) rfl
  rw [decode, Text.Symbol.ofText, run_of_takes htakes, routeError]

end SqlTemplate
