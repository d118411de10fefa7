import KindDispatch.Proofs.Json.Numerals
import KindDispatch.Proofs.Json.Reader

/-!
# Written JSON texts

The compact and the indented text of a JSON value are JSON texts (`isText_compact`,
`isText_pretty`) that say the same, its `content`.
-/

namespace KindDispatch

namespace Json

mutual

/-- What the texts of a value say; a number that is not finite is lost. -/
def content : Json → JsonContent
  | null => .null
  | bool value => .bool value
  | nat value => .number (decimalDigits value)
  | number value => ((numberStyle.writeFinite? value).map (.number ·.toList)).getD .null
  | string value => .string value
  | array elements => .array (contents elements)
  | object fields => .object (fieldContents fields)

def contents : List Json → List JsonContent
  | [] => []
  | element :: rest => content element :: contents rest

def fieldContents : List (String × Json) → List (String × JsonContent)
  | [] => []
  | (key, value) :: rest => (key, content value) :: fieldContents rest

end

theorem contents_eq_map (elements : List Json) : contents elements = elements.map content := by
  induction elements with
  | nil => rfl
  | cons element rest ih => rw [contents, ih, List.map_cons]

theorem fieldContents_eq_map (fields : List (String × Json)) :
    fieldContents fields = fields.map fun field => (field.1, field.2.content) := by
  induction fields with
  | nil => rfl
  | cons field rest ih => rw [fieldContents, ih, List.map_cons]

/-! ## Strings -/

private theorem hexValue?_hexDigit : ∀ n < 16, Source.hexValue? (hexDigit n) = some n := by decide

private theorem codeUnit?_hexDigits {n : Nat} (small : n < 256) :
    codeUnit? ['0', '0', hexDigit (n / 16), hexDigit (n % 16)] = some n := by
  have high := hexValue?_hexDigit (n / 16) (by omega)
  have low := hexValue?_hexDigit (n % 16) (by omega)
  have zero : Source.hexValue? '0' = some 0 := rfl
  simp only [codeUnit?, zero, high, low, Option.bind_eq_bind, Option.bind_some, Option.pure_def,
    Option.some.injEq]
  omega

private theorem eq_of_toNat {c : Char} {n : Nat} (code : c.toNat = n) : c = Char.ofNat n :=
  code ▸ (Char.ofNat_toNat c).symm

theorem spelledChar_escapeChar (c : Char) : SpelledChar c (escapeChar c) := by
  rw [escapeChar]
  split
  · exact .short (by subst c; rfl)
  split
  · exact .short (by subst c; rfl)
  split
  · exact .short (by subst c; rfl)
  split
  · exact .short (by subst c; rfl)
  split
  · exact .short (by subst c; rfl)
  split
  · exact .short (by rw [eq_of_toNat ‹c.toNat = 8›]; rfl)
  split
  · exact .short (by rw [eq_of_toNat ‹c.toNat = 12›]; rfl)
  split
  · exact .unit (codeUnit?_hexDigits (by omega))
  · exact .plain (by omega) ‹_› ‹_›

theorem spelledChars_escaped (cs : List Char) : SpelledChars cs (cs.flatMap escapeChar) := by
  induction cs with
  | nil => exact .nil
  | cons c cs ih => exact .cons (spelledChar_escapeChar c) ih

/-! ## Pieces of a text -/

open JsonToken (Spell mark)

variable {tokens : List JsonToken} {rest : List Char}

/-- Nothing that could be part of a word comes first. -/
def Apart (rest : List Char) : Prop := ∀ c ∈ rest.head?, isWordChar c = false

private theorem apart_nil : Apart [] := by simp [Apart]

private theorem apart_cons {c : Char} (other : isWordChar c = false) : Apart (c :: rest) := by
  simpa [Apart] using other

private theorem spell_blanks (blanks : List Char) (blank : ∀ c ∈ blanks, isBlank c = true)
    (spell : Spell tokens rest) : Spell tokens (blanks ++ rest) := by
  cases spell with
  | done others => exact .done (List.forall_mem_append.mpr ⟨blank, others⟩)
  | token others spelled apart later =>
      rw [← List.append_assoc, ← List.append_assoc]
      exact .token (List.forall_mem_append.mpr ⟨blank, others⟩) spelled apart later

private theorem no_blanks : ∀ c ∈ ([] : List Char), isBlank c = true := by simp

private theorem spell_first {token : JsonToken} {text : List Char} (spelled : token.Spelled text)
    (apart : token.isWord = true → Apart rest) (spell : Spell tokens rest) :
    Spell (token :: tokens) (text ++ rest) :=
  .token no_blanks spelled apart spell

private theorem spell_mark {c : Char} (isMark : isMark c = true) (spell : Spell tokens rest) :
    Spell (mark c :: tokens) (c :: rest) :=
  spell_first (.mark isMark) (by simp [JsonToken.isWord]) spell

private theorem spell_quote (value : String) (spell : Spell tokens rest) :
    Spell (.string value :: tokens) ((quote value).toList ++ rest) := by
  rw [quote, String.toList_ofList]
  exact spell_first (.string (spelledChars_escaped value.toList)) (by simp [JsonToken.isWord]) spell

private theorem spell_word {token : JsonToken} {text : List Char} (spelled : token.Spelled text)
    (apart : Apart rest) (spell : Spell tokens rest) : Spell (token :: tokens) (text ++ rest) :=
  spell_first spelled (fun _ => apart) spell

theorem spell_nat (value : Nat) (apart : Apart rest) (spell : Spell tokens rest) :
    Spell (.number (decimalDigits value) :: tokens) ((toString value).toList ++ rest) := by
  rw [toList_toString]
  exact spell_word (.number (isNumeral_of_isWhole (isWhole_decimalDigits value))) apart spell

theorem spell_number (value : Binary64) (apart : Apart rest) (spell : Spell tokens rest) :
    Spell ((number value).content.tokens ++ tokens) ((numberText value).toList ++ rest) := by
  rw [content, numberText]
  cases written : numberStyle.writeFinite? value with
  | none => exact spell_word .null apart spell
  | some text => exact spell_word (.number (isNumeral_of_writeFinite? written)) apart spell

theorem spell_bool (value : Bool) (apart : Apart rest) (spell : Spell tokens rest) :
    Spell (.bool value :: tokens) ((if value then "true" else "false").toList ++ rest) := by
  cases value
  · exact spell_word .false apart spell
  · exact spell_word .true apart spell

/-! ## Compact texts -/

mutual

theorem spell_compact : ∀ (json : Json) {tokens : List JsonToken} {rest : List Char}, Apart rest →
    Spell tokens rest → Spell (json.content.tokens ++ tokens) (json.compact.toList ++ rest)
  | null, _, _, apart, spell => spell_word .null apart spell
  | bool value, _, _, apart, spell => spell_bool value apart spell
  | nat value, _, _, apart, spell => spell_nat value apart spell
  | number value, _, _, apart, spell => spell_number value apart spell
  | string value, _, _, _, spell => spell_quote value spell
  | array elements, tokens, rest, _, spell => by
      have inner := spell_compactElements elements (spell_mark (c := ']') rfl spell)
      simpa [content, JsonContent.tokens, compact] using spell_mark (c := '[') rfl inner
  | object fields, _, _, _, spell => by
      have inner := spell_compactFields fields (spell_mark (c := '\x7d') rfl spell)
      simpa [content, JsonContent.tokens, compact] using spell_mark (c := '\x7b') rfl inner

theorem spell_compactElements : ∀ (elements : List Json) {tokens : List JsonToken}
    {rest : List Char}, Spell (mark ']' :: tokens) (']' :: rest) →
    Spell (JsonContent.elementTokens (contents elements) ++ mark ']' :: tokens)
      ((compactElements elements).toList ++ ']' :: rest)
  | [], _, _, spell => spell
  | [element], _, _, spell => by
      exact spell_compact element (apart_cons rfl) spell
  | element :: other :: others, _, _, spell => by
      have later := spell_mark (c := ',') rfl (spell_compactElements (other :: others) spell)
      simpa [contents, JsonContent.elementTokens, compactElements] using
        spell_compact element (apart_cons rfl) later

theorem spell_compactFields : ∀ (fields : List (String × Json)) {tokens : List JsonToken}
    {rest : List Char}, Spell (mark '\x7d' :: tokens) ('\x7d' :: rest) →
    Spell (JsonContent.fieldTokens (fieldContents fields) ++ mark '\x7d' :: tokens)
      ((compactFields fields).toList ++ '\x7d' :: rest)
  | [], _, _, spell => spell
  | [(key, value)], _, _, spell => by
      have written := spell_mark (c := ':') rfl (spell_compact value (apart_cons rfl) spell)
      simpa [fieldContents, JsonContent.fieldTokens, compactFields] using spell_quote key written
  | (key, value) :: other :: others, _, _, spell => by
      have later := spell_mark (c := ',') rfl (spell_compactFields (other :: others) spell)
      have written := spell_mark (c := ':') rfl (spell_compact value (apart_cons rfl) later)
      simpa [fieldContents, JsonContent.fieldTokens, compactFields] using spell_quote key written

end

/-! ## Indented texts -/

private theorem spell_lineStart (level : Nat) (spell : Spell tokens rest) :
    Spell tokens ((lineStart level).toList ++ rest) := by
  refine spell_blanks _ (fun c member => ?_) spell
  simp only [lineStart, String.toList_append, String.toList_ofList, List.mem_append] at member
  rcases member with newLine | space
  · obtain rfl : c = '\n' := by simpa using newLine
    rfl
  · rw [List.eq_of_mem_replicate space]
    rfl

private theorem apart_lineStart (level : Nat) (rest : List Char) :
    Apart ((lineStart level).toList ++ rest) := by
  rw [lineStart, String.toList_append, List.append_assoc]
  exact apart_cons rfl

mutual

theorem spell_pretty : ∀ (json : Json) (level : Nat) {tokens : List JsonToken} {rest : List Char},
    Apart rest → Spell tokens rest →
    Spell (json.content.tokens ++ tokens) ((json.pretty level).toList ++ rest)
  | null, _, _, _, apart, spell => by
      rw [pretty]
      exact spell_word .null apart spell
  | bool value, _, _, _, apart, spell => by
      rw [pretty]
      exact spell_bool value apart spell
  | nat value, _, _, _, apart, spell => by
      rw [pretty]
      exact spell_nat value apart spell
  | number value, _, _, _, apart, spell => by
      rw [pretty]
      exact spell_number value apart spell
  | string value, _, _, _, _, spell => by
      rw [pretty]
      exact spell_quote value spell
  | array [], _, _, _, _, spell => by
      rw [pretty]
      exact spell_mark (c := '[') rfl (spell_mark (c := ']') rfl spell)
  | object [], _, _, _, _, spell => by
      rw [pretty]
      exact spell_mark (c := '\x7b') rfl (spell_mark (c := '\x7d') rfl spell)
  | array (element :: others), level, tokens, rest, _, spell => by
      have inner := spell_prettyElements (element :: others) (level + 1)
        (apart_lineStart level (']' :: rest))
        (spell_lineStart level (spell_mark (c := ']') rfl spell))
      simpa [content, JsonContent.tokens, pretty] using spell_mark (c := '[') rfl inner
  | object (field :: others), level, tokens, rest, _, spell => by
      have inner := spell_prettyFields (field :: others) (level + 1)
        (apart_lineStart level ('\x7d' :: rest))
        (spell_lineStart level (spell_mark (c := '\x7d') rfl spell))
      simpa [content, JsonContent.tokens, pretty] using spell_mark (c := '\x7b') rfl inner

theorem spell_prettyElements : ∀ (elements : List Json) (level : Nat) {tokens : List JsonToken}
    {rest : List Char}, Apart rest → Spell tokens rest →
    Spell (JsonContent.elementTokens (contents elements) ++ tokens)
      ((prettyElements level elements).toList ++ rest)
  | [], _, _, _, _, spell => spell
  | [element], level, _, _, apart, spell => by
      simpa [contents, JsonContent.elementTokens, prettyElements] using
        spell_lineStart level (spell_pretty element level apart spell)
  | element :: other :: others, level, _, _, apart, spell => by
      have later := spell_mark (c := ',') rfl
        (spell_prettyElements (other :: others) level apart spell)
      simpa [contents, JsonContent.elementTokens, prettyElements] using
        spell_lineStart level (spell_pretty element level (apart_cons rfl) later)

theorem spell_prettyFields : ∀ (fields : List (String × Json)) (level : Nat)
    {tokens : List JsonToken} {rest : List Char}, Apart rest → Spell tokens rest →
    Spell (JsonContent.fieldTokens (fieldContents fields) ++ tokens)
      ((prettyFields level fields).toList ++ rest)
  | [], _, _, _, _, spell => spell
  | [(key, value)], level, _, _, apart, spell => by
      have written := spell_blanks [' '] (List.all_eq_true.mp rfl)
        (spell_pretty value level apart spell)
      simpa [fieldContents, JsonContent.fieldTokens, prettyFields] using
        spell_lineStart level (spell_quote key (spell_mark (c := ':') rfl written))
  | (key, value) :: other :: others, level, _, _, apart, spell => by
      have later := spell_mark (c := ',') rfl
        (spell_prettyFields (other :: others) level apart spell)
      have written := spell_blanks [' '] (List.all_eq_true.mp rfl)
        (spell_pretty value level (apart_cons rfl) later)
      simpa [fieldContents, JsonContent.fieldTokens, prettyFields] using
        spell_lineStart level (spell_quote key (spell_mark (c := ':') rfl written))

end

/-! ## Whole texts -/

theorem isText_compact (json : Json) : json.content.IsText json.compact.toList := by
  have spell := spell_compact json apart_nil (.done no_blanks)
  simpa [JsonContent.IsText] using spell

theorem isText_pretty (json : Json) (blanks : List Char)
    (blank : ∀ c ∈ blanks, isBlank c = true) :
    json.content.IsText ((json.pretty 0).toList ++ blanks) := by
  have apart : Apart blanks := fun c member => by
    simp [isWordChar, blank c (List.mem_of_mem_head? member)]
  have spell := spell_pretty json 0 apart (.done blank)
  simpa [JsonContent.IsText] using spell

end Json

end KindDispatch
