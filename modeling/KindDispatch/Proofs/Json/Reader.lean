import KindDispatch.Proofs.Json.Grammar
import Mathlib.Data.List.TakeWhile

/-!
# Reading JSON texts

`JsonContent.read?` splits a text into tokens and builds what they say.  It reads every JSON text,
whatever blanks and escapes that one was written with (`read?_of_isText`), so a text says one thing
only.
-/

namespace KindDispatch

namespace Json

/-! ## Strings -/

def readChar? : List Char → Option (Char × List Char)
  | '\\' :: 'u' :: rest => do
    let unit ← codeUnit? (rest.take 4)
    if isLeading unit then
      match rest.drop 4 with
      | '\\' :: 'u' :: rest => do
        let unit' ← codeUnit? (rest.take 4)
        if isTrailing unit' then some (Char.ofNat (pairedCode unit unit'), rest.drop 4) else none
      | _ => none
    else if isTrailing unit then none
    else some (Char.ofNat unit, rest.drop 4)
  | '\\' :: mark :: rest => (shortEscapes.lookup mark).map (·, rest)
  | c :: rest => if 32 ≤ c.toNat ∧ c ≠ '"' ∧ c ≠ '\\' then some (c, rest) else none
  | [] => none

/-- Reads the characters of a string up to its closing quote, if there are less than `limit`. -/
def readChars? : (limit : Nat) → List Char → Option (List Char × List Char)
  | 0, _ => none
  | limit + 1, text =>
    if text.head? = some '"' then some ([], text.tail)
    else do
      let (c, rest) ← readChar? text
      let (cs, rest) ← readChars? limit rest
      return (c :: cs, rest)

section Strings

variable {c : Char} {text : List Char}

private theorem length_of_codeUnit? {unit : Nat} (code : codeUnit? text = some unit) :
    text.length = 4 := by
  unfold codeUnit? at code
  split at code
  · rfl
  · contradiction

private theorem not_surrogate (c : Char) :
    isLeading c.toNat = false ∧ isTrailing c.toNat = false := by
  have valid : c.toNat < 0xD800 ∨ 0xDFFF < c.toNat ∧ c.toNat < 0x110000 := c.valid
  simp only [isLeading, isTrailing, Bool.and_eq_false_iff, decide_eq_false_iff_not]
  omega

private theorem readChar?_unit (rest : List Char) (code : codeUnit? text = some c.toNat) :
    readChar? ('\\' :: 'u' :: text ++ rest) = some (c, rest) := by
  have four := length_of_codeUnit? code
  obtain ⟨single, single'⟩ := not_surrogate c
  simp [readChar?, List.take_left' four, List.drop_left' four, code, single, single']

private theorem readChar?_pair {first second rest : List Char} {leading trailing : Nat}
    (unit : codeUnit? first = some leading) (unit' : codeUnit? second = some trailing)
    (leads : isLeading leading = true) (trails : isTrailing trailing = true)
    (code : c.toNat = pairedCode leading trailing) :
    readChar? ('\\' :: 'u' :: first ++ '\\' :: 'u' :: second ++ rest) = some (c, rest) := by
  have four := length_of_codeUnit? unit
  have four' := length_of_codeUnit? unit'
  simp [readChar?, List.take_left' four, List.drop_left' four, List.take_left' four',
    List.drop_left' four', unit, unit', leads, trails, ← code]

theorem readChar?_of_spelled (spelled : SpelledChar c text) (rest : List Char) :
    readChar? (text ++ rest) = some (c, rest) := by
  cases spelled with
  | plain visible noQuote noEscape => simp [readChar?, visible, noQuote, noEscape]
  | @short mark escapes =>
      have other : mark ≠ 'u' := by
        rintro rfl
        have none : shortEscapes.lookup 'u' = none := rfl
        rw [none] at escapes
        contradiction
      simp [readChar?, escapes]
  | unit code => exact readChar?_unit rest code
  | pair unit unit' leads trails code => exact readChar?_pair unit unit' leads trails code

private theorem exists_of_spelled (spelled : SpelledChar c text) :
    ∃ first rest, text = first :: rest ∧ first ≠ '"' := by
  cases spelled with
  | plain visible noQuote noEscape => exact ⟨c, [], rfl, noQuote⟩
  | short escapes => exact ⟨_, _, rfl, by decide⟩
  | unit code => exact ⟨_, _, rfl, by decide⟩
  | pair unit unit' leads trails code => exact ⟨_, _, rfl, by decide⟩

theorem readChars?_of_spelled {cs : List Char} (spelled : SpelledChars cs text) (rest : List Char)
    {limit : Nat} (enough : cs.length < limit) :
    readChars? limit (text ++ '"' :: rest) = some (cs, rest) := by
  induction spelled generalizing limit with
  | nil =>
      obtain ⟨limit, rfl⟩ := Nat.exists_eq_add_one_of_ne_zero (Nat.ne_of_gt enough)
      simp [readChars?]
  | @cons c cs text rest' first others ih =>
      obtain ⟨limit, rfl⟩ := Nat.exists_eq_add_one_of_ne_zero (Nat.ne_zero_of_lt enough)
      have read := readChar?_of_spelled first (rest' ++ '"' :: rest)
      obtain ⟨start, later, rfl, noQuote⟩ := exists_of_spelled first
      have others := ih (Nat.lt_of_succ_lt_succ enough)
      rw [List.cons_append] at read
      simp [readChars?, noQuote, read, others]

private theorem length_le_of_spelledChars {cs : List Char} (spelled : SpelledChars cs text) :
    cs.length ≤ text.length := by
  induction spelled with
  | nil => rfl
  | cons first others ih =>
      obtain ⟨start, later, rfl, -⟩ := exists_of_spelled first
      simp only [List.length_cons, List.length_append]
      omega

end Strings

/-! ## Words -/

private theorem isWordChar_of_isDigit {c : Char} (digit : c.isDigit = true) :
    isWordChar c = true := by
  have other (mark : Char) (noDigit : mark.isDigit = false) : c ≠ mark := by
    rintro rfl
    simp [noDigit] at digit
  simp [isWordChar, isBlank, isMark, other]

private theorem exists_of_isNumeral {numeral : List Char} (isNumeral : IsNumeral numeral) :
    ∃ first rest, numeral = first :: rest ∧ (first = '-' ∨ first.isDigit = true) := by
  obtain ⟨isSign, isWhole, -, -⟩ := isNumeral
  obtain rfl | rfl := isSign
  · cases isWhole with
    | zero => exact ⟨_, _, rfl, .inr rfl⟩
    | positive digit nonzero digits => exact ⟨_, _, rfl, .inr digit⟩
  · exact ⟨_, _, rfl, .inl rfl⟩

private theorem isWordChar_of_mem_numeral {numeral : List Char} (isNumeral : IsNumeral numeral) :
    ∀ c ∈ numeral, isWordChar c = true := by
  cases isNumeral with
  | @mk sign whole fraction exponent isSign isWhole isFraction isExponent =>
      have inSign : ∀ c ∈ sign, isWordChar c = true := by
        rcases isSign with rfl | rfl <;> exact List.all_eq_true.mp rfl
      have inWhole : ∀ c ∈ whole, isWordChar c = true := by
        cases isWhole with
        | zero => exact List.all_eq_true.mp rfl
        | positive digit nonzero digits =>
            exact List.forall_mem_cons.mpr ⟨isWordChar_of_isDigit digit, fun c member =>
              isWordChar_of_isDigit (digits c member)⟩
      have inFraction : ∀ c ∈ fraction, isWordChar c = true := by
        cases isFraction with
        | none => exact List.all_eq_true.mp rfl
        | some areDigits =>
            exact List.forall_mem_cons.mpr ⟨rfl, fun c member =>
              isWordChar_of_isDigit (areDigits.2 c member)⟩
      have inExponent : ∀ c ∈ exponent, isWordChar c = true := by
        cases isExponent with
        | none => exact List.all_eq_true.mp rfl
        | @some mark sign digits isMark isSign areDigits =>
            have start : ∀ c ∈ mark :: sign, isWordChar c = true := by
              rcases isMark with rfl | rfl <;> rcases isSign with rfl | rfl | rfl <;>
                exact List.all_eq_true.mp rfl
            exact List.forall_mem_append.mpr ⟨start, fun c member =>
              isWordChar_of_isDigit (areDigits.2 c member)⟩
      simp only [List.forall_mem_append]
      exact ⟨⟨⟨inSign, inWhole⟩, inFraction⟩, inExponent⟩

end Json

/-! ## Tokens -/

namespace JsonToken

open Json

def ofWord (word : List Char) : JsonToken :=
  if word = ['n', 'u', 'l', 'l'] then .null
  else if word = ['t', 'r', 'u', 'e'] then .bool true
  else if word = ['f', 'a', 'l', 's', 'e'] then .bool false
  else .number word

def read? (text : List Char) : Option (JsonToken × List Char) :=
  match text.dropWhile isBlank with
  | [] => none
  | c :: rest =>
    if c = '"' then
      (readChars? rest.length rest).map fun (cs, rest) => (.string (String.ofList cs), rest)
    else if isMark c then some (.mark c, rest)
    else some (ofWord ((c :: rest).takeWhile isWordChar), (c :: rest).dropWhile isWordChar)

def readAll? : (limit : Nat) → List Char → Option (List JsonToken)
  | 0, text => if text.all isBlank then some [] else none
  | limit + 1, text =>
    if text.all isBlank then some []
    else do
      let (token, rest) ← read? text
      return token :: (← readAll? limit rest)

variable {token : JsonToken} {tokens : List JsonToken} {text rest : List Char}

private theorem word_of_spelled (spelled : token.Spelled text) (word : token.isWord = true) :
    ofWord text = token ∧ text ≠ [] ∧ ∀ c ∈ text, isWordChar c = true := by
  cases spelled with
  | mark isMark => contradiction
  | null | true | false => exact ⟨rfl, List.cons_ne_nil _ _, List.all_eq_true.mp rfl⟩
  | number isNumeral =>
      obtain ⟨first, rest, rfl, starts⟩ := exists_of_isNumeral isNumeral
      have noName : first ≠ 'n' ∧ first ≠ 't' ∧ first ≠ 'f' := by
        refine ⟨?_, ?_, ?_⟩ <;> rintro rfl <;> revert starts <;> decide
      exact ⟨by simp [ofWord, noName], List.cons_ne_nil _ _, isWordChar_of_mem_numeral isNumeral⟩
  | string chars => contradiction

private theorem read?_of_word {first : Char} {others : List Char}
    (word : ∀ c ∈ first :: others, isWordChar c = true)
    (apart : ∀ c ∈ rest.head?, isWordChar c = false) :
    read? (first :: others ++ rest) = some (ofWord (first :: others), rest) := by
  have start := word first List.mem_cons_self
  simp only [isWordChar, Bool.not_eq_true', Bool.or_eq_false_iff, decide_eq_false_iff_not] at start
  obtain ⟨⟨noBlank, noMark⟩, noQuote⟩ := start
  have taken : (first :: others ++ rest).takeWhile isWordChar = first :: others := by
    rw [List.takeWhile_append_of_pos word]
    cases rest with
    | nil => simp
    | cons c rest => simp [apart c rfl]
  have dropped : (first :: others ++ rest).dropWhile isWordChar = rest := by
    rw [List.dropWhile_append_of_pos word]
    cases rest with
    | nil => rfl
    | cons c rest => simp [apart c rfl]
  rw [List.cons_append] at *
  simp [read?, noBlank, noMark, noQuote, taken, dropped]

theorem read?_of_spelled (spelled : token.Spelled text)
    (apart : token.isWord = true → ∀ c ∈ rest.head?, isWordChar c = false) :
    read? (text ++ rest) = some (token, rest) := by
  by_cases word : token.isWord = true
  · obtain ⟨rfl, nonempty, isWord⟩ := word_of_spelled spelled word
    obtain ⟨first, others, rfl⟩ := List.exists_cons_of_ne_nil nonempty
    exact read?_of_word isWord (apart word)
  · cases spelled with
    | @mark c isMark =>
        have noBlank : isBlank c = false ∧ c ≠ '"' := by
          simp only [Json.isMark, List.contains_eq_mem, List.mem_cons, List.not_mem_nil, or_false,
            decide_eq_true_eq] at isMark
          rcases isMark with rfl | rfl | rfl | rfl | rfl | rfl <;> decide
        simp [read?, noBlank, isMark]
    | @string value text chars =>
        have short := length_le_of_spelledChars chars
        have read : readChars? (text ++ '"' :: rest).length (text ++ '"' :: rest) =
            some (value.toList, rest) := readChars?_of_spelled chars rest (by simp; omega)
        have start : ('"' :: (text ++ '"' :: rest)).dropWhile isBlank =
            '"' :: (text ++ '"' :: rest) := rfl
        rw [List.append_assoc, List.singleton_append, List.cons_append, read?, start]
        simp only [↓reduceIte, read, Option.map_some, String.ofList_toList]
    | null | true | false | number => exact absurd rfl word

private theorem read?_of_blanks {blanks : List Char} (blank : ∀ c ∈ blanks, isBlank c = true)
    (text : List Char) : read? (blanks ++ text) = read? text := by
  rw [read?, read?, List.dropWhile_append_of_pos blank]

private theorem not_blank_of_read? {found : JsonToken × List Char}
    (read : read? text = some found) : text.all isBlank = false := by
  by_contra blank
  have nothing : text.dropWhile isBlank = [] := by simpa using blank
  simp [read?, nothing] at read

theorem readAll?_of_spell (spell : Spell tokens text) {limit : Nat}
    (enough : tokens.length ≤ limit) : readAll? limit text = some tokens := by
  induction spell generalizing limit with
  | done blank =>
      have blank := List.all_eq_true.mpr blank
      cases limit <;> rw [readAll?, if_pos blank]
  | @token token tokens blanks text rest blank spelled apart others ih =>
      obtain ⟨limit, rfl⟩ := Nat.exists_eq_add_one_of_ne_zero (Nat.ne_zero_of_lt enough)
      have first : read? (blanks ++ text ++ rest) = some (token, rest) := by
        rw [List.append_assoc, read?_of_blanks blank, read?_of_spelled spelled apart]
      have later := ih (Nat.le_of_succ_le_succ enough)
      rw [readAll?, if_neg (Bool.not_eq_true _ ▸ not_blank_of_read? first), first]
      simp [later]

private theorem length_le_of_spell (spell : Spell tokens text) : tokens.length ≤ text.length := by
  induction spell with
  | done blank => exact Nat.zero_le _
  | @token token tokens blanks text rest blank spelled apart others ih =>
      have written : 0 < text.length := by
        cases spelled with
        | number isNumeral =>
            obtain ⟨first, rest, rfl, -⟩ := exists_of_isNumeral isNumeral
            exact Nat.zero_lt_succ _
        | mark | null | true | false | string => exact Nat.zero_lt_succ _
      simp only [List.length_cons, List.length_append]
      omega

end JsonToken

/-! ## Values -/

namespace JsonContent

open JsonToken (mark Spell)

mutual

def readValue? : (limit : Nat) → List JsonToken → Option (JsonContent × List JsonToken)
  | limit + 1, mark '[' :: rest =>
    if rest.head? = some (mark ']') then some (array [], rest.tail)
    else (readElements? limit rest).map fun (elements, rest) => (array elements, rest)
  | limit + 1, mark '\x7b' :: rest =>
    if rest.head? = some (mark '\x7d') then some (object [], rest.tail)
    else (readFields? limit rest).map fun (fields, rest) => (object fields, rest)
  | _ + 1, .null :: rest => some (null, rest)
  | _ + 1, .bool value :: rest => some (bool value, rest)
  | _ + 1, .number numeral :: rest => some (number numeral, rest)
  | _ + 1, .string value :: rest => some (string value, rest)
  | _, _ => none

def readElements? : (limit : Nat) → List JsonToken → Option (List JsonContent × List JsonToken)
  | 0, _ => none
  | limit + 1, tokens => do
    let (element, rest) ← readValue? limit tokens
    match rest with
    | mark ']' :: rest => some ([element], rest)
    | mark ',' :: rest =>
      (readElements? limit rest).map fun (elements, rest) => (element :: elements, rest)
    | _ => none

def readFields? : (limit : Nat) → List JsonToken →
    Option (List (String × JsonContent) × List JsonToken)
  | limit + 1, .string key :: mark ':' :: tokens => do
    let (value, rest) ← readValue? limit tokens
    match rest with
    | mark '\x7d' :: rest => some ([(key, value)], rest)
    | mark ',' :: rest =>
      (readFields? limit rest).map fun (fields, rest) => ((key, value) :: fields, rest)
    | _ => none
  | _, _ => none

end

private theorem exists_tokens (content : JsonContent) :
    ∃ first rest, content.tokens = first :: rest ∧ first ≠ mark ']' := by
  cases content <;> exact ⟨_, _, rfl, by simp⟩

private theorem head?_elementTokens (element : JsonContent) (others : List JsonContent)
    (rest : List JsonToken) :
    (elementTokens (element :: others) ++ rest).head? ≠ some (mark ']') := by
  obtain ⟨first, later, split, noClose⟩ := exists_tokens element
  cases others <;> simpa [elementTokens, split] using noClose

private theorem head?_fieldTokens (field : String × JsonContent)
    (others : List (String × JsonContent)) (rest : List JsonToken) :
    (fieldTokens (field :: others) ++ rest).head? ≠ some (mark '\x7d') := by
  cases others <;> simp [fieldTokens]

mutual

theorem readValue?_tokens : ∀ (content : JsonContent) (limit : Nat) (rest : List JsonToken),
    content.tokens.length ≤ limit → readValue? limit (content.tokens ++ rest) = some (content, rest)
  | null, limit + 1, rest, _ => rfl
  | bool value, limit + 1, rest, _ => rfl
  | number numeral, limit + 1, rest, _ => rfl
  | string value, limit + 1, rest, _ => rfl
  | array [], limit + 1, rest, _ => rfl
  | object [], limit + 1, rest, _ => rfl
  | array (element :: others), limit + 1, rest, enough => by
      have read := readElements?_tokens element others limit rest
        (by simp [tokens] at enough; omega)
      have nonempty := head?_elementTokens element others (mark ']' :: rest)
      simp only [tokens, List.cons_append, List.append_assoc, List.nil_append]
      rw [readValue?, if_neg nonempty, read, Option.map_some]
  | object ((key, value) :: others), limit + 1, rest, enough => by
      have read := readFields?_tokens key value others limit rest
        (by simp [tokens] at enough; omega)
      have nonempty := head?_fieldTokens (key, value) others (mark '\x7d' :: rest)
      simp only [tokens, List.cons_append, List.append_assoc, List.nil_append]
      rw [readValue?, if_neg nonempty, read, Option.map_some]

theorem readElements?_tokens : ∀ (element : JsonContent) (others : List JsonContent) (limit : Nat)
    (rest : List JsonToken), (elementTokens (element :: others)).length < limit →
    readElements? limit (elementTokens (element :: others) ++ mark ']' :: rest) =
      some (element :: others, rest)
  | element, [], limit + 1, rest, enough => by
      have first := readValue?_tokens element limit (mark ']' :: rest)
        (by simp [elementTokens] at enough; omega)
      simp [elementTokens, readElements?, first]
  | element, other :: others, limit + 1, rest, enough => by
      have first := readValue?_tokens element limit
        (mark ',' :: (elementTokens (other :: others) ++ mark ']' :: rest))
        (by simp [elementTokens] at enough; omega)
      have later := readElements?_tokens other others limit rest
        (by simp [elementTokens] at enough; omega)
      simp [elementTokens, readElements?, first, later]

theorem readFields?_tokens : ∀ (key : String) (value : JsonContent)
    (others : List (String × JsonContent)) (limit : Nat) (rest : List JsonToken),
    (fieldTokens ((key, value) :: others)).length < limit →
    readFields? limit (fieldTokens ((key, value) :: others) ++ mark '\x7d' :: rest) =
      some ((key, value) :: others, rest)
  | key, value, [], limit + 1, rest, enough => by
      have first := readValue?_tokens value limit (mark '\x7d' :: rest)
        (by simp [fieldTokens] at enough; omega)
      simp [fieldTokens, readFields?, first]
  | key, value, (key', value') :: others, limit + 1, rest, enough => by
      have first := readValue?_tokens value limit
        (mark ',' :: (fieldTokens ((key', value') :: others) ++ mark '\x7d' :: rest))
        (by simp [fieldTokens] at enough; omega)
      have later := readFields?_tokens key' value' others limit rest
        (by simp [fieldTokens] at enough; omega)
      simp [fieldTokens, readFields?, first, later]

end

def read? (text : List Char) : Option JsonContent := do
  let tokens ← JsonToken.readAll? text.length text
  match ← readValue? tokens.length tokens with
  | (content, []) => some content
  | _ => none

/-- A JSON text is read as what it says, however it is written. -/
theorem read?_of_isText {content : JsonContent} {text : List Char}
    (isText : content.IsText text) : read? text = some content := by
  have short := JsonToken.length_le_of_spell isText
  have built := readValue?_tokens content content.tokens.length [] (Nat.le_refl _)
  rw [List.append_nil] at built
  simp [read?, JsonToken.readAll?_of_spell isText short, built]

end JsonContent

end KindDispatch
