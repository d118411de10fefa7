import KindDispatch.Files.Utf8

/-!
# Bytes of a text

`Utf8.decode` reads the bytes of a text as that text, and reads nothing else.  A character is read
from a first byte and the bytes that one asks for, which are just the bytes of its encoding.
-/

namespace KindDispatch.Utf8

def encode (text : String) : List UInt8 := text.toByteArray.data.toList

theorem encode_eq (text : String) : encode text = text.toList.flatMap String.utf8EncodeChar := by
  rw [encode, ← String.utf8Encode_toList, List.utf8Encode]
  simp

@[simp] theorem length_encode (text : String) : (encode text).length = text.utf8ByteSize := by
  simp [encode]

/-! ## Reading a sequence -/

/-- Bytes complete a sequence: each one is in bounds, and there are as many as are missing. -/
def Sequence.Fits : Sequence → List UInt8 → Prop
  | sequence, [] => sequence.owed = 0
  | sequence, byte :: rest => sequence.owed ≠ 0 ∧ sequence.low ≤ byte.toNat ∧
      byte.toNat ≤ sequence.high ∧ Fits (sequence.add byte.toNat) rest

def Sequence.extend (sequence : Sequence) (bytes : List UInt8) : Sequence :=
  bytes.foldl (fun sequence byte => sequence.add byte.toNat) sequence

private theorem exists_of_fits {sequence : Sequence} {tail : List UInt8} {owed : Nat}
    (fits : sequence.Fits tail) (missing : sequence.owed = owed + 1) :
    ∃ byte rest, tail = byte :: rest ∧ sequence.low ≤ byte.toNat ∧ byte.toNat ≤ sequence.high ∧
      (sequence.add byte.toNat).Fits rest := by
  cases tail with
  | nil => simp_all [Sequence.Fits]
  | cons byte rest => exact ⟨byte, rest, rfl, fits.2⟩

private theorem eq_nil_of_fits {sequence : Sequence} {tail : List UInt8} (fits : sequence.Fits tail)
    (complete : sequence.owed = 0) : tail = [] := by
  cases tail with
  | nil => rfl
  | cons byte rest => exact absurd complete fits.1

private theorem decodeFrom_fits {sequence : Sequence} (short : sequence.owed ≠ 0)
    {tail : List UInt8}
    (fits : sequence.Fits tail) (rest : List UInt8) (index : Nat) (done : List Char) :
    decodeFrom (tail ++ rest) index (some sequence) done =
      decodeFrom rest (index + tail.length) none
        (Char.ofNat (sequence.extend tail).value :: done) := by
  induction tail generalizing sequence index with
  | nil => exact absurd fits short
  | cons byte tail ih =>
      obtain ⟨-, low, high, fits⟩ := fits
      rw [List.cons_append, decodeFrom, if_pos (by simp [low, high]), List.length_cons,
        Nat.add_comm tail.length, ← Nat.add_assoc]
      by_cases complete : (sequence.add byte.toNat).owed = 0
      · obtain rfl : tail = [] := eq_nil_of_fits fits complete
        exact if_pos complete
      · exact (if_neg complete).trans (ih complete fits (index + 1))

private theorem exists_fits {sequence : Sequence} (short : sequence.owed ≠ 0) {bytes : List UInt8}
    {index : Nat} {done text : List Char}
    (decodes : decodeFrom bytes index (some sequence) done = .ok text) :
    ∃ tail rest, bytes = tail ++ rest ∧ sequence.Fits tail := by
  induction bytes generalizing sequence index with
  | nil => contradiction
  | cons byte bytes ih =>
      rw [decodeFrom] at decodes
      split at decodes
      · rename_i bounds
        simp only [Bool.and_eq_true, decide_eq_true_eq] at bounds
        by_cases complete : (sequence.add byte.toNat).owed = 0
        · exact ⟨[byte], bytes, rfl, short, bounds.1, bounds.2, complete⟩
        · obtain ⟨tail, rest, rfl, fits⟩ := ih complete (by simpa [complete] using decodes)
          exact ⟨byte :: tail, rest, rfl, short, bounds.1, bounds.2, fits⟩
      · contradiction

/-! ## First bytes -/

section First

variable {index byte : Nat}

private theorem ofFirst?_two (least : 0xC2 ≤ byte) (most : byte ≤ 0xDF) :
    Sequence.ofFirst? index byte = some ⟨index, 1, byte - 0xC0, 1, 0x80, 0xBF⟩ := by
  simp [Sequence.ofFirst?, least, most]

private theorem ofFirst?_three (least : 0xE0 ≤ byte) (most : byte ≤ 0xEF) :
    Sequence.ofFirst? index byte = some ⟨index, 1, byte - 0xE0, 2,
      if byte = 0xE0 then 0xA0 else 0x80, if byte = 0xED then 0x9F else 0xBF⟩ := by
  unfold Sequence.ofFirst?
  grind

private theorem ofFirst?_four (least : 0xF0 ≤ byte) (most : byte ≤ 0xF4) :
    Sequence.ofFirst? index byte = some ⟨index, 1, byte - 0xF0, 3,
      if byte = 0xF0 then 0x90 else 0x80, if byte = 0xF4 then 0x8F else 0xBF⟩ := by
  unfold Sequence.ofFirst?
  grind

private theorem bounds_of_ofFirst? {sequence : Sequence}
    (starts : Sequence.ofFirst? index byte = some sequence) :
    0xC2 ≤ byte ∧ byte ≤ 0xDF ∨ 0xE0 ≤ byte ∧ byte ≤ 0xEF ∨ 0xF0 ≤ byte ∧ byte ≤ 0xF4 := by
  unfold Sequence.ofFirst? at starts
  grind

private theorem owed_of_ofFirst? {sequence : Sequence}
    (starts : Sequence.ofFirst? index byte = some sequence) : sequence.owed ≠ 0 := by
  unfold Sequence.ofFirst? at starts
  grind

end First

/-! ## Bytes of a character -/

private theorem toNat_ofNat {value : Nat} (valid : value.isValidChar) :
    (Char.ofNat value).toNat = value := by
  rw [Char.ofNat, dif_pos valid]
  rfl

theorem utf8EncodeChar_eq (c : Char) : String.utf8EncodeChar c =
    if c.toNat ≤ 0x7F then [.ofNat c.toNat]
    else if c.toNat ≤ 0x7FF then [.ofNat (c.toNat / 64 % 32 + 0xC0), .ofNat (c.toNat % 64 + 0x80)]
    else if c.toNat ≤ 0xFFFF then
      [.ofNat (c.toNat / 4096 % 16 + 0xE0), .ofNat (c.toNat / 64 % 64 + 0x80),
        .ofNat (c.toNat % 64 + 0x80)]
    else
      [.ofNat (c.toNat / 262144 % 8 + 0xF0), .ofNat (c.toNat / 4096 % 64 + 0x80),
        .ofNat (c.toNat / 64 % 64 + 0x80), .ofNat (c.toNat % 64 + 0x80)] :=
  rfl

private theorem ofNat_eq (byte : UInt8) {value : Nat} (same : value = byte.toNat) :
    .ofNat value = byte := by
  rw [same, UInt8.ofNat_toNat]

section Bytes

variable {first a b c : UInt8}

private theorem utf8EncodeChar_two (least : 0xC2 ≤ first.toNat) (most : first.toNat ≤ 0xDF)
    (ha : 0x80 ≤ a.toNat) (ha' : a.toNat ≤ 0xBF) :
    String.utf8EncodeChar (Char.ofNat ((first.toNat - 0xC0) * 64 + (a.toNat - 0x80))) =
      [first, a] := by
  rw [utf8EncodeChar_eq, toNat_ofNat (.inl (by omega)), if_neg (by omega), if_pos (by omega),
    ofNat_eq first (by omega), ofNat_eq a (by omega)]

private theorem utf8EncodeChar_three (least : 0xE0 ≤ first.toNat) (most : first.toNat ≤ 0xEF)
    (ha : (if first.toNat = 0xE0 then 0xA0 else 0x80) ≤ a.toNat)
    (ha' : a.toNat ≤ if first.toNat = 0xED then 0x9F else 0xBF)
    (hb : 0x80 ≤ b.toNat) (hb' : b.toNat ≤ 0xBF) :
    String.utf8EncodeChar (Char.ofNat (((first.toNat - 0xE0) * 64 + (a.toNat - 0x80)) * 64 +
      (b.toNat - 0x80))) = [first, a, b] := by
  generalize hvalue : ((first.toNat - 0xE0) * 64 + (a.toNat - 0x80)) * 64 + (b.toNat - 0x80) =
    value
  have least' : 0x80 ≤ a.toNat := by split at ha <;> omega
  have most' : a.toNat ≤ 0xBF := by split at ha' <;> omega
  have large : 0x800 ≤ value := by split at ha <;> omega
  have valid : value < 0xD800 ∨ 0xDFFF < value ∧ value < 0x110000 := by split at ha' <;> omega
  rw [utf8EncodeChar_eq, toNat_ofNat valid, if_neg (by omega), if_neg (by omega),
    if_pos (by omega), ofNat_eq first (by omega), ofNat_eq a (by omega), ofNat_eq b (by omega)]

private theorem utf8EncodeChar_four (least : 0xF0 ≤ first.toNat) (most : first.toNat ≤ 0xF4)
    (ha : (if first.toNat = 0xF0 then 0x90 else 0x80) ≤ a.toNat)
    (ha' : a.toNat ≤ if first.toNat = 0xF4 then 0x8F else 0xBF)
    (hb : 0x80 ≤ b.toNat) (hb' : b.toNat ≤ 0xBF) (hc : 0x80 ≤ c.toNat) (hc' : c.toNat ≤ 0xBF) :
    String.utf8EncodeChar (Char.ofNat ((((first.toNat - 0xF0) * 64 + (a.toNat - 0x80)) * 64 +
      (b.toNat - 0x80)) * 64 + (c.toNat - 0x80))) = [first, a, b, c] := by
  generalize hvalue : (((first.toNat - 0xF0) * 64 + (a.toNat - 0x80)) * 64 +
    (b.toNat - 0x80)) * 64 + (c.toNat - 0x80) = value
  have least' : 0x80 ≤ a.toNat := by split at ha <;> omega
  have most' : a.toNat ≤ 0xBF := by split at ha' <;> omega
  have large : 0x10000 ≤ value := by split at ha <;> omega
  have small : value < 0x110000 := by split at ha' <;> omega
  rw [utf8EncodeChar_eq, toNat_ofNat (.inr ⟨by omega, small⟩), if_neg (by omega),
    if_neg (by omega), if_neg (by omega), ofNat_eq first (by omega), ofNat_eq a (by omega),
    ofNat_eq b (by omega), ofNat_eq c (by omega)]

end Bytes

inductive Reads (index : Nat) : List UInt8 → Char → Prop
  | one {byte : UInt8} (small : byte.toNat < 128) : Reads index [byte] (Char.ofNat byte.toNat)
  | more {byte : UInt8} {sequence : Sequence} {tail : List UInt8} (large : 128 ≤ byte.toNat)
    (starts : Sequence.ofFirst? index byte.toNat = some sequence) (fits : sequence.Fits tail) :
    Reads index (byte :: tail) (Char.ofNat (sequence.extend tail).value)

theorem utf8EncodeChar_of_reads {index : Nat} {bytes : List UInt8} {c : Char}
    (reads : Reads index bytes c) : String.utf8EncodeChar c = bytes := by
  cases reads with
  | @one byte small =>
      rw [utf8EncodeChar_eq, toNat_ofNat (.inl (by omega)), if_pos (by omega), UInt8.ofNat_toNat]
  | @more byte sequence tail large starts fits =>
      rcases bounds_of_ofFirst? starts with ⟨least, most⟩ | ⟨least, most⟩ | ⟨least, most⟩
      · obtain rfl := Option.some.inj ((ofFirst?_two least most).symm.trans starts)
        obtain ⟨a, rest, rfl, ha, ha', fits⟩ := exists_of_fits fits rfl
        obtain rfl := eq_nil_of_fits fits rfl
        exact utf8EncodeChar_two least most ha ha'
      · obtain rfl := Option.some.inj ((ofFirst?_three least most).symm.trans starts)
        obtain ⟨a, rest, rfl, ha, ha', fits⟩ := exists_of_fits fits rfl
        obtain ⟨b, rest, rfl, hb, hb', fits⟩ := exists_of_fits fits rfl
        obtain rfl := eq_nil_of_fits fits rfl
        exact utf8EncodeChar_three least most ha ha' hb hb'
      · obtain rfl := Option.some.inj ((ofFirst?_four least most).symm.trans starts)
        obtain ⟨a, rest, rfl, ha, ha', fits⟩ := exists_of_fits fits rfl
        obtain ⟨b, rest, rfl, hb, hb', fits⟩ := exists_of_fits fits rfl
        obtain ⟨c, rest, rfl, hc, hc', fits⟩ := exists_of_fits fits rfl
        obtain rfl := eq_nil_of_fits fits rfl
        exact utf8EncodeChar_four least most ha ha' hb hb' hc hc'

private theorem exists_byte {value : Nat} (small : value < 256) :
    ∃ byte : UInt8, UInt8.ofNat value = byte ∧ byte.toNat = value :=
  ⟨_, rfl, UInt8.toNat_ofNat_of_lt' small⟩

theorem reads_utf8EncodeChar (index : Nat) (c : Char) :
    Reads index (String.utf8EncodeChar c) c := by
  have valid : c.toNat < 0xD800 ∨ 0xDFFF < c.toNat ∧ c.toNat < 0x110000 := c.valid
  have of_value {bytes : List UInt8} {value : Nat} (reads : Reads index bytes (Char.ofNat value))
      (same : value = c.toNat) : Reads index bytes c := by
    rwa [same, Char.ofNat_toNat] at reads
  obtain ⟨last, hlast, hlast'⟩ := @exists_byte (c.toNat % 64 + 0x80) (by omega)
  obtain ⟨middle, hmiddle, hmiddle'⟩ := @exists_byte (c.toNat / 64 % 64 + 0x80) (by omega)
  obtain ⟨second, hsecond, hsecond'⟩ := @exists_byte (c.toNat / 4096 % 64 + 0x80) (by omega)
  rw [utf8EncodeChar_eq, hlast, hmiddle, hsecond]
  split
  · obtain ⟨only, rfl, honly⟩ := @exists_byte c.toNat (by omega)
    exact of_value (.one (by omega)) honly
  split
  · obtain ⟨first, rfl, hfirst⟩ := @exists_byte (c.toNat / 64 % 32 + 0xC0) (by omega)
    refine of_value (.more (by omega) (ofFirst?_two (by omega) (by omega))
      ⟨Nat.one_ne_zero, ?_, ?_, rfl⟩) ?_
    all_goals simp only [Sequence.extend, Sequence.add, List.foldl_cons, List.foldl_nil]; omega
  split
  · obtain ⟨first, rfl, hfirst⟩ := @exists_byte (c.toNat / 4096 % 16 + 0xE0) (by omega)
    refine of_value (.more (by omega) (ofFirst?_three (by omega) (by omega))
      ⟨Nat.succ_ne_zero 1, ?_, ?_, Nat.one_ne_zero, ?_, ?_, rfl⟩) ?_
    · show (if _ then _ else _) ≤ _
      split <;> omega
    · show _ ≤ if _ then _ else _
      split <;> omega
    all_goals simp only [Sequence.extend, Sequence.add, List.foldl_cons, List.foldl_nil]; omega
  · obtain ⟨first, rfl, hfirst⟩ := @exists_byte (c.toNat / 262144 % 8 + 0xF0) (by omega)
    refine of_value (.more (by omega) (ofFirst?_four (by omega) (by omega))
      ⟨Nat.succ_ne_zero 2, ?_, ?_, Nat.succ_ne_zero 1, ?_, ?_, Nat.one_ne_zero, ?_, ?_, rfl⟩) ?_
    · show (if _ then _ else _) ≤ _
      split <;> omega
    · show _ ≤ if _ then _ else _
      split <;> omega
    all_goals simp only [Sequence.extend, Sequence.add, List.foldl_cons, List.foldl_nil]; omega

/-! ## Reading a text -/

theorem decodeFrom_reads {index : Nat} {bytes : List UInt8} {c : Char} (reads : Reads index bytes c)
    (rest : List UInt8) (done : List Char) :
    decodeFrom (bytes ++ rest) index none done =
      decodeFrom rest (index + bytes.length) none (c :: done) := by
  cases reads with
  | one small => rw [List.singleton_append, decodeFrom, if_pos small, List.length_singleton]
  | @more byte sequence tail large starts fits =>
      rw [List.cons_append, decodeFrom, if_neg (by omega), starts, List.length_cons,
        Nat.add_comm tail.length, ← Nat.add_assoc]
      exact decodeFrom_fits (owed_of_ofFirst? starts) fits rest (index + 1) done

private theorem exists_reads {byte : UInt8} {bytes : List UInt8} {index : Nat}
    {done text : List Char} (decodes : decodeFrom (byte :: bytes) index none done = .ok text) :
    ∃ first rest c, byte :: bytes = first ++ rest ∧ Reads index first c := by
  rw [decodeFrom] at decodes
  split at decodes
  · rename_i small
    exact ⟨[byte], bytes, _, rfl, .one small⟩
  · rename_i large
    cases starts : Sequence.ofFirst? index byte.toNat with
    | none => simp [starts] at decodes
    | some sequence =>
        rw [starts] at decodes
        obtain ⟨tail, rest, rfl, fits⟩ := exists_fits (owed_of_ofFirst? starts) decodes
        exact ⟨byte :: tail, rest, _, rfl, .more (by omega) starts fits⟩

private theorem decodeFrom_encoded (text : List Char) (index : Nat) (done : List Char) :
    decodeFrom (text.flatMap String.utf8EncodeChar) index none done =
      .ok (done.reverse ++ text) := by
  induction text generalizing index done with
  | nil => simp [decodeFrom]
  | cons c text ih =>
      rw [List.flatMap_cons, decodeFrom_reads (reads_utf8EncodeChar index c), ih]
      simp

private theorem encoded_of_decodeFrom {bytes : List UInt8} {index : Nat} {done text : List Char}
    (decodes : decodeFrom bytes index none done = .ok text) :
    ∃ more : List Char, bytes = more.flatMap String.utf8EncodeChar := by
  cases bytes with
  | nil => exact ⟨[], rfl⟩
  | cons byte bytes =>
      obtain ⟨first, rest, c, split, reads⟩ := exists_reads decodes
      rw [split, decodeFrom_reads reads] at decodes
      obtain rfl := utf8EncodeChar_of_reads reads
      have shorter : rest.length < (byte :: bytes).length := by
        have := c.utf8Size_pos
        rw [split, List.length_append, String.length_utf8EncodeChar]
        omega
      obtain ⟨more, rfl⟩ := encoded_of_decodeFrom decodes
      exact ⟨c :: more, split⟩
termination_by bytes.length

theorem decode_eq_ok_iff {bytes : List UInt8} {text : String} :
    decode bytes = .ok text ↔ bytes = encode text := by
  constructor
  · intro decodes
    cases read : decodeFrom bytes 0 none [] with
    | error failure => simp [decode, read, Except.map] at decodes
    | ok characters =>
        obtain ⟨more, rfl⟩ := encoded_of_decodeFrom read
        rw [decode, decodeFrom_encoded] at decodes
        obtain rfl : String.ofList more = text := by simpa [Except.map] using decodes
        simp [encode_eq]
  · rintro rfl
    simp [decode, encode_eq, decodeFrom_encoded, Except.map]

end KindDispatch.Utf8
