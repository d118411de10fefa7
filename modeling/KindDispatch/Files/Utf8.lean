/-!
# Reading UTF-8

Bytes are read one at a time.  A byte that cannot continue the sequence it stands in makes the text
invalid; a text that ends inside a sequence is incomplete.
-/

namespace KindDispatch.Utf8

structure Failure where
  /-- The byte the offending sequence starts at. -/
  index : Nat
  /-- Bytes of the sequence up to the one that does not fit; none if the text ends inside it. -/
  length : Option Nat
deriving DecidableEq, Repr, Inhabited

def Failure.message (failure : Failure) : String :=
  match failure.length with
  | some length => s!"invalid utf-8 sequence of {length} bytes from index {failure.index}"
  | none => s!"incomplete utf-8 byte sequence from index {failure.index}"

structure Sequence where
  /-- The byte it starts at. -/
  index : Nat
  /-- Bytes read. -/
  length : Nat
  /-- What the bytes read stand for. -/
  value : Nat
  /-- Bytes that are missing. -/
  owed : Nat
  /-- Bounds of the next byte. -/
  low : Nat
  high : Nat
deriving Repr, Inhabited

namespace Sequence

/-- The sequence a byte at `index` starts; a byte below 128 stands for itself. -/
def ofFirst? (index byte : Nat) : Option Sequence :=
  let make (mark owed low high : Nat) : Option Sequence :=
    some ⟨index, 1, byte - mark, owed, low, high⟩
  if 0xC2 ≤ byte && byte ≤ 0xDF then make 0xC0 1 0x80 0xBF
  else if byte = 0xE0 then make 0xE0 2 0xA0 0xBF
  else if byte = 0xED then make 0xE0 2 0x80 0x9F
  else if 0xE1 ≤ byte && byte ≤ 0xEF then make 0xE0 2 0x80 0xBF
  else if byte = 0xF0 then make 0xF0 3 0x90 0xBF
  else if 0xF1 ≤ byte && byte ≤ 0xF3 then make 0xF0 3 0x80 0xBF
  else if byte = 0xF4 then make 0xF0 3 0x80 0x8F
  else none

def add (sequence : Sequence) (byte : Nat) : Sequence :=
  { sequence with
    length := sequence.length + 1
    value := sequence.value * 64 + (byte - 0x80)
    owed := sequence.owed - 1
    low := 0x80
    high := 0xBF }

end Sequence

/-- Reads bytes from `index` on; `sequence` is the one read in part, `done` holds the characters
read, the last one first. -/
def decodeFrom : List UInt8 → (index : Nat) → Option Sequence → (done : List Char) →
    Except Failure (List Char)
  | [], _, none, done => .ok done.reverse
  | [], _, some sequence, _ => .error ⟨sequence.index, none⟩
  | byte :: rest, index, none, done =>
    if byte.toNat < 128 then decodeFrom rest (index + 1) none (Char.ofNat byte.toNat :: done)
    else
      match Sequence.ofFirst? index byte.toNat with
      | some sequence => decodeFrom rest (index + 1) (some sequence) done
      | none => .error ⟨index, some 1⟩
  | byte :: rest, index, some sequence, done =>
    if sequence.low ≤ byte.toNat && byte.toNat ≤ sequence.high then
      let sequence := sequence.add byte.toNat
      if sequence.owed = 0 then
        decodeFrom rest (index + 1) none (Char.ofNat sequence.value :: done)
      else decodeFrom rest (index + 1) (some sequence) done
    else .error ⟨sequence.index, some sequence.length⟩

def decode (bytes : List UInt8) : Except Failure String :=
  (decodeFrom bytes 0 none []).map String.ofList

end KindDispatch.Utf8
