/-!
# Heap accounting

A `HeapMeter` keeps two 64-bit counters: the bytes in use, and the most that were in use since the
last reset.  It sees the calls to the allocator, each with the sizes the caller names and with what
the system answers, and nothing else: it keeps no list of blocks.

A `Heap` pairs a meter with the live blocks it accounts for, so that a whole history of allocations,
resizings and releases can be followed.
-/

namespace KindDispatch

/-! ## The meter -/

inductive HeapChange where
  | grow (bytes : UInt64)
  | shrink (bytes : UInt64)
  /-- Starts the peak anew from the bytes in use. -/
  | resetPeak
  | keep
deriving DecidableEq, Repr

/-- Two counters of bytes; the one of the bytes in use wraps around at `2 ^ 64`. -/
structure HeapMeter where
  /-- Bytes in use. -/
  current : UInt64
  /-- Most bytes in use since the last reset. -/
  peak : UInt64
deriving DecidableEq, Repr, Inhabited

namespace HeapMeter

def zero : HeapMeter := ⟨0, 0⟩

def update (meter : HeapMeter) : HeapChange → HeapMeter
  | .grow bytes =>
    let now := meter.current + bytes
    ⟨now, max meter.peak now⟩
  | .shrink bytes => { meter with current := meter.current - bytes }
  | .resetPeak => { meter with peak := meter.current }
  | .keep => meter

end HeapMeter

/-- A call to the allocator.  The system answers a request for memory, be it zeroed or not, with a
block, or with none if it cannot grant it; a block that is resized may come to lie elsewhere. -/
inductive HeapCall where
  | allocate (size : UInt64) (answer : Option Nat)
  | resize (block : Nat) (old new : UInt64) (answer : Option Nat)
  | release (block : Nat) (size : UInt64)
  | resetPeak
deriving DecidableEq, Repr

def HeapCall.change : HeapCall → HeapChange
  | allocate size (some _) => .grow size
  | resize _ old new (some _) => if old ≤ new then .grow (new - old) else .shrink (old - new)
  | allocate _ none | resize _ _ _ none => .keep
  | release _ size => .shrink size
  | resetPeak => .resetPeak

/-! ## The heap -/

structure Heap where
  blocks : List (Nat × UInt64)
  meter : HeapMeter
deriving DecidableEq, Repr, Inhabited

/-- One operation on the blocks of a heap, by names that they keep.  A request for memory is granted
or not. -/
inductive HeapStep where
  | allocate (block : Nat) (size : UInt64) (granted : Bool)
  | resize (block : Nat) (size : UInt64) (granted : Bool)
  | release (block : Nat)
  | resetPeak
deriving DecidableEq, Repr

namespace Heap

def empty : Heap := ⟨[], .zero⟩

def size? (heap : Heap) (block : Nat) : Option UInt64 := heap.blocks.lookup block

def without (heap : Heap) (block : Nat) : List (Nat × UInt64) :=
  heap.blocks.filter (·.1 != block)

def blocksAfter (heap : Heap) : HeapCall → List (Nat × UInt64)
  | .allocate size (some block) => (block, size) :: heap.without block
  | .resize block _ new (some moved) => (moved, new) :: heap.without block
  | .release block _ => heap.without block
  | .allocate _ none | .resize _ _ _ none | .resetPeak => heap.blocks

def perform (heap : Heap) (call : HeapCall) : Heap :=
  ⟨heap.blocksAfter call, heap.meter.update call.change⟩

def performAll (heap : Heap) (calls : List HeapCall) : Heap := calls.foldl perform heap

def call? (heap : Heap) : HeapStep → Option HeapCall
  | .allocate block size granted => some (.allocate size (if granted then some block else none))
  | .resize block size granted => (heap.size? block).map fun old =>
      .resize block old size (if granted then some block else none)
  | .release block => (heap.size? block).map (.release block)
  | .resetPeak => some .resetPeak

def step (heap : Heap) (step : HeapStep) : Heap := (heap.call? step).elim heap heap.perform

def history (heap : Heap) : List HeapStep → List Heap
  | [] => []
  | step :: rest => heap.step step :: history (heap.step step) rest

end Heap

end KindDispatch
