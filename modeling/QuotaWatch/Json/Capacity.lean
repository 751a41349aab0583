/-!
**How a growable array grows.**

An array read from a document sits in storage of some capacity. Going past it replaces the storage
by a larger one holding the items so far; shrinking keeps the storage and the items past the end.
The new capacity doubles below 256 items, else grows by a quarter plus 192, never below what is
wanted, and is widened to fill its memory block: fixed size classes up to 32 KiB (with an 8-byte
header for some), whole 8 KiB pages above.
-/

namespace QuotaWatch.Json

/-- The sizes of small memory blocks, in bytes. -/
def sizeClasses : List Nat :=
  [8, 16, 24, 32, 48, 64, 80, 96, 112, 128, 144, 160, 176, 192, 208, 224, 240, 256, 288, 320,
    352, 384, 416, 448, 480, 512, 576, 640, 704, 768, 896, 1024, 1152, 1280, 1408, 1536, 1792,
    2048, 2304, 2688, 3072, 3200, 3456, 4096, 4864, 5376, 6144, 6528, 6784, 6912, 8192, 9472,
    9728, 10240, 10880, 12288, 13568, 14336, 16384, 18432, 19072, 20480, 21760, 24576, 27264,
    28672, 32768]

/-- The bytes usable for `n` bytes of items that hold pointers: the smallest size class that
fits them (with the header a block over 512 bytes carries, which is not usable), or whole
pages for a large block. -/
def blockFor (n : Nat) : Nat :=
  if n ≤ 32768 - 8 then
    let header := if n > 512 then 8 else 0
    match sizeClasses.find? (fun c => n + header ≤ c) with
    | some c => c - header
    | none => n
  else (n + 8191) / 8192 * 8192

/-- The capacity wanted before widening: at least `want` items, from a capacity of `cap`. -/
def nextCapacity (cap want : Nat) : Nat :=
  if want > 2 * cap then want
  else if cap < 256 then 2 * cap
  else grow cap want
where
  /-- Grows by a quarter plus 192 until `want` items fit; at most `fuel` steps. -/
  grow (c want : Nat) : Nat := go want c
  go : Nat → Nat → Nat
    | 0, c => c
    | fuel + 1, c =>
      let c := c + (c + 768) / 4
      if c ≥ want then c else go fuel c

/-- The capacity storage of items of `size` bytes gets when it holds `cap` items and must hold
`want`. -/
def grownCapacity (size cap want : Nat) : Nat :=
  if size = 0 then nextCapacity cap want
  else blockFor (nextCapacity cap want * size) / size

theorem grownCapacity_first : grownCapacity 56 0 1 = 1 := by decide

end QuotaWatch.Json
