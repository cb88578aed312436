/-!
The bytes that encode characters: one byte up to 0x7F, two up to 0x7FF, three up to 0xFFFF and four
beyond. All bytes behind the first one carry six bits each.
-/

namespace TypeGuard.Text

def encode (n : Nat) : List Nat :=
  if n < 0x80 then [n]
  else if n < 0x800 then [0xC0 + n / 64, 0x80 + n % 64]
  else if n < 0x10000 then [0xE0 + n / 4096, 0x80 + n / 64 % 64, 0x80 + n % 64]
  else [0xF0 + n / 262144, 0x80 + n / 4096 % 64, 0x80 + n / 64 % 64, 0x80 + n % 64]

/-- Cuts a range where the number of bytes changes, and leaves out the surrogates. -/
def cutByLength (r : Nat × Nat) : List (Nat × Nat) :=
  [(0, 0x7F), (0x80, 0x7FF), (0x800, 0xD7FF), (0xE000, 0xFFFF), (0x10000, 0x10FFFF)].filterMap
    fun (low, high) =>
      if max r.1 low ≤ min r.2 high then some (max r.1 low, min r.2 high) else none

/-- Cuts a range at multiples of `block`, so that every part lies inside one block or is made up of
whole blocks. -/
def cutByBlock (block : Nat) (r : Nat × Nat) : List (Nat × Nat) :=
  if r.1 / block = r.2 / block then [r]
  else
    let first := (r.1 + block - 1) / block * block
    let last := (r.2 + 1) / block * block
    (if r.1 < first then [(r.1, first - 1)] else [])
      ++ (if first < last then [(first, last - 1)] else [])
      ++ (if last ≤ r.2 then [(last, r.2)] else [])

/-- The encodings of the characters of a range, as sequences of ranges of bytes: a text is one of
the encodings if each of its bytes lies in the range at its place in one sequence. -/
def byteRanges (r : Nat × Nat) : List (List (Nat × Nat)) :=
  (cutByLength r).flatMap fun r =>
    if r.2 < 0x80 then [[r]]
    else
      let parts := ((cutByBlock 64 r).flatMap (cutByBlock 4096)).flatMap (cutByBlock 262144)
      parts.map fun (first, last) => (encode first).zip (encode last)

end TypeGuard.Text
