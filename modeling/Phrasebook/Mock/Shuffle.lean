/-!
A shuffle that is fixed by the text it shuffles.

The text is hashed to 64 bits, the hash is stretched to a 256 bit key, and the key drives a stream
cipher whose words choose the swaps. Equal texts are shuffled alike, on every machine and in every
run.
-/

namespace Phrasebook.Mock

/-- The FNV-1a hash of a sequence of bytes. -/
def hashBytes (bytes : List UInt8) : UInt64 :=
  bytes.foldl (fun hash byte => (hash ^^^ byte.toUInt64) * 0x100000001b3) 0xcbf29ce484222325

/-- One step of the generator that stretches the seed. -/
def stretchStep (state : UInt64) : UInt64 := state * 6364136223846793005 + 11634580027462260723

/-- The word a generator state stands for: its high bits, mixed and rotated. -/
def stretchWord (state : UInt64) : UInt32 :=
  let mixed := (((state >>> 18) ^^^ state) >>> 27).toUInt32
  let turn := (state >>> 59).toUInt32
  (mixed >>> turn) ||| (mixed <<< ((32 - turn) % 32))

/-- `n` words of key material. -/
def stretch : Nat → UInt64 → List UInt32
  | 0, _ => []
  | n + 1, state => stretchWord (stretchStep state) :: stretch n (stretchStep state)

def rotateLeft (x : UInt32) (n : UInt32) : UInt32 := (x <<< n) ||| (x >>> (32 - n))

/-- The four words that a quarter round mixes. -/
structure Quad where
  a : UInt32
  b : UInt32
  c : UInt32
  d : UInt32

def Quad.mix (q : Quad) : Quad :=
  let a := q.a + q.b
  let d := rotateLeft (q.d ^^^ a) 16
  let c := q.c + d
  let b := rotateLeft (q.b ^^^ c) 12
  let a := a + b
  let d := rotateLeft (d ^^^ a) 8
  let c := c + d
  let b := rotateLeft (b ^^^ c) 7
  ⟨a, b, c, d⟩

/-- The cipher state: four rows of four words, kept by columns. -/
structure Block where
  c0 : Quad
  c1 : Quad
  c2 : Quad
  c3 : Quad

/-- A column round and a diagonal round. -/
def Block.doubleRound (s : Block) : Block :=
  let c0 := s.c0.mix
  let c1 := s.c1.mix
  let c2 := s.c2.mix
  let c3 := s.c3.mix
  let d0 := Quad.mix ⟨c0.a, c1.b, c2.c, c3.d⟩
  let d1 := Quad.mix ⟨c1.a, c2.b, c3.c, c0.d⟩
  let d2 := Quad.mix ⟨c2.a, c3.b, c0.c, c1.d⟩
  let d3 := Quad.mix ⟨c3.a, c0.b, c1.c, c2.d⟩
  ⟨⟨d0.a, d3.b, d2.c, d1.d⟩, ⟨d1.a, d0.b, d3.c, d2.d⟩,
   ⟨d2.a, d1.b, d0.c, d3.d⟩, ⟨d3.a, d2.b, d1.c, d0.d⟩⟩

def Block.rounds : Nat → Block → Block
  | 0, s => s
  | n + 1, s => rounds n s.doubleRound

def Block.add (s t : Block) : Block :=
  let sum (p q : Quad) : Quad := ⟨p.a + q.a, p.b + q.b, p.c + q.c, p.d + q.d⟩
  ⟨sum s.c0 t.c0, sum s.c1 t.c1, sum s.c2 t.c2, sum s.c3 t.c3⟩

/-- The words of a block, row by row. -/
def Block.words (s : Block) : List UInt32 :=
  [s.c0.a, s.c1.a, s.c2.a, s.c3.a, s.c0.b, s.c1.b, s.c2.b, s.c3.b,
   s.c0.c, s.c1.c, s.c2.c, s.c3.c, s.c0.d, s.c1.d, s.c2.d, s.c3.d]

/-- Eight words of key. -/
structure Key where
  k0 : UInt32
  k1 : UInt32
  k2 : UInt32
  k3 : UInt32
  k4 : UInt32
  k5 : UInt32
  k6 : UInt32
  k7 : UInt32

def Key.ofSeed (seed : UInt64) : Key :=
  match stretch 8 seed with
  | [a, b, c, d, e, f, g, h] => ⟨a, b, c, d, e, f, g, h⟩
  | _ => ⟨0, 0, 0, 0, 0, 0, 0, 0⟩

/-- The key stream block with the given number: ChaCha with twelve rounds. -/
def Key.block (k : Key) (counter : UInt64) : List UInt32 :=
  let start : Block :=
    ⟨⟨0x61707865, k.k0, k.k4, counter.toUInt32⟩,
     ⟨0x3320646e, k.k1, k.k5, (counter >>> 32).toUInt32⟩,
     ⟨0x79622d32, k.k2, k.k6, 0⟩,
     ⟨0x6b206574, k.k3, k.k7, 0⟩⟩
  ((start.rounds 6).add start).words

/-- A place in the key stream: the words left of the current block and the number of the next. -/
structure Stream where
  key : Key
  pending : List UInt32
  counter : UInt64

def Stream.ofSeed (seed : UInt64) : Stream := ⟨.ofSeed seed, [], 0⟩

/-- The next word of the stream. -/
def Stream.next (s : Stream) : UInt32 × Stream :=
  match s.pending with
  | w :: rest => (w, { s with pending := rest })
  | [] =>
      match s.key.block s.counter with
      | w :: rest => (w, ⟨s.key, rest, s.counter + 1⟩)
      | [] => (0, s)

/-- The number of leading zero bits of `n` among 32. -/
def leadingZeros (n : Nat) : Nat := if n = 0 then 32 else 31 - n.log2

/-- The number of words. -/
def wordCount : Nat := 0x100000000

/-- Words whose low product with `n` exceeds this bound are drawn again. -/
def acceptBound (n : Nat) : Nat := ((n <<< leadingZeros n) % wordCount + wordCount - 1) % wordCount

/-- Draws an index below `n`. A word is rejected with probability below one half, so the bound on
the number of draws is never reached by a stream that looks random. -/
def Stream.index (n : Nat) : Nat → Stream → Nat × Stream
  | 0, s => (0, s)
  | tries + 1, s =>
      let (w, s) := s.next
      let product := w.toNat * n
      if product % wordCount ≤ acceptBound n then (product / wordCount, s) else index n tries s

/-- Walks from entry `i` down to the second and swaps each with one at or before it. -/
def shuffleFrom : Nat → Stream → Array Char → Array Char
  | 0, _, cs => cs
  | i + 1, s, cs =>
      let (j, s) := s.index (i + 2) 1024
      shuffleFrom i s (cs.swapIfInBounds (i + 1) j)

/-- The characters of a text in the order that the text itself fixes. -/
def shuffle (text : String) : String :=
  let cs := text.toList.toArray
  String.ofList (shuffleFrom (cs.size - 1) (.ofSeed (hashBytes text.toUTF8.toList)) cs).toList

/-- The placeholder for a text in a locale: the locale, a space and the shuffled text. -/
def shuffled (locale text : String) : String := locale ++ " " ++ shuffle text

end Phrasebook.Mock
