/-!
# The Mersenne Twister

A generator of 32-bit words with a state of 624 of them. A seed is a whole
number of any size; its sign does not matter. From the words the generator draws
whole numbers below a bound, each equally likely, and elements of lists.
-/

namespace PlantDrawing

/-- The state: the words of the present round, and how many of them have been
    given out. -/
structure Twister where
  words : Vector UInt32 624
  used : Nat

namespace Twister

/-! ## Seeding -/

/-- A word mixed with its own two highest bits. -/
def mix (word : UInt32) : UInt32 :=
  word ^^^ (word >>> 30)

/-- The words that every seed begins with. -/
def initialWords : Vector UInt32 624 :=
  (List.range 623).foldl
    (fun words i =>
      words.set ((i + 1) % 624) (1812433253 * mix words[i % 624] + (i + 1).toUInt32) (by omega))
    ((Vector.replicate 624 0).set 0 19650218)

/-- Replaces the word after position `step`, counted around the 623 words behind
    the first, by a function of its old value and its mixed predecessor. After
    the last word the first one becomes a copy of it. -/
def absorb (step : Nat) (update : UInt32 → UInt32 → UInt32) (words : Vector UInt32 624) :
    Vector UInt32 624 :=
  let before := step % 623
  let word := update words[before + 1] (mix words[before])
  let words := words.set (before + 1) word
  if before = 622 then words.set 0 word else words

/-- The words of a number, the lowest 32 bits first; zero has one word. -/
def keyWords (n : Nat) : List UInt32 :=
  if n < 0x100000000 then [n.toUInt32]
  else (n % 0x100000000).toUInt32 :: keyWords (n / 0x100000000)

/-- The generator of a seed. -/
def ofSeed (seed : Int) : Twister :=
  let key := (keyWords seed.natAbs).toArray
  let first := max 624 key.size
  let keyed := (List.range first).foldl
    (fun words step =>
      let place := step % key.size
      absorb step (fun old before =>
        (old ^^^ (before * 1664525)) + key.getD place 0 + place.toUInt32) words)
    initialWords
  let mixed := (List.range 623).foldl
    (fun words i =>
      let step := first + i
      absorb step (fun old before =>
        (old ^^^ (before * 1566083941)) - (step % 623 + 1).toUInt32) words)
    keyed
  ⟨mixed.set 0 0x80000000, 624⟩

/-! ## Words -/

/-- The next round of words, each made of the one before it, its neighbour and
    the one 397 places on. -/
def renew (words : Vector UInt32 624) : Vector UInt32 624 :=
  (List.range 624).foldl
    (fun words i =>
      let joined := (words[i % 624] &&& 0x80000000) ||| (words[(i + 1) % 624] &&& 0x7FFFFFFF)
      let folded := if joined % 2 = 0 then joined >>> 1 else (joined >>> 1) ^^^ 0x9908B0DF
      words.set (i % 624) (words[(i + 397) % 624] ^^^ folded) (by omega))
    words

/-- The last scrambling of a word before it is given out. -/
def temper (word : UInt32) : UInt32 :=
  let word := word ^^^ (word >>> 11)
  let word := word ^^^ ((word <<< 7) &&& 0x9D2C5680)
  let word := word ^^^ ((word <<< 15) &&& 0xEFC60000)
  word ^^^ (word >>> 18)

/-- The next word. -/
def next (twister : Twister) : UInt32 × Twister :=
  if twister.used < 624 then
    (temper twister.words[twister.used % 624], { twister with used := twister.used + 1 })
  else
    let words := renew twister.words
    (temper words[0], ⟨words, 1⟩)

/-! ## Draws -/

/-- The highest `count` bits of the next word, at most 32 of them. -/
def bits (count : Nat) (twister : Twister) : Nat × Twister :=
  let (word, rest) := twister.next
  (word.toNat >>> (32 - count), rest)

/-- Draws until a number is below the bound. Each draw succeeds at least half of
    the time; after all attempts the last number is cut to size. -/
def drawBelow (bound count : Nat) : (attempts : Nat) → Twister → Nat × Twister
  | 0, twister =>
    let (drawn, rest) := twister.bits count
    (drawn % bound, rest)
  | attempts + 1, twister =>
    let (drawn, rest) := twister.bits count
    if drawn < bound then (drawn, rest) else drawBelow bound count attempts rest

/-- More attempts than a machine can make. -/
def manyAttempts : Nat := Nat.pow 2 62

/-- A whole number below a positive bound: as many bits as the bound has, drawn
    again for as long as they are too large. -/
def below (bound : Nat) (twister : Twister) : Nat × Twister :=
  drawBelow bound (bound.log2 + 1) manyAttempts twister

/-- Every number drawn is below the bound. -/
theorem drawBelow_lt {bound : Nat} (positive : 0 < bound) (count attempts : Nat)
    (twister : Twister) : (drawBelow bound count attempts twister).1 < bound := by
  induction attempts generalizing twister with
  | zero => exact Nat.mod_lt _ positive
  | succ attempts ih =>
    simp only [drawBelow]
    split
    · assumption
    · exact ih _

/-- An element of a list that is not empty; the default stands for none. -/
def choose {α : Type} (items : List α) (default : α) (twister : Twister) : α × Twister :=
  let (place, rest) := twister.below items.length
  (items.getD place default, rest)

end Twister

end PlantDrawing
