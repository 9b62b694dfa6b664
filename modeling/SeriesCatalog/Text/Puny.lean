/-! Punycode: a text of any characters written with ASCII letters, digits and hyphens. The ASCII characters
come first. After them each other character is told, in the order of code points, by the distance to it from
the one before, counted over the places and code points that are passed; the distances are numerals to the
base 36 whose last digit is known by a threshold, which adapts to the size of the distances. -/

namespace SeriesCatalog.Text.Puny

/-- A digit: the letters stand for 0 to 25, the figures for 26 to 35. -/
def digit (d : Nat) : Char := Char.ofNat (if d < 26 then 97 + d else 22 + d)

/-- The least digit at a position that is not the last one. -/
def threshold (bias position : Nat) : Nat := min 26 (max 1 (position - bias))

theorem threshold_pos (bias position : Nat) : 0 < threshold bias position := by
  simp only [threshold]
  omega

def writeDistance (bias position distance : Nat) : List Char :=
  let least := threshold bias position
  if distance < least then [digit distance]
  else
    digit (least + (distance - least) % (36 - least))
      :: writeDistance bias (position + 36) ((distance - least) / (36 - least))
termination_by distance
decreasing_by
  have := threshold_pos bias position
  have := Nat.div_le_self (distance - threshold bias position) (36 - threshold bias position)
  omega

def biasOf (size : Nat) : Nat :=
  if 455 < size then 36 + biasOf (size / 35) else 36 * size / (size + 38)
termination_by size

/-- The bias after a distance, by the number of characters that are written. The first distance, which is
mostly great, counts less. -/
def adapt (isFirst : Bool) (distance written : Nat) : Nat :=
  let size := distance / (if isFirst then 700 else 2)
  biasOf (size + size / written)

/-- What is written so far: the distances, the one that is being counted, the bias and the number of
characters. -/
structure Progress where
  out : List Char
  distance : Nat
  bias : Nat
  written : Nat

/-- Passes a character on the way to those of code point `n`, the first of which follows `basic` others. -/
def Progress.pass (basic n : Nat) (p : Progress) (c : Nat) : Progress :=
  if c < n then { p with distance := p.distance + 1 }
  else if c = n then
    { out := p.out ++ writeDistance p.bias 36 p.distance
      distance := 0
      bias := adapt (p.written = basic) p.distance (p.written + 1)
      written := p.written + 1 }
  else p

/-- The distances to the characters of the code points `wide`, from code point `n` on. -/
def writeAll (basic : Nat) (codes : List Nat) : List Nat → Nat → Progress → List Char
  | [], _, p => p.out
  | m :: wide, n, p =>
    let p := { p with distance := p.distance + (m - n) * (p.written + 1) }
    let p := codes.foldl (Progress.pass basic m) p
    writeAll basic codes wide (m + 1) { p with distance := p.distance + 1 }

def encode (cs : List Char) : List Char :=
  let codes := cs.map Char.toNat
  let basic := cs.filter (·.toNat < 128)
  let wide := (codes.filter (128 ≤ ·)).eraseDups.mergeSort
  basic ++ (if basic.isEmpty then [] else ['-'])
    ++ writeAll basic.length codes wide 128 ⟨[], 0, 72, basic.length⟩

end SeriesCatalog.Text.Puny
