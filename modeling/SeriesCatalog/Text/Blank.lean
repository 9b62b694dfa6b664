import SeriesCatalog.Text.Ranges

/-! Blank characters and trimming. Blank is every character that Unicode 14 calls white space or that
separates paragraphs, segments or blocks, so the four information separators belong to it. -/

namespace SeriesCatalog.Text

def blankRanges : List (Nat × Nat) :=
  [(9, 13), (28, 32), (133, 133), (160, 160), (5760, 5760), (8192, 8202), (8232, 8233),
   (8239, 8239), (8287, 8287), (12288, 12288)]

def isBlank (c : Char) : Bool := inRanges blankRanges c

/-- A list without the elements at its two ends that satisfy `p`. -/
def trimBy {α : Type} (p : α → Bool) (xs : List α) : List α :=
  ((xs.dropWhile p).reverse.dropWhile p).reverse

/-- A text without the blanks at its two ends. -/
def trim (s : String) : String := String.ofList (trimBy isBlank s.toList)

end SeriesCatalog.Text
