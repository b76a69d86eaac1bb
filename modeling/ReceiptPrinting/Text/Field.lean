/-!
# Fields of a fixed width

A printed field has a width in columns, and every character takes one column. A text that is too
long for its field keeps its first characters and ends in a point, which shows the reader that
something is missing; a shorter one is filled up with spaces.

* `fitLeft_length`, `fitRight_length`: a fitted text has exactly the width of its field.
-/

namespace ReceiptPrinting.Text

/-- The columns a text takes. -/
def width (s : String) : Nat := s.toList.length

/-- `cs` cut to `w` columns, the last of which is a point. No columns leave no room for a point. -/
def cut (cs : List Char) : Nat → List Char
  | 0 => []
  | w + 1 => cs.take w ++ ['.']

/-- `n` spaces. -/
def spaces (n : Nat) : List Char := List.replicate n ' '

/-- `cs` at the left of a field of `w` columns. -/
def fitLeftChars (cs : List Char) (w : Nat) : List Char :=
  if w < cs.length then cut cs w else cs ++ spaces (w - cs.length)

/-- `cs` at the right of a field of `w` columns. -/
def fitRightChars (cs : List Char) (w : Nat) : List Char :=
  if w < cs.length then cut cs w else spaces (w - cs.length) ++ cs

/-- `s` at the left of a field of `w` columns. -/
def fitLeft (s : String) (w : Nat) : String := String.ofList (fitLeftChars s.toList w)

/-- `s` at the right of a field of `w` columns. -/
def fitRight (s : String) (w : Nat) : String := String.ofList (fitRightChars s.toList w)

/-! ## The width of a fitted text -/

theorem cut_length {cs : List Char} {w : Nat} (h : w < cs.length) : (cut cs w).length = w := by
  cases w with
  | zero => rfl
  | succ w => simp [cut]; omega

@[simp] theorem fitLeftChars_length (cs : List Char) (w : Nat) :
    (fitLeftChars cs w).length = w := by
  unfold fitLeftChars
  split
  · exact cut_length ‹_›
  · simp [spaces]; omega

@[simp] theorem fitRightChars_length (cs : List Char) (w : Nat) :
    (fitRightChars cs w).length = w := by
  unfold fitRightChars
  split
  · exact cut_length ‹_›
  · simp [spaces]; omega

@[simp] theorem fitLeft_length (s : String) (w : Nat) : (fitLeft s w).toList.length = w := by
  simp [fitLeft]

@[simp] theorem fitRight_length (s : String) (w : Nat) : (fitRight s w).toList.length = w := by
  simp [fitRight]

end ReceiptPrinting.Text
