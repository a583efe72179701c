/-!
White space in the sense of the Unicode White_Space property, and the three things that are done
with it: trimming the ends of a text, splitting a text into words, and collapsing every run to one
space.
-/

namespace Umbra.Text

def isBlank (c : Char) : Bool :=
  let n := c.toNat
  (9 ≤ n && n ≤ 13) || n == 32 || n == 0x85 || n == 0xA0 || n == 0x1680 ||
    (0x2000 ≤ n && n ≤ 0x200A) || n == 0x2028 || n == 0x2029 || n == 0x202F || n == 0x205F ||
    n == 0x3000

def trimStart (s : List Char) : List Char := s.dropWhile isBlank

def trimEnd (s : List Char) : List Char := (s.reverse.dropWhile isBlank).reverse

def trim (s : List Char) : List Char := trimEnd (trimStart s)

/-- The stretches between single blanks, empty ones included. -/
def stretches : List Char → List (List Char)
  | [] => [[]]
  | c :: s =>
    if isBlank c then [] :: stretches s
    else match stretches s with
      | [] => [[c]]
      | w :: ws => (c :: w) :: ws

def words (s : List Char) : List (List Char) := (stretches s).filter fun w => !w.isEmpty

/-- The words of a text with one space between two of them. -/
def collapse (s : List Char) : List Char := [' '].intercalate (words s)

theorem isBlank_space : isBlank ' ' = true := by decide

end Umbra.Text
