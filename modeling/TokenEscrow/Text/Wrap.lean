/-!
# Lines of limited width

Text is cut at blanks, and after hyphens between letters or digits. Each line
takes as much as fits; what is too long to fit anywhere stands on a line of its
own. Blanks inside a line are kept, those at a cut are dropped.
-/

namespace TokenEscrow

namespace Wrap

/-- A piece of text that is not cut, and the number of blanks after it. -/
structure Piece where
  text : List Char
  blanks : Nat

/-- Cuts a word after its inner hyphens; `before` says whether a letter or digit comes before. -/
def cutWord (before : Bool) : List Char → List (List Char)
  | [] => [[]]
  | c :: rest =>
    let next := cutWord c.isAlphanum rest
    let after : Bool := match rest with
      | d :: _ => d.isAlphanum
      | [] => false
    if c = '-' ∧ before ∧ after then [c] :: next
    else match next with
      | [] => [[c]]
      | word :: more => (c :: word) :: more

/-- The pieces of words, of which `n` blanks follow each. -/
def ofWord (word : List Char) (blanks : Nat) : List Piece :=
  match (cutWord false word).reverse with
  | [] => []
  | final :: others => (⟨final, blanks⟩ :: others.map fun w => ⟨w, 0⟩).reverse

/-- The pieces of a text without line breaks, after the characters of an unfinished word. -/
def piecesFrom (word : List Char) (blanks : Nat) : List Char → List Piece
  | [] => ofWord word.reverse blanks
  | c :: rest =>
    if c = ' ' then piecesFrom word (blanks + 1) rest
    else if 0 < blanks then ofWord word.reverse blanks ++ piecesFrom [c] 0 rest
    else piecesFrom (c :: word) 0 rest

/-- Fills lines with pieces, after a line begun with `line` that `gap` blanks follow. -/
def fill (width : Nat) (line : List Char) (gap : Nat) : List Piece → List (List Char)
  | [] => [line]
  | p :: rest =>
    if line.isEmpty then fill width p.text p.blanks rest
    else if line.length + gap + p.text.length ≤ width then
      fill width (line ++ List.replicate gap ' ' ++ p.text) p.blanks rest
    else line :: fill width p.text p.blanks rest

/-- The lines of a text. -/
def lines (width : Nat) (text : String) : List String :=
  (fill width [] 0 (piecesFrom [] 0 text.toList)).map String.ofList

end Wrap

end TokenEscrow
