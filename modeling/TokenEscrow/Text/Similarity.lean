/-!
# Similar texts

A measure between `0` and `1` of how similar two texts are, for guessing what
somebody meant to write (`Similarity.best?`). Texts are similar when they share
characters at nearby places, in nearly the same order, and more so the longer
the beginning that they have in common.
-/

namespace TokenEscrow

namespace Similarity

/-- What was found while looking for shared characters. -/
structure Shared where
  /-- for each place of the second text, whether it was used -/
  used : List Bool
  /-- number of shared characters -/
  count : Nat := 0
  /-- shared characters that stand before the one found last -/
  swaps : Nat := 0
  /-- place of the one found last -/
  last : Nat := 0

/-- The first unused place between two bounds that holds a character. -/
def place? (c : Char) (low high : Nat) (text : List Char) (used : List Bool) : Option Nat :=
  (text.zip used).zipIdx.findSome? fun ((d, taken), i) =>
    if low ≤ i ∧ i ≤ high ∧ d = c ∧ !taken then some i else none

/-- Looks for the character at a place of the first text. -/
def Shared.look (range : Nat) (text : List Char) (s : Shared) (at_ : Char × Nat) : Shared :=
  match place? at_.1 (at_.2 - range) (min (text.length - 1) (at_.2 + range)) text s.used with
  | none => s
  | some i => {
      used := s.used.set i true
      count := s.count + 1
      swaps := if i < s.last then s.swaps + 1 else s.swaps
      last := i }

/-- Similarity by shared characters alone. -/
def byCharacters (a b : List Char) : Float :=
  if a == b then 1.0
  else if a.isEmpty || b.isEmpty || (a.length == 1 && b.length == 1) then 0.0
  else
    let range := max a.length b.length / 2 - 1
    let s := a.zipIdx.foldl (Shared.look range b) { used := b.map fun _ => false }
    if s.count = 0 then 0.0
    else
      let count := s.count.toFloat
      (1.0 / 3.0) * (count / a.length.toFloat + count / b.length.toFloat
        + (count - s.swaps.toFloat) / count)

/-- Length of the beginning that two texts have in common. -/
def commonLength : List Char → List Char → Nat
  | c :: cs, d :: ds => if c = d then commonLength cs ds + 1 else 0
  | _, _ => 0

/-- Similarity of two texts. -/
def score (a b : String) : Float :=
  let base := byCharacters a.toList b.toList
  let total := base + 0.1 * (commonLength a.toList b.toList).toFloat * (1.0 - base)
  if total ≤ 1.0 then total else 1.0

/-- Below this, texts are not similar enough for a guess. -/
def threshold : Float := 0.8

/-- The candidate most similar to a text, the first of several, if one is similar enough. -/
def best? (text : String) (candidates : List String) : Option String :=
  let better (found : Option (Float × String)) (candidate : String) : Option (Float × String) :=
    let s := score text candidate
    if s ≤ threshold then found
    else match found with
      | none => some (s, candidate)
      | some (t, _) => if t < s then some (s, candidate) else found
  (candidates.foldl better none).map Prod.snd

end Similarity

end TokenEscrow
