/-!
# The texts given for an option

An option is written as `--word=text` or as `--word text`, where the text does
not start with a hyphen. `given` reads off a command line, from left to right
and with nothing else in mind, which texts were written for one option.
-/

namespace TokenEscrow

/-! ## Words -/

/-- A word behind two hyphens. -/
def isLong (word : String) : Bool := word.toList.take 2 == ['-', '-']

/-- A word that starts an option. A hyphen alone does not. -/
def startsOption (word : String) : Bool :=
  word.toList.head? == some '-' && decide (2 ≤ word.toList.length)

/-- What follows the hyphens. -/
def afterHyphens (word : String) : List Char := word.toList.dropWhile (· == '-')

/-- The word of an option, which ends at an equals sign. -/
def longName (word : String) : String :=
  String.ofList ((afterHyphens word).takeWhile (· != '='))

/-- What follows the first equals sign, if there is one. -/
def afterEquals? (word : String) : Option (List Char) :=
  ((afterHyphens word).dropWhile (· != '=')).tail?

/-- A text without the equals signs in front of it. -/
def withoutEquals (text : List Char) : String := String.ofList (text.dropWhile (· == '='))

/-- The text behind equals signs. -/
def inlineText? (word : String) : Option String := (afterEquals? word).map withoutEquals

/-- A word that names an option. -/
def namesOption (long word : String) : Bool := isLong word && longName word == long

/-- The text that a word holds for an option, which may be waiting for one. -/
def textIn (long : String) (waiting : Bool) (word : String) : Option String :=
  if namesOption long word then inlineText? word
  else if waiting && !startsOption word then some word
  else none

/-- Whether the option waits for a text after a word. -/
def waitsAfter (long word : String) : Bool := namesOption long word && (inlineText? word).isNone

/-- The texts for an option, which may be waiting for one. -/
def givenFrom (long : String) : Bool → List String → List String
  | _, [] => []
  | waiting, word :: rest =>
    (textIn long waiting word).toList ++ givenFrom long (waitsAfter long word) rest

/-- The texts given for an option. -/
def given (long : String) (words : List String) : List String := givenFrom long false words

example : given "mint" ["--mint", "A", "-v", "--amount=2"] = ["A"] := by decide

example : given "mint" ["--mint=A", "B", "--mint", "-v", "C"] = ["A"] := by decide

/-- A word that starts another option holds nothing for this one. -/
theorem textIn_of_startsOption {long word : String} {waiting : Bool}
    (hnames : namesOption long word = false) (hstarts : startsOption word = true) :
    textIn long waiting word = none := by
  rw [textIn, hnames, hstarts, Bool.not_true, Bool.and_false]
  rfl

theorem startsOption_of_isLong {word : String} (h : isLong word = true) :
    startsOption word = true := by
  rcases hchars : word.toList with _ | ⟨a, _ | ⟨b, chars⟩⟩
  · simp [isLong, hchars] at h
  · simp [isLong, hchars] at h
  · simp only [isLong, hchars, List.take_succ_cons, List.take_zero, beq_iff_eq, List.cons.injEq]
      at h
    simp [startsOption, hchars, h.1]

theorem namesOption_of_not_startsOption (long : String) {word : String}
    (h : startsOption word = false) : namesOption long word = false := by
  rw [namesOption, Bool.and_eq_false_iff]
  refine .inl (Bool.eq_false_iff.2 fun hlong => ?_)
  rw [startsOption_of_isLong hlong] at h
  cases h

/-- Words that name other options hold nothing for this one. -/
theorem given_append {long : String} {words : List String}
    (h : ∀ word ∈ words, namesOption long word = false) (rest : List String) :
    given long (words ++ rest) = given long rest := by
  induction words with
  | nil => rfl
  | cons word words ih =>
    obtain ⟨hword, h⟩ := List.forall_mem_cons.1 h
    rw [List.cons_append, given, givenFrom, textIn, waitsAfter, hword]
    exact ih h

end TokenEscrow
