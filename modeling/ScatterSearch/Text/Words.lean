import ScatterSearch.Text.Case

/-!
# Terms

How a text becomes search terms. Words are the longest runs of letters and numbers; a word of more
than two characters counts, in lower case. A document holds a set of terms (`documentTerms`), a
query asks for them in order of first appearance (`queryTerms`); both read a text the same way.
-/

namespace ScatterSearch.Text

/-- The words of a text: its longest non-empty runs of word characters, in order. `word` holds the
characters of the run being read, latest first. -/
def wordsFrom (word : List Char) : List Char → List (List Char)
  | [] => if word.isEmpty then [] else [word.reverse]
  | c :: rest =>
    if isWordChar c then wordsFrom (c :: word) rest
    else if word.isEmpty then wordsFrom [] rest
    else word.reverse :: wordsFrom [] rest

/-- The words of a text. -/
def words (cs : List Char) : List (List Char) := wordsFrom [] cs

/-- A word counts if it has more than this many characters. -/
def shortWord : Nat := 2

/-- The terms of a text in order, repetitions included. -/
def terms (text : String) : List String :=
  ((words text.toList).filter fun w => shortWord < w.length).map fun w => String.ofList (lower w)

/-- Each element where it first occurs. -/
def firstOccurrences {α : Type} [DecidableEq α] : List α → List α
  | [] => []
  | a :: rest => a :: (firstOccurrences rest).filter (· ≠ a)

/-- The terms of a query: each one where it first occurs. -/
def queryTerms (text : String) : List String := firstOccurrences (terms text)

/-- The set of terms of a document, as a list without repetitions. -/
def documentTerms (text : String) : List String := firstOccurrences (terms text)

end ScatterSearch.Text
