/-
# Theory.Topic — binding patterns of a topic exchange

A routing key is a list of words separated by dots. A binding pattern is such a
list in which `*` stands for exactly one word and `#` for any number of words,
none included. `admits` decides whether a pattern admits a key; it recurses on
the pattern, trying `#` against every suffix of the remaining key.
-/
import Mathlib.Data.List.Basic

namespace KisAutoTrading.Theory.Topic

set_option autoImplicit false

def words (key : String) : List (List Char) := key.toList.splitOn '.'

def wordsMatch : List (List Char) → List (List Char) → Bool
  | [], key => key.isEmpty
  | pattern :: rest, key =>
      if pattern = ['#'] then key.tails.any fun suffix => wordsMatch rest suffix
      else
        match key with
        | [] => false
        | word :: key => (pattern == ['*'] || pattern == word) && wordsMatch rest key

/-- Topic-exchange matching of a binding pattern against a routing key. -/
def admits (pattern key : String) : Bool := wordsMatch (words pattern) (words key)

end KisAutoTrading.Theory.Topic
