/-!
Texts in strictly increasing code-point order. Each text appears once, and neither the order
nor the number of insertions can be told from the result.
-/

namespace ReadmePress.SortedSet

/-- Inserts a text in its place unless it is there. -/
def insert (text : String) : List String → List String
  | [] => [text]
  | least :: rest =>
      if text < least then text :: least :: rest
      else if text = least then least :: rest
      else least :: insert text rest

/-- The texts of a list in order, each once. -/
def ofList (texts : List String) : List String := texts.foldr insert []

end ReadmePress.SortedSet
