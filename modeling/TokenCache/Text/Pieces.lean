/-!
# Pieces

A text, or any other list, is taken apart at its separators, or in two at the first of them.
-/
namespace TokenCache
namespace Text

/-- The pieces between the separators: one more than there are separators. -/
def splitWhere {α : Type} (sep : α → Bool) : List α → List (List α)
  | [] => [[]]
  | c :: cs =>
    if sep c then [] :: splitWhere sep cs
    else match splitWhere sep cs with
      | piece :: pieces => (c :: piece) :: pieces
      | [] => [[c]]

/-- What comes before the first separator, and the rest from it on. -/
def before {α : Type} (sep : α → Bool) (cs : List α) : List α × List α :=
  (cs.takeWhile fun c => !sep c, cs.dropWhile fun c => !sep c)

end Text
end TokenCache
