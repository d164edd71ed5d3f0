/-!
# Texts between separators

A text is cut at every separator, so that there is one piece more than there are separators, and
put together again with a separator between neighbours.
-/
namespace BearerAuth.Text

def pieces (isSeparator : Char → Bool) : List Char → List (List Char)
  | [] => [[]]
  | c :: rest =>
    if isSeparator c then [] :: pieces isSeparator rest
    else
      match pieces isSeparator rest with
      | first :: more => (c :: first) :: more
      | [] => [[c]]

/-- Put a separator between neighbours. -/
def joined (separator : Char) : List (List Char) → List Char
  | [] => []
  | [last] => last
  | piece :: rest => piece ++ separator :: joined separator rest

/-- Split at the first character of a kind; that character stays with the second part. -/
def splitAt (stop : Char → Bool) (text : List Char) : List Char × List Char :=
  (text.takeWhile fun c => !stop c, text.dropWhile fun c => !stop c)

end BearerAuth.Text
