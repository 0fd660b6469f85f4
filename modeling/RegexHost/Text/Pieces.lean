/-! Text cut into pieces at a character, and text made of lines. -/
namespace RegexHost

/-- What stands between the separators, empty pieces included. -/
def pieces (separator : Char) : List Char → List (List Char)
  | [] => [[]]
  | c :: cs =>
    if c = separator then [] :: pieces separator cs
    else
      match pieces separator cs with
      | [] => [[c]]
      | p :: ps => (c :: p) :: ps

/-- Each line with its end. -/
def lines (ls : List String) : String :=
  String.join (ls.map (· ++ "\n"))

end RegexHost
