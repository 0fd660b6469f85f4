import RegexHost.Text.Property

/-! White space, as Unicode counts it. -/
namespace RegexHost

def isBlank (c : Char) : Bool :=
  Property.blank.contains c.toNat

def trimLeft (cs : List Char) : List Char :=
  cs.dropWhile isBlank

def trim (s : String) : String :=
  .ofList (trimLeft (trimLeft s.toList).reverse).reverse

end RegexHost
