import RegexHost.Text.LowerCase

/-! Characters that differ in case only. Folding takes each of them to one representative, and a few
to a short text. -/
namespace RegexHost.CaseFold

/-- Lower-case characters that fold to another one. -/
def merged : List (Nat × Nat) :=
  [(0xB5, 0x3BC), (0x17F, 0x73), (0x345, 0x3B9), (0x3C2, 0x3C3), (0x3D0, 0x3B2), (0x3D1, 0x3B8),
   (0x3D5, 0x3C6), (0x3D6, 0x3C0), (0x3F0, 0x3BA), (0x3F1, 0x3C1), (0x3F5, 0x3B5), (0x1C80, 0x432),
   (0x1C81, 0x434), (0x1C82, 0x43E), (0x1C83, 0x441), (0x1C84, 0x442), (0x1C85, 0x442),
   (0x1C86, 0x44A), (0x1C87, 0x463), (0x1C88, 0xA64B), (0x1E9B, 0x1E61), (0x1FBE, 0x3B9)]

/-- Characters that fold to a text of two or three. -/
def expansions : List (Nat × List Nat) :=
  [(0xDF, [0x73, 0x73]), (0x130, [0x69, 0x307]), (0x149, [0x2BC, 0x6E]), (0x1F0, [0x6A, 0x30C]),
   (0x390, [0x3B9, 0x308, 0x301]), (0x3B0, [0x3C5, 0x308, 0x301]), (0x587, [0x565, 0x582]),
   (0x1E96, [0x68, 0x331]), (0x1E97, [0x74, 0x308]), (0x1E98, [0x77, 0x30A]),
   (0x1E99, [0x79, 0x30A]), (0x1E9A, [0x61, 0x2BE]), (0x1E9E, [0x73, 0x73]),
   (0x1F50, [0x3C5, 0x313]), (0x1F52, [0x3C5, 0x313, 0x300]), (0x1F54, [0x3C5, 0x313, 0x301]),
   (0x1F56, [0x3C5, 0x313, 0x342]), (0x1F80, [0x1F00, 0x3B9]), (0x1F81, [0x1F01, 0x3B9]),
   (0x1F82, [0x1F02, 0x3B9]), (0x1F83, [0x1F03, 0x3B9]), (0x1F84, [0x1F04, 0x3B9]),
   (0x1F85, [0x1F05, 0x3B9]), (0x1F86, [0x1F06, 0x3B9]), (0x1F87, [0x1F07, 0x3B9]),
   (0x1F88, [0x1F00, 0x3B9]), (0x1F89, [0x1F01, 0x3B9]), (0x1F8A, [0x1F02, 0x3B9]),
   (0x1F8B, [0x1F03, 0x3B9]), (0x1F8C, [0x1F04, 0x3B9]), (0x1F8D, [0x1F05, 0x3B9]),
   (0x1F8E, [0x1F06, 0x3B9]), (0x1F8F, [0x1F07, 0x3B9]), (0x1F90, [0x1F20, 0x3B9]),
   (0x1F91, [0x1F21, 0x3B9]), (0x1F92, [0x1F22, 0x3B9]), (0x1F93, [0x1F23, 0x3B9]),
   (0x1F94, [0x1F24, 0x3B9]), (0x1F95, [0x1F25, 0x3B9]), (0x1F96, [0x1F26, 0x3B9]),
   (0x1F97, [0x1F27, 0x3B9]), (0x1F98, [0x1F20, 0x3B9]), (0x1F99, [0x1F21, 0x3B9]),
   (0x1F9A, [0x1F22, 0x3B9]), (0x1F9B, [0x1F23, 0x3B9]), (0x1F9C, [0x1F24, 0x3B9]),
   (0x1F9D, [0x1F25, 0x3B9]), (0x1F9E, [0x1F26, 0x3B9]), (0x1F9F, [0x1F27, 0x3B9]),
   (0x1FA0, [0x1F60, 0x3B9]), (0x1FA1, [0x1F61, 0x3B9]), (0x1FA2, [0x1F62, 0x3B9]),
   (0x1FA3, [0x1F63, 0x3B9]), (0x1FA4, [0x1F64, 0x3B9]), (0x1FA5, [0x1F65, 0x3B9]),
   (0x1FA6, [0x1F66, 0x3B9]), (0x1FA7, [0x1F67, 0x3B9]), (0x1FA8, [0x1F60, 0x3B9]),
   (0x1FA9, [0x1F61, 0x3B9]), (0x1FAA, [0x1F62, 0x3B9]), (0x1FAB, [0x1F63, 0x3B9]),
   (0x1FAC, [0x1F64, 0x3B9]), (0x1FAD, [0x1F65, 0x3B9]), (0x1FAE, [0x1F66, 0x3B9]),
   (0x1FAF, [0x1F67, 0x3B9]), (0x1FB2, [0x1F70, 0x3B9]), (0x1FB3, [0x3B1, 0x3B9]),
   (0x1FB4, [0x3AC, 0x3B9]), (0x1FB6, [0x3B1, 0x342]), (0x1FB7, [0x3B1, 0x342, 0x3B9]),
   (0x1FBC, [0x3B1, 0x3B9]), (0x1FC2, [0x1F74, 0x3B9]), (0x1FC3, [0x3B7, 0x3B9]),
   (0x1FC4, [0x3AE, 0x3B9]), (0x1FC6, [0x3B7, 0x342]), (0x1FC7, [0x3B7, 0x342, 0x3B9]),
   (0x1FCC, [0x3B7, 0x3B9]), (0x1FD2, [0x3B9, 0x308, 0x300]), (0x1FD3, [0x3B9, 0x308, 0x301]),
   (0x1FD6, [0x3B9, 0x342]), (0x1FD7, [0x3B9, 0x308, 0x342]), (0x1FE2, [0x3C5, 0x308, 0x300]),
   (0x1FE3, [0x3C5, 0x308, 0x301]), (0x1FE4, [0x3C1, 0x313]), (0x1FE6, [0x3C5, 0x342]),
   (0x1FE7, [0x3C5, 0x308, 0x342]), (0x1FF2, [0x1F7C, 0x3B9]), (0x1FF3, [0x3C9, 0x3B9]),
   (0x1FF4, [0x3CE, 0x3B9]), (0x1FF6, [0x3C9, 0x342]), (0x1FF7, [0x3C9, 0x342, 0x3B9]),
   (0x1FFC, [0x3C9, 0x3B9]), (0xFB00, [0x66, 0x66]), (0xFB01, [0x66, 0x69]),
   (0xFB02, [0x66, 0x6C]), (0xFB03, [0x66, 0x66, 0x69]), (0xFB04, [0x66, 0x66, 0x6C]),
   (0xFB05, [0x73, 0x74]), (0xFB06, [0x73, 0x74]), (0xFB13, [0x574, 0x576]),
   (0xFB14, [0x574, 0x565]), (0xFB15, [0x574, 0x56B]), (0xFB16, [0x57E, 0x576]),
   (0xFB17, [0x574, 0x56D])]

def expansion? (c : Nat) : Option (List Nat) :=
  expansions.lookup c

def contractions (folded : List Nat) : List Nat :=
  (expansions.filter (·.2 == folded)).map (·.1)

/-- Every character that folds to another one, with what it folds to. -/
def pairs : List (Nat × Nat) :=
  (merged ++ LowerCase.runs.flatMap fun (first, last, step, delta) =>
    (List.range ((last - first) / step + 1)).map fun k =>
      (first + k * step, ((first + k * step : Nat) + delta : Int).toNat)).filter
    fun p => (expansion? p.1).isNone

/-- What a character folds to by itself. -/
def fold (c : Nat) : Nat :=
  match pairs.lookup c with
  | some f => f
  | none => c

/-- What a character folds to. -/
def folded (c : Nat) : List Nat :=
  match expansion? c with
  | some text => text
  | none => [fold c]

/-- The characters that fold to the same one, `c` included. -/
def variants (c : Nat) : List Nat :=
  let f := fold c
  f :: (pairs.filter fun p => p.2 == f).map (·.1)

/-- The texts that differ from this one in case only, character by character. -/
def spellings : List Nat → List (List Nat)
  | [] => [[]]
  | c :: cs => (variants c).flatMap fun v => (spellings cs).map (v :: ·)

/-- Whatever folds to the given text. -/
def writings (text : List Nat) : List (List Nat) :=
  (contractions text).map ([·]) ++ spellings text

/-- What may stand for the start of a text, and of how many characters: of three or two if some
character folds to them, and else of one. -/
def substitutes (text : List Nat) : Nat × List (List Nat) :=
  let head (n : Nat) : Option (Nat × List (List Nat)) :=
    let start := text.take n
    let f := start.map fold
    if start.length = n && !(contractions f).isEmpty then some (n, (writings f).erase start)
    else none
  match head 3 <|> head 2 with
  | some found => found
  | none =>
    match text with
    | [] => (0, [])
    | c :: _ =>
      match expansion? c with
      | some f => (1, (writings f).erase [c])
      | none => (1, ((variants c).map ([·])).erase [c])

/-- The least set around `s` that holds all variants of what it holds. -/
def close (s : CodeSet) : CodeSet :=
  let folded := (pairs.filter fun p => s.contains p.1).map (·.2)
  let s := CodeSet.union s (folded.map fun f => (f, f))
  let unfolded := (pairs.filter fun p => s.contains p.2).map (·.1)
  let s := CodeSet.union s (unfolded.map fun c => (c, c))
  let texts := (expansions.filter fun e => s.contains e.1).map (·.2)
  CodeSet.union s ((expansions.filter fun e => texts.contains e.2).map fun e => (e.1, e.1))

/-- The texts that characters of a closed set fold to, shorter ones first. The same text comes once
for each character from the first one that `s` holds. -/
def texts (s closed : CodeSet) : List (List Nat) :=
  let all := (expansions.filter fun e => closed.contains e.1).map (·.2)
  let repeated (text : List Nat) : List (List Nat) :=
    ((contractions text).dropWhile fun c => !s.contains c).map fun _ => text
  let found := all.eraseDups.flatMap repeated
  found.filter (·.length = 2) ++ found.filter (·.length ≠ 2)

end RegexHost.CaseFold
