namespace DomainSchema.Text

structure Spacing where
  isSpace : Char → Bool
  isLineEnd : Char → Bool
  nests : Bool

-- What a character of the spacing belongs to. A comment between slashes and stars counts those around it.
inductive Passing where
  | blanks
  | line
  | block (around : Nat)
deriving DecidableEq, Repr

def Spacing.pass (s : Spacing) : Passing → List Char → Option (List Char)
  | .block around, '*' :: '/' :: rest => s.pass (if around = 0 then .blanks else .block (around - 1)) rest
  | .block around, '/' :: '*' :: rest =>
    if s.nests then s.pass (.block (around + 1)) rest else s.pass (.block around) ('*' :: rest)
  | .block around, _ :: rest => s.pass (.block around) rest
  | .block _, [] => none
  | .line, c :: rest => s.pass (if s.isLineEnd c then .blanks else .line) rest
  | .line, [] => some []
  | .blanks, '/' :: '*' :: rest => s.pass (.block 0) rest
  | .blanks, '/' :: '/' :: rest => s.pass .line rest
  | .blanks, c :: rest => if s.isSpace c then s.pass .blanks rest else some (c :: rest)
  | .blanks, [] => some []

def Spacing.skip (s : Spacing) (cs : List Char) : Option (List Char) := s.pass .blanks cs

end DomainSchema.Text
