namespace DomainSchema.Text

def join (separator : String) : List String → String
  | [] => ""
  | [last] => last
  | first :: second :: rest => first ++ separator ++ join separator (second :: rest)

-- What follows the rightmost `::`. In `a:::b` that is `b`: separators may overlap, and the last one counts.
def afterSeparator? : List Char → Option (List Char)
  | [] => none
  | c :: rest =>
    match afterSeparator? rest with
    | some segment => some segment
    | none => if c = ':' ∧ rest.head? = some ':' then some rest.tail else none

def lastSegment (path : String) : String :=
  match afterSeparator? path.toList with
  | some segment => String.ofList segment
  | none => path

def dotted : List Char → List Char
  | ':' :: ':' :: rest => '.' :: dotted rest
  | c :: rest => c :: dotted rest
  | [] => []

-- The lines of a text without their line ends. A carriage return belongs to the line end only when a
-- line feed follows it, and a final line end opens no further line.
def lines : List Char → List (List Char)
  | [] => []
  | '\n' :: rest => [] :: lines rest
  | '\r' :: '\n' :: rest => [] :: lines rest
  | c :: rest =>
    match lines rest with
    | [] => [[c]]
    | line :: more => (c :: line) :: more

def afterFirst? (pattern : List Char) : List Char → Option (List Char)
  | [] => if pattern.isEmpty then some [] else none
  | c :: rest =>
    if pattern.isPrefixOf (c :: rest) then some ((c :: rest).drop pattern.length)
    else afterFirst? pattern rest

def isBlank (c : Char) : Bool :=
  let n := c.toNat
  (9 ≤ n && n ≤ 13) || n == 0x20 || n == 0x85 || n == 0xa0 || n == 0x1680 || (0x2000 ≤ n && n ≤ 0x200a) ||
    n == 0x2028 || n == 0x2029 || n == 0x202f || n == 0x205f || n == 0x3000

def trim (text : List Char) : List Char :=
  ((text.dropWhile isBlank).reverse.dropWhile isBlank).reverse

def padRight (width : Nat) (text : String) : String :=
  text ++ String.ofList (List.replicate (width - text.length) ' ')

def digits (base : Nat) (n : Nat) : List Char := Nat.toDigits base n

def withinBounds (bounds : List Nat) (c : Char) : Bool := (bounds.takeWhile (· ≤ c.toNat)).length % 2 == 1

end DomainSchema.Text
