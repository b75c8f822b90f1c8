import DomainSchema.Toml.Words

namespace DomainSchema.Toml

-- How a table came to be. That decides what may still be added to it.
inductive TableKind where
  | header
  | implied
  | dotted
deriving DecidableEq, Repr

-- What stands under a key while the text is read. A value is closed, also if it is an inline table.
inductive Item where
  | value (v : Value)
  | table (kind : TableKind) (entries : List (String × Item))
  | tables (elements : List (List (String × Item)))

abbrev Items := List (String × Item)

mutual

def Item.toValue : Item → Value
  | .value v => v
  | .table _ entries => .table (itemsToValues entries)
  | .tables elements => .array (elementsToValues elements)

def itemsToValues : Items → List (String × Value)
  | [] => []
  | (key,item) :: rest => (key,item.toValue) :: itemsToValues rest

def elementsToValues : List Items → List Value
  | [] => []
  | entries :: rest => .table (itemsToValues entries) :: elementsToValues rest

end

def setItem (key : String) (item : Item) : Items → Items
  | [] => [(key,item)]
  | other :: rest => if other.1 = key then (key,item) :: rest else other :: setItem key item rest

def changeLast (change : Items → Option Items) : List Items → Option (List Items)
  | [] => none
  | [last] => return [← change last]
  | first :: rest => return first :: (← changeLast change rest)

-- Follows the names of a header and changes the items at their end. Tables that are not there are implied.
def alongHeader (change : Items → Option Items) : List String → Items → Option Items
  | [], items => change items
  | name :: names, items => do
    let item ← match items.lookup name with
      | none => return setItem name (.table .implied (← alongHeader change names [])) items
      | some (.table kind inner) => pure (.table kind (← alongHeader change names inner))
      | some (.tables elements) => pure (.tables (← changeLast (alongHeader change names) elements))
      | some (.value _) => none
    return setItem name item items

-- A header opens a table once; one that was only implied it makes its own.
def openTable (name : String) (items : Items) : Option Items :=
  match items.lookup name with
  | none => some (setItem name (.table .header []) items)
  | some (.table .implied inner) => some (setItem name (.table .header inner) items)
  | some _ => none

def openElement (name : String) (items : Items) : Option Items :=
  match items.lookup name with
  | none => some (setItem name (.tables [[]]) items)
  | some (.tables elements) => some (setItem name (.tables (elements ++ [[]])) items)
  | some _ => none

-- Puts a value under a key with points. It goes through tables without a header only, and ends in one that
-- such keys have made.
def addAlong (name : String) (v : Value) : List String → Items → Option Items
  | [], items => if (items.lookup name).isSome then none else some (items ++ [(name,.value v)])
  | step :: steps, items => do
    let item ← match items.lookup step with
      | none => return setItem step (.table .dotted (← addAlong name v steps [])) items
      | some (.table kind inner) =>
        if kind = .header ∨ (steps = [] ∧ kind ≠ .dotted) then none
        else pure (.table kind (← addAlong name v steps inner))
      | some (.tables elements) =>
        if steps = [] then none else pure (.tables (← changeLast (addAlong name v steps) elements))
      | some (.value _) => none
    return setItem step item items

def splitKey (names : List String) : List String × String := (names.dropLast,names.getLast?.getD "")

def addPair (names : List String) (v : Value) (items : Items) : Option Items :=
  let (steps, name) := splitKey names
  addAlong name v steps items

def nestingLimit : Nat := 79

mutual

def value : Nat → Nat → List Char → Option (Value × List Char)
  | 0, _, _ => none
  | fuel + 1, depth, '[' :: rest =>
    match depth with
    | 0 => none
    | depth + 1 => do
      let (items,rest) ← elements fuel depth rest
      return (.array items,rest)
  | fuel + 1, depth, '\x7b' :: rest =>
    match depth with
    | 0 => none
    | depth + 1 =>
      match skipSpaces rest with
      | '\x7d' :: rest => some (.table [],rest)
      | rest => do
        let (items,rest) ← pairs fuel depth [] rest
        return (.table (itemsToValues items),rest)
  | _ + 1, _, cs => scalar cs

def elements : Nat → Nat → List Char → Option (List Value × List Char)
  | 0, _, _ => none
  | fuel + 1, depth, cs =>
    match skipLines false cs with
    | ']' :: rest => some ([],rest)
    | cs => do
      let (first,rest) ← value fuel depth cs
      match skipLines false rest with
      | ',' :: rest =>
        let (more,rest) ← elements fuel depth rest
        return (first :: more,rest)
      | ']' :: rest => return ([first],rest)
      | _ => none

def pairs : Nat → Nat → Items → List Char → Option (Items × List Char)
  | 0, _, _, _ => none
  | fuel + 1, depth, items, cs => do
    let (names,rest) ← key nestingLimit cs
    let rest ← expect '=' rest
    let (v,rest) ← value fuel depth (skipSpaces rest)
    let items ← addPair names v items
    match skipSpaces rest with
    | ',' :: rest => pairs fuel depth items rest
    | '\x7d' :: rest => return (items,rest)
    | _ => none

end

structure Progress where
  header : List String := []
  items : Items := []

namespace Progress

def add (p : Progress) (names : List String) (v : Value) : Option Progress :=
  return { p with items := ← alongHeader (addPair names v) p.header p.items }

def openAt (p : Progress) (names : List String) (change : String → Items → Option Items) : Option Progress :=
  let (steps, name) := splitKey names
  return ⟨names,← alongHeader (change name) steps p.items⟩

end Progress

def statement (p : Progress) (cs : List Char) : Option (Progress × List Char) :=
  match cs with
  | '[' :: '[' :: rest => do
    let (names,rest) ← key nestingLimit rest
    let rest ← expect ']' rest
    let rest ← expect ']' rest
    return (← p.openAt names openElement,rest)
  | '[' :: rest => do
    let (names,rest) ← key nestingLimit rest
    let rest ← expect ']' rest
    return (← p.openAt names openTable,rest)
  | _ => do
    let (names,rest) ← key nestingLimit cs
    let rest ← expect '=' rest
    let (v,rest) ← value (2 * rest.length + 2) nestingLimit (skipSpaces rest)
    return (← p.add names v,rest)

def statements : Nat → Progress → List Char → Option Items
  | 0, _, _ => none
  | fuel + 1, p, cs =>
    match skipLines false cs with
    | [] => some p.items
    | cs => do
      let (p,rest) ← statement p cs
      statements fuel p (← lineEnd false rest)

-- A table that begins with this key stands for the date or time in its text.
def datetimeKey : String := "$__toml_private_datetime"

def datetimeOf? (text : String) : Option Value :=
  match datetime text.toList with
  | some (v,[]) => some v
  | _ => none

mutual

def settle : Value → Option Value
  | .table entries =>
    match entries with
    | (key,first) :: rest =>
      if key = datetimeKey then
        match first with
        | .string text => datetimeOf? text
        | _ => none
      else return .table ((key,← settle first) :: (← settleEntries rest))
    | [] => some (.table [])
  | .array items => return .array (← settleItems items)
  | v => some v

def settleItems : List Value → Option (List Value)
  | [] => some []
  | item :: items => return (← settle item) :: (← settleItems items)

def settleEntries : List (String × Value) → Option (List (String × Value))
  | [] => some []
  | (key,v) :: entries => return (key,← settle v) :: (← settleEntries entries)

end

def read? (text : String) : Option (List (String × Value)) := do
  let cs := text.toList
  match ← settle (.table (itemsToValues (← statements (cs.length + 1) {} cs))) with
  | .table entries => return entries
  | _ => none

end DomainSchema.Toml
