import DomainSchema.Json.Reader

namespace DomainSchema.Json

inductive Value where
  | null
  | bool (b : Bool)
  | number (n : Number)
  | string (s : String)
  | array (items : List Value)
  | object (entries : List (String × Value))

instance : Coe String Value := ⟨.string⟩
instance : Coe Bool Value := ⟨.bool⟩

def Value.nat (n : Nat) : Value := .number (.integer n)
def Value.strings (texts : List String) : Value := .array (texts.map .string)
def Value.option (text : Option String) : Value := text.elim .null .string

def hexDigit (n : Nat) : Char := Nat.digitChar n

def escaped (c : Char) : List Char :=
  if c = '"' then ['\\','"']
  else if c = '\\' then ['\\','\\']
  else if c = '\x08' then ['\\','b']
  else if c = '\x0c' then ['\\','f']
  else if c = '\n' then ['\\','n']
  else if c = '\r' then ['\\','r']
  else if c = '\t' then ['\\','t']
  else if c.toNat < 0x20 then ['\\','u','0','0',hexDigit (c.toNat / 16),hexDigit (c.toNat % 16)]
  else [c]

def quotedChars (s : String) : List Char := '"' :: (s.toList.flatMap escaped ++ ['"'])

mutual

def Value.chars : Value → List Char
  | .null => ['n','u','l','l']
  | .bool true => ['t','r','u','e']
  | .bool false => ['f','a','l','s','e']
  | .number n => n.text.toList
  | .string s => quotedChars s
  | .array items => '[' :: (itemChars items ++ [']'])
  | .object entries => '\x7b' :: (entryChars entries ++ ['\x7d'])

def itemChars : List Value → List Char
  | [] => []
  | [last] => last.chars
  | item :: next :: items => item.chars ++ ',' :: itemChars (next :: items)

def entryChars : List (String × Value) → List Char
  | [] => []
  | [(key,value)] => quotedChars key ++ ':' :: value.chars
  | (key,value) :: next :: entries => quotedChars key ++ ':' :: (value.chars ++ ',' :: entryChars (next :: entries))

end

def Value.compact (v : Value) : String := String.ofList v.chars

def indentChars (depth : Nat) : List Char := '\n' :: List.replicate (2 * depth) ' '

mutual

def Value.prettyChars (depth : Nat) : Value → List Char
  | .array [] => ['[',']']
  | .array (item :: items) => '[' :: (prettyItems (depth + 1) (item :: items) ++ indentChars depth ++ [']'])
  | .object [] => ['\x7b','\x7d']
  | .object (entry :: entries) =>
    '\x7b' :: (prettyEntries (depth + 1) (entry :: entries) ++ indentChars depth ++ ['\x7d'])
  | .null => Value.chars .null
  | .bool b => Value.chars (.bool b)
  | .number n => Value.chars (.number n)
  | .string s => quotedChars s

def prettyItems (depth : Nat) : List Value → List Char
  | [] => []
  | [last] => indentChars depth ++ last.prettyChars depth
  | item :: next :: items => indentChars depth ++ item.prettyChars depth ++ ',' :: prettyItems depth (next :: items)

def prettyEntries (depth : Nat) : List (String × Value) → List Char
  | [] => []
  | [(key,value)] => indentChars depth ++ quotedChars key ++ ':' :: ' ' :: value.prettyChars depth
  | (key,value) :: next :: entries =>
    indentChars depth ++ quotedChars key ++ ':' :: ' ' :: value.prettyChars depth ++
      ',' :: prettyEntries depth (next :: entries)

end

def Value.pretty (v : Value) : String := String.ofList (v.prettyChars 0)

mutual

def Value.ofNode (budget : Nat) : Node → Except ReadError Value
  | .null => .ok .null
  | .bool b => .ok (.bool b)
  | .number (some n) => .ok (.number n)
  | .number none => fault .numberOutOfRange
  | .string s => s.read.map .string
  | .array items ending =>
    match budget with
    | 0 => fault .nestedTooDeep
    | budget + 1 => do
      let values ← itemsOfNodes budget items
      Reader.checkListEnd ending
      return .array values
  | .object entries ending =>
    match budget with
    | 0 => fault .nestedTooDeep
    | budget + 1 => do
      let values ← entriesOfNodes budget entries
      Reader.checkObjectEnd ending
      return .object values
  | .misKeyed => match budget with
    | 0 => fault .nestedTooDeep
    | _ + 1 => fault .keyNotString
  | .damaged _ f _ | .unreached f => fault f

def itemsOfNodes (budget : Nat) : List Node → Except ReadError (List Value)
  | [] => .ok []
  | item :: items => do return (← Value.ofNode budget item) :: (← itemsOfNodes budget items)

def entriesOfNodes (budget : Nat) : List (Quoted × Node) → Except ReadError (List (String × Value))
  | [] => .ok []
  | (key,value) :: entries => do
    let name ← key.read
    return (name,← Value.ofNode budget value) :: (← entriesOfNodes budget entries)

end

def Value.read : Reader Value := fun _ => Value.ofNode

def Quoted.ofString (s : String) : Quoted := ⟨s.toList.map .char,none⟩

def insertEntry (key : String) (value : α) : List (String × α) → List (String × α)
  | [] => [(key,value)]
  | other :: rest =>
    if key < other.1 then (key,value) :: other :: rest
    else if key = other.1 then other :: rest
    else other :: insertEntry key value rest

mutual

-- A value as the node of a text without faults. Entries are in the order of their keys, and of those with the
-- same key the last one counts.
def Value.node : Value → Node
  | .null => .null
  | .bool b => .bool b
  | .number n => .number (some n)
  | .string s => .string (.ofString s)
  | .array items => .array (itemNodes items) .closed
  | .object entries => .object ((entryNodes entries).map fun (key,node) => (.ofString key,node)) .closed

def itemNodes : List Value → List Node
  | [] => []
  | item :: items => item.node :: itemNodes items

def entryNodes : List (String × Value) → List (String × Node)
  | [] => []
  | (key,value) :: entries => insertEntry key value.node (entryNodes entries)

end

def Reader.ofValue (read : Reader α) (v : Value) : Except ReadError α := read .whole depthLimit v.node

def Value.get (key : String) : Value → Value
  | .object entries => (entries.lookup key).getD .null
  | _ => .null

end DomainSchema.Json
