import DomainSchema.Json.Document
import DomainSchema.Text.Literal

namespace DomainSchema.Json

inductive Found where
  | null
  | bool (b : Bool)
  | number (n : Number)
  | string (s : String)
  | sequence
  | map
  | unitVariant

def Found.text : Found → String
  | .null => "null"
  | .bool b => "boolean `" ++ toString b ++ "`"
  | .number (.integer i) => "integer `" ++ toString i ++ "`"
  | .number n => "floating point `" ++ n.text ++ "`"
  | .string s => "string " ++ Text.literal s
  | .sequence => "sequence"
  | .map => "map"
  | .unitVariant => "unit variant"

inductive ReadError where
  | text (fault : Fault)
  | wrongType (found : Found) (expected : String)
  | wrongValue (found : Found) (expected : String)
  | wrongLength (length : Nat) (expected : String)
  | missingField (key : String)
  | duplicateField (key : String)
  | unknownVariant (name : String) (known : List String)

def quoted (name : String) : String := "`" ++ name ++ "`"

def ReadError.message : ReadError → String
  | .text fault => fault.message
  | .wrongType found expected => "invalid type: " ++ found.text ++ ", expected " ++ expected
  | .wrongValue found expected => "invalid value: " ++ found.text ++ ", expected " ++ expected
  | .wrongLength length expected => "invalid length " ++ toString length ++ ", expected " ++ expected
  | .missingField key => "missing field " ++ quoted key
  | .duplicateField key => "duplicate field " ++ quoted key
  | .unknownVariant name known =>
    "unknown variant " ++ quoted name ++ ", " ++ match known with
      | [] => "there are no variants"
      | [only] => "expected " ++ quoted only
      | [first,second] => "expected " ++ quoted first ++ " or " ++ quoted second
      | many => "expected one of " ++ Text.join ", " (many.map quoted)

def depthLimit : Nat := 127

-- How a node comes to its reader: out of a text as far as that is read, or out of a value that is there as a
-- whole. Of a whole value the size is known before its parts are.
inductive Manner where
  | text
  | whole
deriving DecidableEq, Repr

abbrev Reader (α : Type) := Manner → Nat → Node → Except ReadError α

def fault (f : Fault) : Except ReadError α := .error (.text f)

def Quoted.read (s : Quoted) : Except ReadError String := s.text.mapError .text

def Node.found : Node → Except ReadError Found
  | .null => .ok .null
  | .bool b => .ok (.bool b)
  | .number (some n) => .ok (.number n)
  | .number none => fault .numberOutOfRange
  | .string s => s.read.map .string
  | .array _ _ => .ok .sequence
  | .object _ _ | .misKeyed => .ok .map
  | .damaged _ f _ | .unreached f => fault f

def Node.refuse (expected : String) (n : Node) : Except ReadError α := do
  let found ← n.found
  .error (.wrongType found expected)

def Node.skip (n : Node) : Except ReadError Unit :=
  match n.skipFault with
  | none => .ok ()
  | some f => fault f

namespace Reader

def map (f : α → β) (read : Reader α) : Reader β := fun manner budget n => (read manner budget n).map f

def bool : Reader Bool
  | _, _, .bool b => .ok b
  | _, _, n => n.refuse "a boolean"

def stringAs (expected : String) : Reader String
  | _, _, .string s => s.read
  | _, _, n => n.refuse expected

def string : Reader String := stringAs "a string"

def unit : Reader Unit
  | _, _, .null => .ok ()
  | _, _, n => n.refuse "unit"

def nullable (read : Reader α) : Reader (Option α)
  | _, _, .null => .ok none
  | _, _, .damaged 'n' f _ => fault f
  | manner, budget, n => (read manner budget n).map some

def checkListEnd : Ending → Except ReadError Unit
  | .closed | .keyNotString => .ok ()
  | .textEnd => fault .endInList
  | .noComma => fault .noCommaInList
  | .trailingComma => fault .trailingComma
  | .textEndAfterComma => fault .endInValue

def checkObjectEnd : Ending → Except ReadError Unit
  | .closed => .ok ()
  | .textEnd => fault .endInObject
  | .noComma => fault .noCommaInObject
  | .trailingComma => fault .trailingComma
  | .textEndAfterComma => fault .endInValue
  | .keyNotString => fault .keyNotString

def list (read : Reader α) : Reader (List α)
  | manner, budget, .array items ending =>
    match budget with
    | 0 => fault .nestedTooDeep
    | budget + 1 => do
      let values ← items.mapM (read manner budget)
      checkListEnd ending
      return values
  | _, _, n => n.refuse "a sequence"

-- A choice among named variants: the name alone, or an object with the name as its only key. In a text, what
-- is no such choice is reported as a missing value, whatever it is.
def variant (byName : String → Except ReadError α) (withPayload : String → Reader α) : Reader α
  | _, _, .string s => do byName (← s.read)
  | .whole, budget, .object [(key,value)] _ => do withPayload (← key.read) .whole budget value
  | .whole, _, .object _ _ => .error (.wrongValue .map "map with a single key")
  | .whole, _, n => n.refuse "string or map"
  | .text, budget, .object entries ending =>
    match budget with
    | 0 => fault .nestedTooDeep
    | budget + 1 =>
      match entries, ending with
      | [], .closed => fault .noValue
      | [], _ => fault .endInObject
      | (key,value) :: more, _ => do
        let a ← withPayload (← key.read) .text budget value
        match more, ending with
        | [], .closed => return a
        | [], .textEnd => fault .endInObject
        | _, _ => fault .noValue
  | .text, 0, .misKeyed => fault .nestedTooDeep
  | .text, _, .misKeyed => fault .keyNotString
  | .text, _, .unreached f => fault f
  | .text, _, _ => fault .noValue

def oneOf (variants : List (String × α)) : Reader α :=
  let pick (name : String) : Except ReadError α :=
    match variants.lookup name with
    | some a => .ok a
    | none => .error (.unknownVariant name (variants.map Prod.fst))
  variant pick fun name manner budget payload => do
    let a ← pick name
    unit manner budget payload
    return a

inductive Absence where
  | refused
  -- An object may leave it out, an array may not.
  | nullable
  | defaulted
deriving DecidableEq

structure Field (α : Type) where
  key : String
  absence : Absence
  read : Reader (α → α)

def Field.required (key : String) (read : Reader β) (set : β → α → α) : Field α := ⟨key,.refused,read.map set⟩

def Field.nullable (key : String) (read : Reader β) (set : β → α → α) : Field α := ⟨key,.nullable,read.map set⟩

def Field.optional (key : String) (read : Reader β) (set : β → α → α) : Field α := ⟨key,.defaulted,read.map set⟩

def entriesInto (fields : List (Field α)) (manner : Manner) (budget : Nat) :
    List (Quoted × Node) → α → List String → Except ReadError (α × List String)
  | [], a, seen => .ok (a,seen)
  | (key,value) :: entries, a, seen => do
    let name ← key.read
    match fields.find? (·.key == name) with
    | none =>
      value.skip
      entriesInto fields manner budget entries a seen
    | some field =>
      if name ∈ seen then .error (.duplicateField name)
      else
        let set ← field.read manner budget value
        entriesInto fields manner budget entries (set a) (name :: seen)

def itemsInto (expected : String) (ending : Ending) (manner : Manner) (budget : Nat) :
    Nat → List (Field α) → List Node → α → Except ReadError (α × List Node)
  | _, [], items, a => .ok (a,items)
  | position, field :: fields, [], a => do
    checkListEnd ending
    if field.absence = .defaulted then itemsInto expected ending manner budget (position + 1) fields [] a
    else .error (.wrongLength position expected)
  | position, field :: fields, item :: items, a => do
    let set ← field.read manner budget item
    itemsInto expected ending manner budget (position + 1) fields items (set a)

-- A record is an object of its fields or an array of them in order. Fields that are left out keep what
-- `blank` has for them.
def record (name : String) (blank : α) (fields : List (Field α)) : Reader α
  | manner, budget, .object entries ending =>
    match budget with
    | 0 => fault .nestedTooDeep
    | budget + 1 => do
      let (a,seen) ← entriesInto fields manner budget entries blank []
      checkObjectEnd ending
      match fields.find? fun f => f.absence = .refused ∧ f.key ∉ seen with
      | some field => .error (.missingField field.key)
      | none => return a
  | _, 0, .misKeyed => fault .nestedTooDeep
  | _, _, .misKeyed => fault .keyNotString
  | manner, budget, .array items ending =>
    match budget with
    | 0 => fault .nestedTooDeep
    | budget + 1 => do
      let count := fields.length
      let expected := name ++ " with " ++ toString count ++ (if count = 1 then " element" else " elements")
      let (a,left) ← itemsInto expected ending manner budget 0 fields items blank
      match left, ending, manner with
      | [], .closed, _ => return a
      | [], .textEnd, _ => fault .endInList
      | [], .trailingComma, _ => fault .trailingComma
      | _, _, .whole => .error (.wrongLength items.length "fewer elements in array")
      | _, _, .text => fault .trailingCharacters
  | _, _, n => n.refuse name

def ofText (read : Reader α) (text : String) : Except ReadError α := do
  let document := Document.ofText text
  let a ← read .text depthLimit document.root
  if document.trailing then fault .trailingCharacters else return a

end Reader

end DomainSchema.Json
