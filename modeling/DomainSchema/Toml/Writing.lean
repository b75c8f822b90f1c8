import DomainSchema.Text
import DomainSchema.Toml.Words

namespace DomainSchema.Toml

def isControl (c : Char) : Bool := c < ' ' || c == '\x7f'

-- The longest run of a character. `run` is the length of the one before the text.
def longestRun (mark : Char) (run : Nat) : List Char → Nat
  | [] => run
  | c :: rest => if c = mark then longestRun mark (run + 1) rest else max run (longestRun mark 0 rest)

def needsEscape (c : Char) : Bool := isControl c && c != '\t' && c != '\n'

inductive StringForm where
  | basic
  | literal
  | longBasic
  | longLiteral
deriving DecidableEq, Repr

-- Whether a text can stand in a form as it is. Single quotes come after double ones, and long forms may hold
-- two quotes in a row.
def StringForm.fits (text : List Char) : StringForm → Bool
  | .basic => bare && !text.contains '\\' && longestRun '"' 0 text = 0 && !text.contains '\n'
  | .literal => bare && longestRun '\'' 0 text = 0 && !text.contains '\n'
  | .longBasic => bare && !text.contains '\\' && longestRun '"' 0 text ≤ 2
  | .longLiteral => bare && longestRun '\'' 0 text ≤ 2
where
  bare : Bool := !text.any needsEscape

def formOf (text : List Char) : StringForm :=
  match [StringForm.basic,.literal,.longBasic,.longLiteral].find? (·.fits text) with
  | some form => form
  | none => if text.contains '\n' then .longBasic else .basic

-- A text in double quotes; `quotes` counts those right before it that stand for themselves. In a long string
-- that are two at most, and a line end stands for itself too.
def basicChars (long : Bool) (quotes : Nat) : List Char → List Char
  | [] => []
  | c :: rest =>
    if c = '"' then
      if quotes < (if long then 2 else 0) then '"' :: basicChars long (quotes + 1) rest
      else '\\' :: '"' :: basicChars long 0 rest
    else (
      if c = '\x08' then ['\\','b']
      else if c = '\t' then ['\\','t']
      else if c = '\n' then if long then ['\n'] else ['\\','n']
      else if c = '\x0c' then ['\\','f']
      else if c = '\r' then ['\\','r']
      else if c = '\\' then ['\\','\\']
      else if isControl c then
        ['\\','u','0','0',(Nat.digitChar (c.toNat / 16)).toUpper,(Nat.digitChar (c.toNat % 16)).toUpper]
      else [c]) ++ basicChars long 0 rest

-- A line end after the opening quotes of a long string is no part of it, and is written where the text has others.
def stringChars (text : List Char) : List Char :=
  let opening := if text.contains '\n' then ['\n'] else []
  match formOf text with
  | .basic => '"' :: basicChars false 0 text ++ ['"']
  | .literal => '\'' :: text ++ ['\'']
  | .longBasic => ['"','"','"'] ++ opening ++ basicChars true 0 text ++ ['"','"','"']
  | .longLiteral => ['\'','\'','\''] ++ opening ++ text ++ ['\'','\'','\'']

def stringText (text : String) : String := String.ofList (stringChars text.toList)

def stringsText : List String → String
  | [] => "[]"
  | [only] => "[" ++ stringText only ++ "]"
  | texts => "[" ++ String.join (texts.map fun t => "\n    " ++ stringText t ++ ",") ++ "\n]"

def booleanText (b : Bool) : String := if b then "true" else "false"

def tableText (name : String) (entries : List (String × String)) : String :=
  "[" ++ name ++ "]\n" ++ String.join (entries.map fun (key,value) => key ++ " = " ++ value ++ "\n")

end DomainSchema.Toml
