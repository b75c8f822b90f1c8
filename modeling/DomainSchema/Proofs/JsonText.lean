import DomainSchema.Json.Value
import Mathlib.Tactic.SplitIfs

namespace DomainSchema.Json

-- The text of a value without numbers is read as that value, whatever space stands between its parts.

def writtenUnit (c : Char) : TextUnit :=
  match escaped c with
  | '\\' :: 'u' :: _ => .code c.toNat
  | _ => .char c

inductive Spelling (c : Char) : List Char → TextUnit → Prop where
  | plain (quote : c ≠ '"') (backslash : c ≠ '\\') (printable : ¬c.toNat < 0x20) : Spelling c [c] (.char c)
  | short {e : Char} (apart : e ≠ 'u') (stands : simpleEscape? e = some c) : Spelling c ['\\',e] (.char c)
  | code (control : c.toNat < 0x20) :
    Spelling c ['\\','u','0','0',hexDigit (c.toNat / 16),hexDigit (c.toNat % 16)] (.code c.toNat)

theorem escaped_spelling (c : Char) : Spelling c (escaped c) (writtenUnit c) := by
  unfold writtenUnit escaped
  split_ifs with quote backslash b f n r t control
  iterate 7
    · subst c
      exact .short (by decide) rfl
  · exact .code control
  · simpa using Spelling.plain quote backslash control

example : "q\"\\\n\x01é".toList.flatMap escaped = "q\\\"\\\\\\n\\u0001é".toList := by decide +kernel

theorem hexCode?_hexDigit {n : Nat} (small : n < 0x20) :
    hexCode? '0' '0' (hexDigit (n / 16)) (hexDigit (n % 16)) = some n := by
  decide +revert

section
variable {c : Char} {cs : List Char} {unit : TextUnit}

theorem takeUnits_spelling (spelling : Spelling c cs unit) (rest : List Char) :
    takeUnits (cs ++ rest) = (⟨unit :: (takeUnits rest).1.units,(takeUnits rest).1.fault⟩,(takeUnits rest).2) := by
  cases spelling with
  | plain quote backslash printable => simp [takeUnits,backslash,printable]
  | short apart stands => simp [takeUnits,apart,stands]
  | code control => simp [takeUnits,hexCode?_hexDigit control]

theorem takeUnits_escaped (cs rest : List Char) :
    takeUnits (cs.flatMap escaped ++ '"' :: rest) = (⟨cs.map writtenUnit,none⟩,rest) := by
  induction cs with
  | nil => simp [takeUnits]
  | cons c cs ih => simp [takeUnits_spelling (escaped_spelling c),ih]

-- A code stands for its character: it is below those that stand for half a character.
theorem characters_spelling {units : List TextUnit} {text : List Char} (spelling : Spelling c cs unit)
    (read : characters none units = .ok text) : characters none (unit :: units) = .ok (c :: text) := by
  cases spelling with
  | plain | short =>
    rw [characters,read]
    rfl
  | code control =>
    have low : isLowSurrogate c.toNat = false := by simp [isLowSurrogate]; omega
    have high : isHighSurrogate c.toNat = false := by simp [isHighSurrogate]; omega
    rw [characters.eq_def]
    simp only [low,high,read,Bool.false_eq_true,if_false,Char.ofNat_toNat]
    rfl

end

theorem characters_written (cs : List Char) : characters none (cs.map writtenUnit) = .ok cs := by
  induction cs with
  | nil => rfl
  | cons c cs ih => exact characters_spelling (escaped_spelling c) ih

def Quoted.written (s : String) : Quoted := ⟨s.toList.map writtenUnit,none⟩

@[simp] theorem Quoted.written_read (s : String) : (Quoted.written s).read = .ok s := by
  simp [Quoted.read,Quoted.text,written,characters_written,Except.map,Except.mapError]

namespace Value

theorem item_smaller {item : Value} {items : List Value} (member : item ∈ items) : sizeOf item < sizeOf (array items) := by
  have smaller := List.sizeOf_lt_of_mem member
  simp only [array.sizeOf_spec]
  omega

theorem entry_smaller {e : String × Value} {entries : List (String × Value)} (member : e ∈ entries) :
    sizeOf e.2 < sizeOf (object entries) := by
  have smaller := List.sizeOf_lt_of_mem member
  have inside : sizeOf e = 1 + sizeOf e.1 + sizeOf e.2 := rfl
  simp only [object.sizeOf_spec]
  omega

@[elab_as_elim]
theorem parts {P : Value → Prop} (null : P .null) (bool : ∀ b, P (.bool b)) (number : ∀ n, P (.number n))
    (string : ∀ s, P (.string s)) (array : ∀ items, (∀ item ∈ items, P item) → P (.array items))
    (object : ∀ entries, (∀ e ∈ entries, P e.2) → P (.object entries)) : ∀ v, P v
  | .null => null
  | .bool b => bool b
  | .number n => number n
  | .string s => string s
  | .array items => array items fun item _ => parts null bool number string array object item
  | .object entries => object entries fun e _ => parts null bool number string array object e.2
termination_by v => sizeOf v
decreasing_by
  · exact item_smaller ‹_›
  · exact entry_smaller ‹_›

def Worded : Value → Prop
  | .array items => ∀ item ∈ items, item.Worded
  | .object entries => ∀ e ∈ entries, e.2.Worded
  | .number _ => False
  | .null | .bool _ | .string _ => True
termination_by v => sizeOf v
decreasing_by
  · exact item_smaller ‹_›
  · exact entry_smaller ‹_›

def written : Value → Node
  | .null => .null
  | .bool b => .bool b
  | .number n => .number n
  | .string s => .string (.written s)
  | .array items => .array (items.map written) .closed
  | .object entries => .object (entries.map fun e => (.written e.1,e.2.written)) .closed
termination_by v => sizeOf v
decreasing_by
  · exact item_smaller ‹_›
  · exact entry_smaller ‹_›

end Value

-- The space between the parts of a text: what stands before an element so deep inside, and after a colon.
structure Layout where
  indent : Nat → List Char
  gap : List Char
  indent_space : ∀ depth, ∀ c ∈ indent depth, isSpace c = true
  gap_space : ∀ c ∈ gap, isSpace c = true

namespace Layout

def compact : Layout := ⟨fun _ => [],[],nofun,nofun⟩

def pretty : Layout where
  indent := indentChars
  gap := [' ']
  indent_space depth c member := by
    rcases List.mem_cons.mp member with rfl | space
    · rfl
    · rw [List.eq_of_mem_replicate space]
      rfl
  gap_space c member := by
    rw [List.mem_singleton.mp member]
    rfl

@[simp] theorem compact_indent (depth : Nat) : compact.indent depth = [] := rfl
@[simp] theorem compact_gap : compact.gap = [] := rfl
@[simp] theorem pretty_indent (depth : Nat) : pretty.indent depth = indentChars depth := rfl
@[simp] theorem pretty_gap : pretty.gap = [' '] := rfl

end Layout

mutual

def Value.laid (layout : Layout) (depth : Nat) : Value → List Char
  | .array [] => ['[',']']
  | .array (item :: items) => '[' :: (laidItems layout (depth + 1) (item :: items) ++ layout.indent depth ++ [']'])
  | .object [] => ['\x7b','\x7d']
  | .object (entry :: entries) =>
    '\x7b' :: (laidEntries layout (depth + 1) (entry :: entries) ++ layout.indent depth ++ ['\x7d'])
  | .null => Value.chars .null
  | .bool b => Value.chars (.bool b)
  | .number n => Value.chars (.number n)
  | .string s => quotedChars s

def laidItems (layout : Layout) (depth : Nat) : List Value → List Char
  | [] => []
  | [last] => layout.indent depth ++ last.laid layout depth
  | item :: next :: items =>
    layout.indent depth ++ item.laid layout depth ++ ',' :: laidItems layout depth (next :: items)

def laidEntries (layout : Layout) (depth : Nat) : List (String × Value) → List Char
  | [] => []
  | [(key,value)] => layout.indent depth ++ quotedChars key ++ ':' :: (layout.gap ++ value.laid layout depth)
  | (key,value) :: next :: entries =>
    layout.indent depth ++ quotedChars key ++ ':' :: (layout.gap ++ value.laid layout depth ++
      ',' :: laidEntries layout depth (next :: entries))

end

mutual

theorem Value.laid_compact : ∀ (v : Value) (depth : Nat), v.laid .compact depth = v.chars
  | .null, _ | .bool true, _ | .bool false, _ | .number _, _ | .string _, _ => by simp only [Value.laid,Value.chars]
  | .array [], _ | .object [], _ => by simp [Value.laid,Value.chars,itemChars,entryChars]
  | .array (item :: items), depth => by simp [Value.laid,Value.chars,laidItems_compact (item :: items)]
  | .object (entry :: entries), depth => by simp [Value.laid,Value.chars,laidEntries_compact (entry :: entries)]

theorem laidItems_compact : ∀ (items : List Value) (depth : Nat), laidItems .compact depth items = itemChars items
  | [], _ => by simp only [laidItems,itemChars]
  | [last], depth => by simp [laidItems,itemChars,last.laid_compact]
  | item :: next :: items, depth => by
    simp [laidItems,itemChars,item.laid_compact,laidItems_compact (next :: items)]

theorem laidEntries_compact : ∀ (entries : List (String × Value)) (depth : Nat),
    laidEntries .compact depth entries = entryChars entries
  | [], _ => by simp only [laidEntries,entryChars]
  | [(key,value)], depth => by simp [laidEntries,entryChars,value.laid_compact]
  | (key,value) :: next :: entries, depth => by
    simp [laidEntries,entryChars,value.laid_compact,laidEntries_compact (next :: entries)]

end

mutual

theorem Value.laid_pretty : ∀ (v : Value) (depth : Nat), v.laid .pretty depth = v.prettyChars depth
  | .null, _ | .bool _, _ | .number _, _ | .string _, _ | .array [], _ | .object [], _ => by
    simp only [Value.laid,Value.prettyChars]
  | .array (item :: items), depth => by simp [Value.laid,Value.prettyChars,laidItems_pretty (item :: items)]
  | .object (entry :: entries), depth => by simp [Value.laid,Value.prettyChars,laidEntries_pretty (entry :: entries)]

theorem laidItems_pretty : ∀ (items : List Value) (depth : Nat), laidItems .pretty depth items = prettyItems depth items
  | [], _ => by simp only [laidItems,prettyItems]
  | [last], depth => by simp [laidItems,prettyItems,last.laid_pretty]
  | item :: next :: items, depth => by
    simp [laidItems,prettyItems,item.laid_pretty,laidItems_pretty (next :: items)]

theorem laidEntries_pretty : ∀ (entries : List (String × Value)) (depth : Nat),
    laidEntries .pretty depth entries = prettyEntries depth entries
  | [], _ => by simp only [laidEntries,prettyEntries]
  | [(key,value)], depth => by simp [laidEntries,prettyEntries,value.laid_pretty]
  | (key,value) :: next :: entries, depth => by
    simp [laidEntries,prettyEntries,value.laid_pretty,laidEntries_pretty (next :: entries)]

end

theorem Value.compact_laid (v : Value) : v.compact = String.ofList (v.laid .compact 0) := by
  rw [laid_compact,compact]

theorem Value.pretty_laid (v : Value) : v.pretty = String.ofList (v.laid .pretty 0) := by
  rw [laid_pretty,pretty]

section
variable {layout : Layout} {c : Char} {cs after rest later : List Char} {fuel : Nat} {node : Node} {v : Value}

theorem skipSpace_char (visible : isSpace c = false) (cs : List Char) : skipSpace (c :: cs) = c :: cs :=
  List.dropWhile_cons_of_neg (by simp [visible])

theorem skipSpace_indent (depth : Nat) (cs : List Char) : skipSpace (layout.indent depth ++ cs) = skipSpace cs :=
  List.dropWhile_append_of_pos (layout.indent_space depth)

theorem skipSpace_gap (cs : List Char) : skipSpace (layout.gap ++ cs) = skipSpace cs :=
  List.dropWhile_append_of_pos layout.gap_space

theorem takeValue_congr {cs' : List Char} (same : skipSpace cs = skipSpace cs') : takeValue fuel cs = takeValue fuel cs' := by
  cases fuel with
  | zero => rfl
  | succ fuel => rw [takeValue,takeValue,same]

theorem takeItems_last (first : takeValue fuel cs = ⟨node,some after⟩) (close : skipSpace after = ']' :: rest) :
    takeItems (fuel + 1) cs = ⟨[node],.closed,some rest⟩ := by
  simp [takeItems,first,close]

theorem takeItems_more (first : takeValue fuel cs = ⟨node,some after⟩) (comma : skipSpace after = ',' :: rest)
    (next : skipSpace rest = c :: later) (open_ : c ≠ ']') :
    takeItems (fuel + 1) cs = (takeItems fuel (c :: later)).push node := by
  simp [takeItems,first,comma,next,open_]

theorem takeEntries_last {key : String} (first : takeValue fuel cs = ⟨node,some after⟩)
    (close : skipSpace after = '\x7d' :: rest) :
    takeEntries (fuel + 1) (key.toList.flatMap escaped ++ '"' :: ':' :: cs) = ⟨[(.written key,node)],.closed,some rest⟩ := by
  simp [takeEntries,takeUnits_escaped,skipSpace_char (c := ':') rfl,first,close,Quoted.written]

theorem takeEntries_more {key : String} (first : takeValue fuel cs = ⟨node,some after⟩)
    (comma : skipSpace after = ',' :: rest) (next : skipSpace rest = '"' :: later) :
    takeEntries (fuel + 1) (key.toList.flatMap escaped ++ '"' :: ':' :: cs) =
      (takeEntries fuel later).push (.written key,node) := by
  simp [takeEntries,takeUnits_escaped,skipSpace_char (c := ':') rfl,first,comma,next,Quoted.written]

theorem Value.laid_start (worded : v.Worded) (layout : Layout) (depth : Nat) :
    ∃ c cs, v.laid layout depth = c :: cs ∧ isSpace c = false ∧ c ≠ ']' := by
  rcases v with _ | ⟨_ | _⟩ | _ | _ | ⟨_ | _⟩ | ⟨_ | _⟩
  case number => simp [Worded] at worded
  all_goals
    rw [laid]
    exact ⟨_,_,rfl,by decide,by decide⟩

-- The text of the value starts where a reader looks for a value, and is taken without what follows it.
structure Layout.Returns (layout : Layout) (v : Value) : Prop where
  start : ∀ depth, ∃ c cs, v.laid layout depth = c :: cs ∧ isSpace c = false ∧ c ≠ ']'
  taken : ∀ depth fuel rest, (v.laid layout depth).length ≤ fuel →
    takeValue fuel (v.laid layout depth ++ rest) = ⟨v.written,some rest⟩

theorem takeItems_laid {items : List Value} (some_ : items ≠ []) (each : ∀ item ∈ items, layout.Returns item)
    (outer depth fuel : Nat) (rest : List Char) (enough : (laidItems layout depth items).length < fuel) :
    ∃ c cs, skipSpace (laidItems layout depth items ++ (layout.indent outer ++ ']' :: rest)) = c :: cs ∧ c ≠ ']' ∧
      takeItems fuel (c :: cs) = ⟨items.map Value.written,.closed,some rest⟩ := by
  induction items generalizing fuel with
  | nil => exact absurd rfl some_
  | cons item items ih =>
    obtain ⟨here,below⟩ := List.forall_mem_cons.mp each
    obtain ⟨c,cs,start,visible,inside⟩ := here.start depth
    obtain ⟨fuel,rfl⟩ : ∃ n, fuel = n + 1 := ⟨fuel - 1,by omega⟩
    cases items with
    | nil =>
      rw [laidItems] at enough ⊢
      simp only [List.length_append] at enough
      refine ⟨c,cs ++ (layout.indent outer ++ ']' :: rest),?_,inside,?_⟩
      · rw [List.append_assoc,skipSpace_indent,start,List.cons_append,skipSpace_char visible]
      · rw [← List.cons_append,← start]
        exact takeItems_last (here.taken depth fuel _ (by omega)) ((skipSpace_indent outer _).trans (skipSpace_char rfl _))
    | cons next items =>
      rw [laidItems] at enough ⊢
      simp only [List.length_append,List.length_cons] at enough
      obtain ⟨d,ds,more,apart,taken⟩ := ih (by simp) below fuel (by omega)
      refine ⟨c,cs ++ (',' :: (laidItems layout depth (next :: items) ++ (layout.indent outer ++ ']' :: rest))),?_,inside,?_⟩
      · simp only [List.append_assoc]
        rw [skipSpace_indent,start,List.cons_append,skipSpace_char visible]
        rfl
      · rw [← List.cons_append,← start,
          takeItems_more (here.taken depth fuel _ (by omega)) (skipSpace_char rfl _) more apart,taken]
        rfl

theorem takeEntries_laid {entries : List (String × Value)} (some_ : entries ≠ []) (each : ∀ e ∈ entries, layout.Returns e.2)
    (outer depth fuel : Nat) (rest : List Char) (enough : (laidEntries layout depth entries).length < fuel) :
    ∃ cs, skipSpace (laidEntries layout depth entries ++ (layout.indent outer ++ '\x7d' :: rest)) = '"' :: cs ∧
      takeEntries fuel cs = ⟨entries.map fun e => (.written e.1,e.2.written),.closed,some rest⟩ := by
  induction entries generalizing fuel with
  | nil => exact absurd rfl some_
  | cons e entries ih =>
    obtain ⟨here,below⟩ := List.forall_mem_cons.mp each
    obtain ⟨key,value⟩ := e
    obtain ⟨fuel,rfl⟩ : ∃ n, fuel = n + 1 := ⟨fuel - 1,by omega⟩
    have first (rest : List Char) (enough : (value.laid layout depth).length ≤ fuel) :
        takeValue fuel (layout.gap ++ (value.laid layout depth ++ rest)) = ⟨value.written,some rest⟩ :=
      (takeValue_congr (skipSpace_gap _)).trans (here.taken depth fuel rest enough)
    have start (rest : List Char) : skipSpace (layout.indent depth ++ (quotedChars key ++ rest)) =
        '"' :: (key.toList.flatMap escaped ++ '"' :: rest) := by
      rw [skipSpace_indent,quotedChars,List.cons_append,skipSpace_char rfl,List.append_assoc]
      rfl
    cases entries with
    | nil =>
      rw [laidEntries] at enough ⊢
      simp only [List.length_append,List.length_cons] at enough
      simp only [List.append_assoc,List.cons_append]
      refine ⟨_,start _,?_⟩
      exact takeEntries_last (first _ (by omega)) ((skipSpace_indent outer _).trans (skipSpace_char rfl _))
    | cons next entries =>
      rw [laidEntries] at enough ⊢
      simp only [List.length_append,List.length_cons] at enough
      simp only [List.append_assoc,List.cons_append]
      obtain ⟨cs,more,taken⟩ := ih (by simp) below fuel (by omega)
      refine ⟨_,start _,?_⟩
      rw [takeEntries_more (first _ (by omega)) (skipSpace_char rfl _) more,taken]
      rfl

theorem Layout.Returns.intro (worded : v.Worded)
    (taken : ∀ depth fuel rest, (v.laid layout depth).length ≤ fuel + 1 →
      takeValue (fuel + 1) (v.laid layout depth ++ rest) = ⟨v.written,some rest⟩) : layout.Returns v where
  start := v.laid_start worded layout
  taken depth fuel rest enough := by
    cases fuel with
    | zero =>
      obtain ⟨c,cs,start,-⟩ := v.laid_start worded layout depth
      simp [start] at enough
    | succ fuel => exact taken depth fuel rest enough

end

-- By induction on the value: fuel that is enough for the text of a container is enough for the texts inside it.
theorem Value.laid_returns {v : Value} (worded : v.Worded) (layout : Layout) : layout.Returns v := by
  induction v using Value.parts with
  | number n => simp [Worded] at worded
  | null =>
    refine .intro worded fun depth fuel rest enough => ?_
    simp [laid,chars,takeValue,takeWord,skipSpace_char (c := 'n') rfl,written]
  | bool b =>
    refine .intro worded fun depth fuel rest enough => ?_
    cases b
    · simp [laid,chars,takeValue,takeWord,skipSpace_char (c := 'f') rfl,written]
    · simp [laid,chars,takeValue,takeWord,skipSpace_char (c := 't') rfl,written]
  | string s =>
    refine .intro worded fun depth fuel rest enough => ?_
    simp [laid,quotedChars,takeValue,skipSpace_char (c := '"') rfl,takeUnits_escaped,written,Quoted.written]
  | array items ih =>
    refine .intro worded fun depth fuel rest enough => ?_
    rw [Worded] at worded
    cases items with
    | nil => simp [laid,takeValue,skipSpace_char (c := '[') rfl,skipSpace_char (c := ']') rfl,written]
    | cons item items =>
      rw [laid] at enough ⊢
      simp only [List.length_append,List.length_cons] at enough
      obtain ⟨c,cs,start,open_,taken⟩ := takeItems_laid (List.cons_ne_nil item items)
        (fun item member => ih item member (worded item member)) depth (depth + 1) fuel rest (by omega)
      simp [takeValue,skipSpace_char (c := '[') rfl,start,open_,taken,written]
  | object entries ih =>
    refine .intro worded fun depth fuel rest enough => ?_
    rw [Worded] at worded
    cases entries with
    | nil => simp [laid,takeValue,skipSpace_char (c := '\x7b') rfl,skipSpace_char (c := '\x7d') rfl,written]
    | cons entry entries =>
      rw [laid] at enough ⊢
      simp only [List.length_append,List.length_cons] at enough
      obtain ⟨cs,start,taken⟩ := takeEntries_laid (List.cons_ne_nil entry entries)
        (fun e member => ih e member (worded e member)) depth (depth + 1) fuel rest (by omega)
      simp [takeValue,skipSpace_char (c := '\x7b') rfl,start,taken,written]

theorem Document.ofText_laid {v : Value} (worded : v.Worded) (layout : Layout) :
    Document.ofText (String.ofList (v.laid layout 0)) = ⟨v.written,false⟩ := by
  have taken := (v.laid_returns worded layout).taken 0 ((v.laid layout 0).length + 1) [] (by omega)
  rw [List.append_nil] at taken
  simp [Document.ofText,taken,skipSpace]

end DomainSchema.Json
