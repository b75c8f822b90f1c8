import DomainSchema.Proofs.Entries
import DomainSchema.Proofs.TomlStrings
import DomainSchema.Toml.Writing
import Mathlib.Data.List.TakeDrop

namespace DomainSchema.Toml

-- A document of tables with one key a line is read as these tables.

-- The text of a value: wherever a line holds it up to its end, it is read there, with fuel for each of its characters.
structure Reads (text : List Char) (v : Value) : Prop where
  start : ∃ first more, text = first :: more ∧ isSpace first = false
  reads : ∀ fuel rest, text.length < fuel → value fuel nestingLimit (text ++ '\n' :: rest) = some (v,'\n' :: rest)

theorem stringChars_start (text : List Char) : ∃ quote more, stringChars text = quote :: more ∧ (quote = '"' ∨ quote = '\'') := by
  unfold stringChars
  cases formOf text with
  | basic | longBasic => exact ⟨_,_,rfl,.inl rfl⟩
  | literal | longLiteral => exact ⟨_,_,rfl,.inr rfl⟩

section
variable {rest : List Char}

theorem value_string (fuel depth : Nat) (text rest : List Char) (free : ∀ more, rest ≠ '"' :: more)
    (free' : ∀ more, rest ≠ '\'' :: more) :
    value (fuel + 1) depth (stringChars text ++ rest) = some (.string (String.ofList text),rest) := by
  have read := string_written text free free'
  obtain ⟨quote,more,chars,double | single⟩ := stringChars_start text
  · subst double
    rw [chars,List.cons_append] at read ⊢
    change (string _).map _ = _
    rw [read]
    rfl
  · subst single
    rw [chars,List.cons_append] at read ⊢
    change (string _).map _ = _
    rw [read]
    rfl

theorem elements_item {fuel depth : Nat} {cs text : List Char} (skipped : skipLines false cs = stringChars text ++ rest)
    (free : ∀ more, rest ≠ '"' :: more) (free' : ∀ more, rest ≠ '\'' :: more) : elements (fuel + 2) depth cs =
      match skipLines false rest with
      | ',' :: rest => do
        let (more,rest) ← elements (fuel + 1) depth rest
        return (.string (String.ofList text) :: more,rest)
      | ']' :: rest => return ([.string (String.ofList text)],rest)
      | _ => none := by
  rw [elements.eq_2,skipped]
  split
  · rename_i back ends
    obtain ⟨quote,more,chars,kind⟩ := stringChars_start text
    rw [chars] at ends
    cases (List.cons.inj ends).1
    simp at kind
  · rw [value_string fuel depth text rest free free']
    rfl

theorem skipLines_string (text rest : List Char) : skipLines false (stringChars text ++ rest) = stringChars text ++ rest := by
  obtain ⟨quote,more,chars,double | single⟩ := stringChars_start text
  all_goals
    subst quote
    rw [chars]
    rfl

def itemLines (texts : List String) : List Char := texts.flatMap fun t => "\n    ".toList ++ stringChars t.toList ++ [',']

theorem elements_lines (texts : List String) {fuel : Nat} (depth : Nat) (rest : List Char) (enough : texts.length + 1 < fuel) :
    elements fuel depth (itemLines texts ++ '\n' :: ']' :: rest) = some (texts.map .string,rest) := by
  induction texts generalizing fuel with
  | nil =>
    obtain ⟨fuel,rfl⟩ := Nat.exists_eq_add_of_lt enough
    rfl
  | cons t texts ih =>
    obtain ⟨fuel,rfl⟩ := Nat.exists_eq_add_of_lt enough
    have skipped : skipLines false (itemLines (t :: texts) ++ '\n' :: ']' :: rest) =
        stringChars t.toList ++ ',' :: (itemLines texts ++ '\n' :: ']' :: rest) := by
      rw [itemLines,List.flatMap_cons,List.append_assoc,List.append_assoc,List.append_assoc]
      change skipLines false (stringChars t.toList ++ _) = _
      rw [skipLines_string]
      rfl
    rw [show (t :: texts).length + 1 + fuel + 1 = (texts.length + 1 + fuel) + 2 by simp; omega]
    rw [elements_item skipped nofun nofun]
    change (elements (texts.length + 1 + fuel + 1) depth (itemLines texts ++ '\n' :: ']' :: rest) >>= _) = _
    rw [ih (by omega),String.ofList_toList]
    rfl

end

theorem reads_string (text : String) : Reads (stringChars text.toList) (.string text) where
  start := by
    obtain ⟨quote,more,chars,double | single⟩ := stringChars_start text.toList
    · exact ⟨_,_,chars,by rw [double]; rfl⟩
    · exact ⟨_,_,chars,by rw [single]; rfl⟩
  reads fuel rest enough := by
    obtain ⟨fuel,rfl⟩ := Nat.exists_eq_add_of_lt enough
    have read := value_string ((stringChars text.toList).length + fuel) nestingLimit text.toList ('\n' :: rest) nofun nofun
    rwa [String.ofList_toList] at read

theorem reads_boolean (b : Bool) : Reads (booleanText b).toList (.boolean b) := by
  cases b with
  | true =>
    refine ⟨⟨_,_,rfl,rfl⟩,fun fuel rest enough => ?_⟩
    obtain ⟨fuel,rfl⟩ := Nat.exists_eq_add_of_lt enough
    rfl
  | false =>
    refine ⟨⟨_,_,rfl,rfl⟩,fun fuel rest enough => ?_⟩
    obtain ⟨fuel,rfl⟩ := Nat.exists_eq_add_of_lt enough
    rfl

theorem itemLines_length (texts : List String) : 5 * texts.length ≤ (itemLines texts).length := by
  induction texts with
  | nil => exact Nat.le_refl _
  | cons t texts ih =>
    rw [itemLines,List.flatMap_cons]
    change _ ≤ (_ ++ itemLines texts).length
    simp only [List.length_append,List.length_cons]
    have lead : "\n    ".toList.length = 5 := by decide
    omega

theorem value_list {fuel : Nat} {text rest : List Char} {items : List Value}
    (read : elements fuel 78 (text ++ '\n' :: rest) = some (items,'\n' :: rest)) :
    value (fuel + 1) nestingLimit ('[' :: text ++ '\n' :: rest) = some (.array items,'\n' :: rest) := by
  change (elements fuel 78 (text ++ '\n' :: rest) >>= _) = _
  rw [read]
  rfl

theorem stringsText_lines (first second : String) (more : List String) :
    (stringsText (first :: second :: more)).toList = '[' :: (itemLines (first :: second :: more) ++ ['\n',']']) := by
  simp [stringsText,stringText,itemLines,String.toList_join,List.flatMap_map]

theorem reads_strings (texts : List String) : Reads (stringsText texts).toList (.array (texts.map .string)) := by
  match texts with
  | [] =>
    refine ⟨⟨_,_,rfl,rfl⟩,fun fuel rest enough => ?_⟩
    have two : 2 < fuel := enough
    obtain ⟨fuel,rfl⟩ := Nat.exists_eq_add_of_lt two
    rw [show 2 + fuel + 1 = fuel + 1 + 1 + 1 by omega]
    rfl
  | [only] =>
    have chars : (stringsText [only]).toList = '[' :: (stringChars only.toList ++ [']']) := by simp [stringsText,stringText]
    rw [chars]
    refine ⟨⟨_,_,rfl,rfl⟩,fun fuel rest enough => ?_⟩
    have three : 2 < fuel := by
      obtain ⟨quote,more,string,-⟩ := stringChars_start only.toList
      simp [string] at enough
      omega
    obtain ⟨fuel,rfl⟩ := Nat.exists_eq_add_of_lt three
    rw [show 2 + fuel + 1 = fuel + 2 + 1 by omega]
    refine value_list ?_
    rw [List.append_assoc,List.singleton_append,elements_item (skipLines_string only.toList (']' :: '\n' :: rest)) nofun nofun]
    rw [String.ofList_toList]
    rfl
  | first :: second :: more =>
    rw [stringsText_lines]
    refine ⟨⟨_,_,rfl,rfl⟩,fun fuel rest enough => ?_⟩
    have each := itemLines_length (first :: second :: more)
    simp only [List.length_cons,List.length_append,List.length_nil] at enough each
    obtain ⟨fuel,rfl⟩ : ∃ inner, fuel = inner + 1 := ⟨fuel - 1,by omega⟩
    refine value_list ?_
    rw [List.append_assoc]
    exact elements_lines _ 78 _ (by simp only [List.length_cons]; omega)

structure Bare (name : String) : Prop where
  filled : name.toList ≠ []
  all : name.toList.all isBareKey = true

section
variable {name : String} {c : Char} {rest : List Char}

theorem Bare.each (bare : Bare name) : ∀ c ∈ name.toList, isBareKey c = true := List.all_eq_true.mp bare.all

theorem Bare.head (bare : Bare name) : ∃ first more, name.toList = first :: more ∧ isBareKey first = true := by
  match chars : name.toList with
  | [] => exact absurd chars bare.filled
  | first :: more => exact ⟨first,more,rfl,bare.each first (chars ▸ List.mem_cons_self)⟩

theorem isSpace_bare (bare : isBareKey c = true) : isSpace c = false := by
  cases space : isSpace c with
  | false => rfl
  | true =>
    simp only [isSpace,Bool.or_eq_true,beq_iff_eq] at space
    rcases space with rfl | rfl <;> cases bare

theorem skipSpaces_kept (kept : isSpace c = false) (rest : List Char) : skipSpaces (c :: rest) = c :: rest := by
  simp [skipSpaces,kept]

theorem simpleKey_bare (bare : Bare name) (stops : isBareKey c = false) :
    simpleKey (name.toList ++ c :: rest) = some (name,c :: rest) := by
  obtain ⟨first,more,chars,head⟩ := bare.head
  have unquoted : ∀ quote, isBareKey quote = false → ∀ back, name.toList ++ c :: rest ≠ quote :: back := by
    intro quote apart back same
    rw [chars] at same
    obtain rfl := (List.cons.inj same).1
    rw [head] at apart
    cases apart
  rw [simpleKey.eq_3 _ (unquoted '"' rfl) (unquoted '\'' rfl),List.span_eq_takeWhile_dropWhile]
  dsimp only
  rw [List.takeWhile_append_of_pos bare.each,List.dropWhile_append_of_pos bare.each,
    List.takeWhile_cons_of_neg (by simp [stops]),List.dropWhile_cons_of_neg (by simp [stops]),List.append_nil,
    if_neg bare.filled,String.ofList_toList]

theorem key_bare {d : Char} {more : List Char} (bare : Bare name) (stops : isBareKey c = false)
    (next : skipSpaces (c :: rest) = d :: more) (single : d ≠ '.') :
    key nestingLimit (name.toList ++ c :: rest) = some ([name],d :: more) := by
  have whole : skipSpaces (name.toList ++ c :: rest) = name.toList ++ c :: rest := by
    obtain ⟨first,_,chars,head⟩ := bare.head
    rw [chars]
    exact skipSpaces_kept (isSpace_bare head) _
  rw [show nestingLimit = 78 + 1 from rfl,key.eq_2,whole,simpleKey_bare bare stops]
  dsimp only [Option.bind_eq_bind,Option.bind_some]
  rw [next]
  split
  · rename_i same
    exact absurd (List.cons.inj same).1 single
  · rfl

end

-- From here on the text adds up to these items, with fuel for each of its characters.
def Completes (p : Progress) (cs : List Char) (items : Items) : Prop :=
  ∀ fuel, cs.length < fuel → statements fuel p cs = some items

theorem completes_nil (p : Progress) : Completes p [] p.items := by
  intro fuel enough
  obtain ⟨fuel,rfl⟩ := Nat.exists_eq_add_of_lt enough
  rfl

section
variable {p next : Progress} {rest : List Char} {items : Items}

theorem completes_blank (later : Completes p rest items) : Completes p ('\n' :: rest) items := by
  intro fuel enough
  obtain ⟨fuel,rfl⟩ : ∃ inner, fuel = inner + 1 := ⟨fuel - 1,by omega⟩
  exact later (fuel + 1) (Nat.lt_of_succ_lt enough)

theorem completes_line {c : Char} {line : List Char} (starts : isBareKey c = true ∨ c = '[')
    (stated : statement p (c :: line ++ '\n' :: rest) = some (next,'\n' :: rest)) (later : Completes next rest items) :
    Completes p (c :: line ++ '\n' :: rest) items := by
  intro fuel enough
  obtain ⟨fuel,rfl⟩ : ∃ inner, fuel = inner + 1 := ⟨fuel - 1,by omega⟩
  have shown : c ≠ '\n' ∧ c ≠ '\r' ∧ isSpace c = false ∧ c ≠ '#' := by
    rcases starts with bare | rfl
    · refine ⟨?_,?_,isSpace_bare bare,?_⟩ <;> rintro rfl <;> cases bare
    · decide
  have kept : skipLines false (c :: line ++ '\n' :: rest) = c :: line ++ '\n' :: rest := by
    rw [List.cons_append,skipLines.eq_5 _ _ shown.1 fun _ same => absurd same shown.2.1,if_neg (by simp [shown.2.2.1]),
      if_neg shown.2.2.2]
  rw [statements.eq_2,kept]
  change (statement p (c :: line ++ '\n' :: rest) >>= _) = _
  rw [stated]
  refine later fuel ?_
  simp only [List.length_append,List.length_cons] at enough
  omega

end

section
variable {name : String} {before : Items}

theorem lookup_last (new : name ∉ before.map Prod.fst) (item : Item) :
    (before ++ [(name,item)]).lookup name = some item := by
  induction before with
  | nil => simp
  | cons entry before ih =>
    rw [List.map_cons,List.mem_cons,not_or] at new
    rw [List.cons_append,lookup_cons_if,if_neg new.1,ih new.2]

theorem setItem_new (new : name ∉ before.map Prod.fst) (item : Item) :
    setItem name item before = before ++ [(name,item)] := by
  induction before with
  | nil => rfl
  | cons entry before ih =>
    rw [List.map_cons,List.mem_cons,not_or] at new
    rw [setItem,if_neg (Ne.symm new.1),ih new.2,List.cons_append]

theorem setItem_last (new : name ∉ before.map Prod.fst) (old item : Item) :
    setItem name item (before ++ [(name,old)]) = before ++ [(name,item)] := by
  induction before with
  | nil => simp [setItem]
  | cons entry before ih =>
    rw [List.map_cons,List.mem_cons,not_or] at new
    rw [List.cons_append,setItem,if_neg (Ne.symm new.1),ih new.2,List.cons_append]

end

structure Pair where
  key : String
  text : String
  value : Value

structure Pair.Good (pair : Pair) : Prop where
  bare : Bare pair.key
  reads : Reads pair.text.toList pair.value
  settled : settle pair.value = some pair.value

def Pair.chars (pair : Pair) : List Char := pair.key.toList ++ " = ".toList ++ pair.text.toList

def Pair.entry (pair : Pair) : String × Value := (pair.key,pair.value)

def Pair.item (pair : Pair) : String × Item := (pair.key,.value pair.value)

section
variable {table : String} {before entries : Items} {rest : List Char}

theorem statement_pair {pair : Pair} (good : pair.Good) (new : table ∉ before.map Prod.fst)
    (free : pair.key ∉ entries.map Prod.fst) :
    statement ⟨[table],before ++ [(table,.table .header entries)]⟩ (pair.chars ++ '\n' :: rest) =
      some (⟨[table],before ++ [(table,.table .header (entries ++ [pair.item]))]⟩,'\n' :: rest) := by
  obtain ⟨first,more,chars,head⟩ := good.bare.head
  have noHeader : ∀ back, pair.chars ++ '\n' :: rest ≠ '[' :: back := by
    intro back same
    rw [Pair.chars,chars] at same
    obtain rfl := (List.cons.inj same).1
    cases head
  have split : pair.chars ++ '\n' :: rest = pair.key.toList ++ ' ' :: '=' :: ' ' :: (pair.text.toList ++ '\n' :: rest) := by
    simp [Pair.chars]
  rw [statement.eq_3 _ _ (fun back => noHeader _) noHeader,split,key_bare good.bare rfl rfl (by decide)]
  change (value _ nestingLimit (skipSpaces (' ' :: (pair.text.toList ++ '\n' :: rest))) >>= _) = _
  have trimmed : skipSpaces (' ' :: (pair.text.toList ++ '\n' :: rest)) = pair.text.toList ++ '\n' :: rest := by
    obtain ⟨c,_,text,shown⟩ := good.reads.start
    rw [text]
    exact skipSpaces_kept shown _
  rw [trimmed,good.reads.reads _ rest (by simp; omega)]
  have added : Progress.add ⟨[table],before ++ [(table,.table .header entries)]⟩ [pair.key] pair.value =
      some ⟨[table],before ++ [(table,.table .header (entries ++ [pair.item]))]⟩ := by
    have found := lookup_last new (.table .header entries)
    have absent : (entries.lookup pair.key).isSome = false := by rw [lookup_absent free]; rfl
    simp [Progress.add,alongHeader,found,addPair,splitKey,addAlong,absent,setItem_last new,Pair.item]
  change (Progress.add _ [pair.key] pair.value >>= _) = _
  rw [added]
  rfl

theorem Pair.chars_head {pair : Pair} (good : pair.Good) : ∃ first more, pair.chars = first :: more ∧ isBareKey first = true := by
  obtain ⟨first,more,chars,head⟩ := good.bare.head
  exact ⟨first,_,by rw [Pair.chars,chars]; rfl,head⟩

theorem completes_pairs {pairs : List Pair} {items : Items} (good : ∀ pair ∈ pairs, pair.Good)
    (new : table ∉ before.map Prod.fst) (distinct : (entries.map Prod.fst ++ pairs.map Pair.key).Nodup)
    (later : Completes ⟨[table],before ++ [(table,.table .header (entries ++ pairs.map Pair.item))]⟩ rest items) :
    Completes ⟨[table],before ++ [(table,.table .header entries)]⟩
      (pairs.flatMap (fun pair => pair.chars ++ ['\n']) ++ rest) items := by
  induction pairs generalizing entries with
  | nil => simpa using later
  | cons pair pairs ih =>
    rw [List.forall_mem_cons] at good
    have free : pair.key ∉ entries.map Prod.fst := fun member =>
      (List.nodup_append.mp distinct).2.2 _ member _ (by simp) rfl
    obtain ⟨first,more,chars,head⟩ := Pair.chars_head good.1
    have stated := @statement_pair _ _ _ (pairs.flatMap (fun pair => pair.chars ++ ['\n']) ++ rest) _ good.1 new free
    rw [chars] at stated
    have step := completes_line (.inl head) stated (ih good.2 (by simpa [Pair.item] using distinct) (by simpa using later))
    rw [← chars] at step
    simpa using step

end

structure Block where
  name : String
  pairs : List Pair

structure Block.Good (block : Block) : Prop where
  bare : Bare block.name
  pairs : ∀ pair ∈ block.pairs, pair.Good
  distinct : (block.pairs.map Pair.key).Nodup

def Block.text (block : Block) : String := tableText block.name (block.pairs.map fun pair => (pair.key,pair.text))

def Block.entry (block : Block) : String × Value := (block.name,.table (block.pairs.map Pair.entry))

def Block.item (block : Block) : String × Item := (block.name,.table .header (block.pairs.map Pair.item))

theorem Block.text_chars (block : Block) : block.text.toList =
    '[' :: (block.name.toList ++ [']']) ++ '\n' :: block.pairs.flatMap fun pair => pair.chars ++ ['\n'] := by
  simp [Block.text,tableText,Pair.chars,String.toList_join,List.flatMap_map]

theorem statement_header {table : String} {p : Progress} {rest : List Char} (bare : Bare table)
    (new : table ∉ p.items.map Prod.fst) : statement p ('[' :: (table.toList ++ [']']) ++ '\n' :: rest) =
      some (⟨[table],p.items ++ [(table,.table .header [])]⟩,'\n' :: rest) := by
  obtain ⟨first,more,chars,head⟩ := bare.head
  have split : '[' :: (table.toList ++ [']']) ++ '\n' :: rest = '[' :: (table.toList ++ ']' :: '\n' :: rest) := by simp
  have single : ∀ back, table.toList ++ ']' :: '\n' :: rest ≠ '[' :: back := by
    intro back same
    rw [chars] at same
    obtain rfl := (List.cons.inj same).1
    cases head
  rw [split,statement.eq_2 _ _ single,key_bare bare rfl rfl (by decide)]
  have opened : p.openAt [table] openTable = some ⟨[table],p.items ++ [(table,.table .header [])]⟩ := by
    simp [Progress.openAt,splitKey,alongHeader,openTable,lookup_absent new,setItem_new new]
  change (p.openAt [table] openTable >>= _) = _
  rw [opened]
  rfl

theorem completes_block {block : Block} {p : Progress} {rest : List Char} {items : Items} (good : block.Good)
    (new : block.name ∉ p.items.map Prod.fst) (later : Completes ⟨[block.name],p.items ++ [block.item]⟩ rest items) :
    Completes p (block.text.toList ++ rest) items := by
  rw [Block.text_chars,List.append_assoc,List.cons_append]
  refine completes_line (.inr rfl) (statement_header good.bare new) ?_
  exact completes_pairs good.pairs new (by simpa using good.distinct) later

theorem completes_document {blocks : List Block} {p : Progress} (good : ∀ block ∈ blocks, block.Good)
    (distinct : (p.items.map Prod.fst ++ blocks.map Block.name).Nodup) :
    Completes p (Text.join "\n" (blocks.map Block.text)).toList (p.items ++ blocks.map Block.item) := by
  induction blocks generalizing p with
  | nil => simpa [Text.join] using completes_nil p
  | cons block blocks ih =>
    rw [List.forall_mem_cons] at good
    have new : block.name ∉ p.items.map Prod.fst := fun member =>
      (List.nodup_append.mp distinct).2.2 _ member _ (by simp) rfl
    have more := @ih ⟨[block.name],p.items ++ [block.item]⟩ good.2 (by simpa [Block.item] using distinct)
    cases blocks with
    | nil => simpa [Text.join] using completes_block good.1 new more
    | cons other blocks =>
      have step := completes_block good.1 new (completes_blank more)
      simpa [Text.join] using step

theorem Bare.apart {name : String} (bare : Bare name) : name ≠ datetimeKey := by
  rintro rfl
  have dollar := bare.each '$' (by decide)
  cases dollar

theorem settleEntries_kept {entries : List (String × Value)} (settled : ∀ entry ∈ entries, settle entry.2 = some entry.2) :
    settleEntries entries = some entries := by
  induction entries with
  | nil => rfl
  | cons entry entries ih =>
    rw [List.forall_mem_cons] at settled
    rw [settleEntries,settled.1,ih settled.2]
    rfl

theorem settle_table {entries : List (String × Value)} (apart : ∀ entry ∈ entries, entry.1 ≠ datetimeKey)
    (settled : ∀ entry ∈ entries, settle entry.2 = some entry.2) : settle (.table entries) = some (.table entries) := by
  cases entries with
  | nil => rfl
  | cons entry entries =>
    rw [List.forall_mem_cons] at apart settled
    change (if entry.1 = datetimeKey then _ else settle entry.2 >>= _) = _
    rw [if_neg apart.1,settled.1]
    change (settleEntries entries >>= _) = _
    rw [settleEntries_kept settled.2]
    rfl

theorem settleItems_strings (texts : List String) : settleItems (texts.map .string) = some (texts.map .string) := by
  induction texts with
  | nil => rfl
  | cons t texts ih =>
    rw [List.map_cons,settleItems,ih]
    rfl

theorem settle_strings (texts : List String) : settle (.array (texts.map .string)) = some (.array (texts.map .string)) := by
  rw [settle,settleItems_strings]
  rfl

theorem Block.item_values (blocks : List Block) : itemsToValues (blocks.map Block.item) = blocks.map Block.entry := by
  have pairs (pairs : List Pair) : itemsToValues (pairs.map Pair.item) = pairs.map Pair.entry := by
    induction pairs with
    | nil => rfl
    | cons pair pairs ih =>
      rw [List.map_cons,List.map_cons,Pair.item,itemsToValues,ih]
      rfl
  induction blocks with
  | nil => rfl
  | cons block blocks ih =>
    rw [List.map_cons,List.map_cons,Block.item,itemsToValues,ih,Item.toValue,pairs]
    rfl

theorem Block.Good.settled {block : Block} (good : block.Good) : settle block.entry.2 = some block.entry.2 := by
  refine settle_table ?_ ?_ <;> intro entry member <;> obtain ⟨pair,inside,rfl⟩ := List.mem_map.mp member
  · exact (good.pairs pair inside).bare.apart
  · exact (good.pairs pair inside).settled

theorem read_written {blocks : List Block} (good : ∀ block ∈ blocks, block.Good)
    (distinct : (blocks.map Block.name).Nodup) :
    read? (Text.join "\n" (blocks.map Block.text)) = some (blocks.map Block.entry) := by
  have complete := @completes_document _ {} good (by simpa using distinct) _ (Nat.lt_succ_self _)
  have settled : settle (.table (blocks.map Block.entry)) = some (.table (blocks.map Block.entry)) := by
    refine settle_table ?_ ?_ <;> intro entry member <;> obtain ⟨block,inside,rfl⟩ := List.mem_map.mp member
    · exact (good block inside).bare.apart
    · exact (good block inside).settled
  unfold read?
  dsimp only
  rw [complete]
  simp [Block.item_values,settled]

section
variable {key : String} (bare : Bare key)
include bare

theorem good_string (text : String) : Pair.Good ⟨key,stringText text,.string text⟩ :=
  ⟨bare,by simpa [stringText] using reads_string text,rfl⟩

theorem good_strings (texts : List String) : Pair.Good ⟨key,stringsText texts,.array (texts.map .string)⟩ :=
  ⟨bare,reads_strings texts,settle_strings texts⟩

theorem good_boolean (b : Bool) : Pair.Good ⟨key,booleanText b,.boolean b⟩ := ⟨bare,reads_boolean b,rfl⟩

end

theorem good_block {name : String} {pairs : List Pair} (keys : List String) (bare : Bare name)
    (good : ∀ pair ∈ pairs, pair.Good) (own : pairs.map Pair.key = keys) (distinct : keys.Nodup) : Block.Good ⟨name,pairs⟩ :=
  ⟨bare,good,own ▸ distinct⟩

end DomainSchema.Toml
