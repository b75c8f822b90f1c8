import DomainSchema.Text.Literal
import Mathlib.Data.List.Basic

namespace DomainSchema.Text

-- A literal is read back as the text it was written for, and nothing of that text ends it or breaks its line.

def escaping (front : List Char) : Bool := front.foldl (fun open_ c => !open_ && c == '\\') false

-- What may stand between the quotes of a literal: no line break, no quote that is not escaped, and nothing that would escape
-- the closing one.
structure Enclosed (body : List Char) : Prop where
  one_line : '\n' ∉ body ∧ '\r' ∉ body
  quotes : ∀ front back, body = front ++ '"' :: back → escaping front = true
  complete : escaping body = false

theorem escaping_append (front back : List Char) (complete : escaping front = false) :
    escaping (front ++ back) = escaping back := by
  unfold escaping at complete ⊢
  rw [List.foldl_append,complete]

theorem escaping_plain {front : List Char} (free : '\\' ∉ front) : escaping front = false := by
  induction front with
  | nil => rfl
  | cons c rest ih =>
    rw [List.mem_cons,not_or] at free
    have single : escaping [c] = false := by simp [escaping,Ne.symm free.1]
    exact (escaping_append [c] rest single).trans (ih free.2)

theorem Enclosed.nil : Enclosed [] := ⟨⟨by simp,by simp⟩,fun front back split => by simp at split,rfl⟩

theorem Enclosed.append {front back : List Char} (enclosed : Enclosed front) (enclosed' : Enclosed back) :
    Enclosed (front ++ back) := by
  refine ⟨?_,fun before after split => ?_,?_⟩
  · simp only [List.mem_append,not_or]
    exact ⟨⟨enclosed.one_line.1,enclosed'.one_line.1⟩,enclosed.one_line.2,enclosed'.one_line.2⟩
  · rcases List.append_eq_append_iff.mp split with ⟨middle,rfl,later⟩ | ⟨middle,rfl,later⟩
    · rw [escaping_append _ _ enclosed.complete]
      exact enclosed'.quotes middle after later
    · cases middle with
      | nil =>
        have quoted := enclosed'.quotes [] after (by simpa using later.symm)
        cases quoted
      | cons c rest =>
        cases later
        exact enclosed.quotes before rest rfl
  · rw [escaping_append _ _ enclosed.complete,enclosed'.complete]

def Bare (c : Char) : Prop := c ≠ '\\' ∧ c ≠ '"' ∧ c ≠ '\n' ∧ c ≠ '\r'

instance (c : Char) : Decidable (Bare c) := inferInstanceAs (Decidable (_ ∧ _))

theorem Enclosed.bare {body : List Char} (bare : ∀ c ∈ body, Bare c) : Enclosed body := by
  refine ⟨⟨?_,?_⟩,fun front back split => ?_,?_⟩
  · exact fun member => (bare _ member).2.2.1 rfl
  · exact fun member => (bare _ member).2.2.2 rfl
  · have quote : '"' ∈ body := by simp [split]
    exact absurd rfl (bare _ quote).2.1
  · exact escaping_plain fun member => (bare _ member).1 rfl

theorem Enclosed.pair {c : Char} (shown : c ≠ '\n' ∧ c ≠ '\r') : Enclosed ['\\',c] := by
  refine ⟨⟨?_,?_⟩,fun front back split => ?_,?_⟩
  · simp [Ne.symm shown.1]
  · simp [Ne.symm shown.2]
  · match front with
    | [] => cases split
    | [first] =>
      cases split
      rfl
    | first :: second :: more => simp at split
  · simp [escaping]

theorem hexDigits_large {n : Nat} (large : 16 ≤ n) : hexDigits n = hexDigits (n / 16) ++ [Nat.digitChar (n % 16)] := by
  have small : n % 16 < 16 := Nat.mod_lt _ (by decide)
  have above : 0 < n / 16 := Nat.div_pos large (by decide)
  have digits := Nat.toDigits_append_toDigits (b := 16) (by decide) above small
  rw [Nat.div_add_mod,Nat.toDigits_of_lt_base small] at digits
  exact digits.symm

theorem digit_value : ∀ d < 16, hexValue? (Nat.digitChar d) = some d := by decide

theorem digit_bare : ∀ d < 16, Bare (Nat.digitChar d) ∧ Nat.digitChar d ≠ '\x7d' := by decide

theorem hexNumber_hexDigits (n : Nat) : hexNumber? (hexDigits n) = some n := by
  induction n using Nat.strongRecOn with
  | ind n ih =>
    unfold hexNumber? at ih ⊢
    by_cases large : 16 ≤ n
    · have smaller : n / 16 < n := Nat.div_lt_self (by omega) (by decide)
      have last := digit_value (n % 16) (Nat.mod_lt _ (by decide))
      rw [hexDigits_large large,List.foldlM_append,ih _ smaller]
      simp [last,Nat.div_add_mod]
    · have digit := digit_value n (by omega)
      rw [hexDigits,Nat.toDigits_of_lt_base (by omega)]
      simp [digit]

theorem mem_hexDigits {n : Nat} {c : Char} (member : c ∈ hexDigits n) : ∃ d < 16, c = Nat.digitChar d := by
  induction n using Nat.strongRecOn with
  | ind n ih =>
    by_cases large : 16 ≤ n
    · have smaller : n / 16 < n := Nat.div_lt_self (by omega) (by decide)
      rw [hexDigits_large large,List.mem_append] at member
      rcases member with early | last
      · exact ih _ smaller early
      · exact ⟨n % 16,Nat.mod_lt _ (by decide),List.mem_singleton.mp last⟩
    · rw [hexDigits,Nat.toDigits_of_lt_base (by omega),List.mem_singleton] at member
      exact ⟨n,by omega,member⟩

theorem coded_hexDigits (c : Char) : coded? (hexDigits c.toNat) = some c := by
  have valid : c.toNat.isValidChar := c.valid
  have below : c.toNat < 16 ^ 6 := by
    rcases valid with early | ⟨-,late⟩ <;> omega
  have some_ : (hexDigits c.toNat).isEmpty = false := List.isEmpty_eq_false_iff.mpr Nat.toDigits_ne_nil
  have few : (hexDigits c.toNat).length ≤ 6 := (Nat.length_toDigits_le_iff (by decide) (by decide)).mpr below
  have counted : ¬ ((hexDigits c.toNat).isEmpty ∨ 6 < (hexDigits c.toNat).length) := by simp [some_,few]
  rw [coded?,if_neg counted,hexNumber_hexDigits,Option.bind_some,if_pos valid,Char.ofNat_toNat]

inductive Written (hidden : Char → Bool) (c : Char) : List Char → Prop
  | named {letter : Char} (named : named? letter = some c) : Written hidden c ['\\',letter]
  | coded : Written hidden c ('\\' :: 'u' :: '\x7b' :: (hexDigits c.toNat ++ ['\x7d']))
  | itself (bare : Bare c) (shown : hidden c = false) : Written hidden c [c]

theorem literalChar_written (hidden : Char → Bool) (c : Char) : Written hidden c (literalChar hidden c) := by
  unfold literalChar
  split
  · rename_i null
    exact .named (by rw [null]; rfl)
  split
  · rename_i tab
    exact .named (by rw [tab]; rfl)
  split
  · rename_i return_
    exact .named (by rw [return_]; rfl)
  split
  · rename_i feed
    exact .named (by rw [feed]; rfl)
  split
  · rename_i quote
    exact .named (by rw [quote]; rfl)
  split
  · rename_i backslash
    exact .named (by rw [backslash]; rfl)
  split
  · exact .coded
  · rename_i return_ feed quote backslash shown
    exact .itself ⟨backslash,quote,feed,return_⟩ (by simpa using shown)

theorem named_letter {letter c : Char} (named : named? letter = some c) : letter ∈ ['0','t','r','n','"','\\'] := by
  unfold named? at named
  split at named <;> simp_all

theorem mem_code {n : Nat} {c : Char} (member : c ∈ '\x7b' :: (hexDigits n ++ ['\x7d'])) :
    c ∈ ['\x7b','\x7d'] ∨ ∃ d < 16, c = Nat.digitChar d := by
  rcases List.mem_cons.mp member with rfl | member
  · exact .inl (by decide)
  · rcases List.mem_append.mp member with digit | last
    · exact .inr (mem_hexDigits digit)
    · rw [List.mem_singleton.mp last]
      exact .inl (by decide)

theorem literalChar_enclosed (hidden : Char → Bool) (c : Char) : Enclosed (literalChar hidden c) := by
  have written := literalChar_written hidden c
  generalize literalChar hidden c = piece at written ⊢
  cases written with
  | named named =>
    have marks : ∀ letter ∈ ['0','t','r','n','"','\\'], letter ≠ '\n' ∧ letter ≠ '\r' := by simp
    exact .pair (marks _ (named_letter named))
  | coded =>
    refine (Enclosed.pair (by decide)).append (.bare fun c member => ?_)
    rcases mem_code member with bracket | ⟨d,small,rfl⟩
    · have marks : ∀ c ∈ ['\x7b','\x7d'], Bare c := by simp [Bare]
      exact marks c bracket
    · exact (digit_bare d small).1
  | itself bare _ => exact .bare (by simpa using bare)

theorem literal_enclosed (hidden : Char → Bool) (text : List Char) : Enclosed (text.flatMap (literalChar hidden)) := by
  induction text with
  | nil => exact .nil
  | cons c rest ih => exact (literalChar_enclosed hidden c).append ih

section
variable {c : Char} {text rest tail : List Char}

theorem readLiteral_itself (bare : Bare c) (read : readLiteral none tail = some (text,rest)) :
    readLiteral none (c :: tail) = some (c :: text,rest) := by
  obtain ⟨backslash,quote,feed,return_⟩ := bare
  rw [readLiteral]
  · simp [backslash,feed,return_,read]
  all_goals simp_all

theorem readLiteral_named {letter : Char} (named : named? letter = some c) (read : readLiteral none tail = some (text,rest)) :
    readLiteral none ('\\' :: letter :: tail) = some (c :: text,rest) := by
  have uncoded : letter ≠ 'u' := by
    rintro rfl
    cases named
  rw [readLiteral]
  · simp [named,read]
  · exact fun _ code => absurd code uncoded

theorem readLiteral_digits {digits : List Char} (closing : '\x7d' ∉ digits) (before tail : List Char) :
    readLiteral (some before) (digits ++ '\x7d' :: tail) = readLiteral (some (before ++ digits)) ('\x7d' :: tail) := by
  induction digits generalizing before with
  | nil => simp
  | cons d more ih =>
    rw [List.mem_cons,not_or] at closing
    have step : readLiteral (some before) (d :: (more ++ '\x7d' :: tail)) =
        readLiteral (some (before ++ [d])) (more ++ '\x7d' :: tail) := by
      rw [readLiteral]
      exact fun same => closing.1 same.symm
    rw [List.cons_append,step,ih closing.2,List.append_assoc,List.singleton_append]

theorem readLiteral_coded (read : readLiteral none tail = some (text,rest)) :
    readLiteral none ('\\' :: 'u' :: '\x7b' :: (hexDigits c.toNat ++ '\x7d' :: tail)) = some (c :: text,rest) := by
  have closing : '\x7d' ∉ hexDigits c.toNat := by
    intro member
    obtain ⟨d,small,same⟩ := mem_hexDigits member
    exact (digit_bare d small).2 same.symm
  rw [readLiteral,readLiteral_digits closing,List.nil_append,readLiteral]
  simp [coded_hexDigits,read]

theorem readLiteral_char (hidden : Char → Bool) (read : readLiteral none tail = some (text,rest)) :
    readLiteral none (literalChar hidden c ++ tail) = some (c :: text,rest) := by
  have written := literalChar_written hidden c
  generalize literalChar hidden c = piece at written ⊢
  cases written with
  | named named => exact readLiteral_named named read
  | coded =>
    simp only [List.cons_append,List.append_assoc,List.nil_append]
    exact readLiteral_coded read
  | itself bare _ => exact readLiteral_itself bare read

end

-- A literal ends at its closing quote, whatever follows, and what is read from it is the text it was written for.
theorem readLiteral_literal (hidden : Char → Bool) (text rest : List Char) :
    readLiteral none (text.flatMap (literalChar hidden) ++ '"' :: rest) = some (text,rest) := by
  induction text with
  | nil => simp [readLiteral]
  | cons c more ih =>
    rw [List.flatMap_cons,List.append_assoc]
    exact readLiteral_char hidden ih

theorem marks_shown {mark : Char} (member : mark ∈ ['\\','u','\x7b','\x7d','0','t','r','n','"']) : isHidden mark = false := by
  have shown : ['\\','u','\x7b','\x7d','0','t','r','n','"'].all (fun mark => !isHidden mark) = true := by decide +kernel
  simpa using List.all_eq_true.mp shown mark member

theorem literalChar_shown (c : Char) : ∀ mark ∈ literalChar isHidden c, isHidden mark = false := by
  have written := literalChar_written isHidden c
  generalize literalChar isHidden c = piece at written ⊢
  cases written with
  | @named letter named =>
    have known := named_letter named
    have shown : isHidden letter = false := marks_shown (by grind)
    exact List.forall_mem_cons.mpr ⟨marks_shown (by simp),by simpa using shown⟩
  | coded =>
    have digits : ∀ d < 16, isHidden (Nat.digitChar d) = false := by decide +kernel
    refine List.forall_mem_cons.mpr ⟨marks_shown (by simp),List.forall_mem_cons.mpr ⟨marks_shown (by simp),?_⟩⟩
    intro mark member
    rcases mem_code member with bracket | ⟨d,small,rfl⟩
    · exact marks_shown (by grind)
    · exact digits d small
  | itself _ shown => simpa using shown

theorem literal_shown (text : List Char) : ∀ c ∈ literalChars isHidden text, isHidden c = false := by
  have quote : isHidden '"' = false := marks_shown (by simp)
  intro c member
  rcases List.mem_cons.mp member with rfl | member
  · exact quote
  rcases List.mem_append.mp member with inside | last
  · obtain ⟨shown,-,piece⟩ := List.mem_flatMap.mp inside
    exact literalChar_shown shown c piece
  · rw [List.mem_singleton.mp last]
    exact quote

end DomainSchema.Text
