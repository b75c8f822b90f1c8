import DomainSchema.Toml.Document
import DomainSchema.Toml.Writing
import Mathlib.Data.List.Basic

namespace DomainSchema.Toml

-- A string is read back from each of its four forms, so whichever form a text is written in.

theorem codeEscape_control {c : Char} (control : isControl c = true) :
    codeEscape? ['0','0',(Nat.digitChar (c.toNat / 16)).toUpper,(Nat.digitChar (c.toNat % 16)).toUpper] = some c := by
  have small : c.toNat < 128 := by
    simp only [isControl,Bool.or_eq_true,decide_eq_true_eq,beq_iff_eq] at control
    rcases control with below | rfl
    · exact Nat.lt_trans below (by decide)
    · decide
  have each : ∀ n : Fin 128, isControl (Char.ofNat n) = true →
      codeEscape? ['0','0',(Nat.digitChar (n / 16)).toUpper,(Nat.digitChar (n % 16)).toUpper] = some (Char.ofNat n) := by
    decide
  have own := each ⟨c.toNat,small⟩
  simp only [Char.ofNat_toNat] at own
  exact own control

theorem isText_of_not_control {c : Char} (free : isControl c = false) : isText c = true := by
  simp only [isControl,Bool.or_eq_false_iff,decide_eq_false_iff_not,Char.not_lt,beq_eq_false_iff_ne] at free
  simp [isText,free.1,free.2]

theorem isText_of_unescaped {c : Char} (free : needsEscape c = false) (inLine : c ≠ '\n') : isText c = true := by
  cases control : isControl c with
  | false => exact isText_of_not_control control
  | true =>
    simp only [needsEscape,control,Bool.true_and,Bool.and_eq_false_iff,bne_eq_false_iff_eq] at free
    rcases free with rfl | rfl
    · rfl
    · exact absurd rfl inLine

def spelling (long : Bool) (c : Char) : List Char :=
  if c = '\x08' then ['\\','b']
  else if c = '\t' then ['\\','t']
  else if c = '\n' then if long then ['\n'] else ['\\','n']
  else if c = '\x0c' then ['\\','f']
  else if c = '\r' then ['\\','r']
  else if c = '\\' then ['\\','\\']
  else if isControl c then
    ['\\','u','0','0',(Nat.digitChar (c.toNat / 16)).toUpper,(Nat.digitChar (c.toNat % 16)).toUpper]
  else [c]

theorem basicChars_other (long : Bool) (quotes : Nat) {c : Char} (other : c ≠ '"') (text : List Char) :
    basicChars long quotes (c :: text) = spelling long c ++ basicChars long 0 text := by
  rw [basicChars,if_neg other]
  rfl

inductive Spelled (c : Char) : List Char → Prop
  | plain (text : isText c = true) (unquoted : c ≠ '"') (unslashed : c ≠ '\\') : Spelled c [c]
  | short {e : Char} (stands : shortEscape? e = some c) (other : e ≠ 'u') (other' : e ≠ 'U') : Spelled c ['\\',e]
  | code {a b d e : Char} (stands : codeEscape? [a,b,d,e] = some c) : Spelled c ['\\','u',a,b,d,e]

theorem spelling_spelled (long : Bool) {c : Char} (other : c ≠ '"') (short : long = true → c ≠ '\n') :
    Spelled c (spelling long c) := by
  unfold spelling
  split
  · rename_i same; subst same; exact .short rfl (by decide) (by decide)
  split
  · rename_i same; subst same; exact .short rfl (by decide) (by decide)
  split
  · rename_i same
    subst same
    cases long with
    | true => exact absurd rfl (short rfl)
    | false => exact .short rfl (by decide) (by decide)
  split
  · rename_i same; subst same; exact .short rfl (by decide) (by decide)
  split
  · rename_i same; subst same; exact .short rfl (by decide) (by decide)
  split
  · rename_i same; subst same; exact .short rfl (by decide) (by decide)
  split
  · rename_i control
    exact .code (codeEscape_control control)
  · rename_i unslashed control
    exact .plain (isText_of_not_control (by simpa using control)) other unslashed

theorem isText_inside {c : Char} (text : isText c = true) : c ≠ '\n' ∧ c ≠ '\r' := by
  constructor <;> rintro rfl <;> cases text

theorem endsLine_escape {e c : Char} (stands : shortEscape? e = some c) (rest : List Char) : endsLine (e :: rest) = false := by
  unfold shortEscape? at stands
  split at stands
  all_goals first | rfl | cases stands

section
variable {c : Char} {spelled rest : List Char}

theorem basicBody_spelled (written : Spelled c spelled) (rest : List Char) :
    basicBody (spelled ++ rest) = thenChar c (basicBody rest) := by
  cases written with
  | plain text unquoted unslashed =>
    rw [List.singleton_append,basicBody.eq_6 _ _ unquoted,if_pos ⟨text,unslashed⟩]
    all_goals intros; contradiction
  | short stands other other' =>
    rw [List.cons_append,List.singleton_append,basicBody.eq_5,stands]
    · rfl
    all_goals intros; contradiction
  | code stands =>
    change (codeEscape? _).bind (fun c => thenChar c (basicBody rest)) = _
    rw [stands]
    rfl

theorem longBasicBody_spelled (written : Spelled c spelled) (rest : List Char) :
    longBasicBody false (spelled ++ rest) = thenChar c (longBasicBody false rest) := by
  cases written with
  | plain text unquoted unslashed =>
    obtain ⟨notFeed,notReturn⟩ := isText_inside text
    rw [List.singleton_append,longBasicBody.eq_12,if_neg (by simp),if_pos ⟨text,unslashed⟩]
    all_goals intros; simp_all
  | short stands other other' =>
    rw [List.cons_append,List.singleton_append,longBasicBody.eq_11,endsLine_escape stands,if_neg (by simp),stands]
    · rfl
    all_goals intros; contradiction
  | code stands =>
    change (codeEscape? _).bind (fun c => thenChar c (longBasicBody false rest)) = _
    rw [stands]
    rfl

theorem basicBody_written (quotes : Nat) (text rest : List Char) :
    basicBody (basicChars false quotes text ++ '"' :: rest) = some (text,rest) := by
  induction text generalizing quotes with
  | nil => rfl
  | cons c text ih =>
    by_cases quote : c = '"'
    · subst quote
      change basicBody (['\\','"'] ++ (basicChars false 0 text ++ '"' :: rest)) = _
      rw [basicBody_spelled (.short rfl (by decide) (by decide)),ih]
      rfl
    · rw [basicChars_other false quotes quote,List.append_assoc,basicBody_spelled (spelling_spelled false quote nofun),ih]
      rfl

-- Quotes stand for themselves as long as the string is not at its end.
theorem longBasicBody_quote {cs : List Char} (apart : ∀ rest, cs ≠ '"' :: '"' :: rest) :
    longBasicBody false ('"' :: cs) = thenChar '"' (longBasicBody false cs) := by
  rw [longBasicBody.eq_12,if_neg (by simp),if_pos (by decide)]
  all_goals intros; simp_all

theorem spelled_head (written : Spelled c spelled) : ∃ first more, spelled = first :: more ∧
    first ≠ '"' ∧ first ≠ '\n' ∧ first ≠ '\r' := by
  cases written with
  | plain text unquoted unslashed => exact ⟨_,_,rfl,unquoted,isText_inside text⟩
  | short | code => exact ⟨_,_,rfl,by decide⟩

def bareQuotes (long : Bool) : Nat := if long then 2 else 0

theorem basicChars_quote {long : Bool} {quotes : Nat} (room : quotes < bareQuotes long) (text : List Char) :
    basicChars long quotes ('"' :: text) = '"' :: basicChars long (quotes + 1) text := by
  rw [basicChars,if_pos rfl]
  exact if_pos room

theorem basicChars_escaped {long : Bool} {quotes : Nat} (full : ¬ quotes < bareQuotes long) (text : List Char) :
    basicChars long quotes ('"' :: text) = ['\\','"'] ++ basicChars long 0 text := by
  rw [basicChars,if_pos rfl]
  exact if_neg full

theorem basicChars_head (long : Bool) (quotes : Nat) (c : Char) (full : c = '"' → ¬ quotes < bareQuotes long)
    (text : List Char) : ∃ first more, basicChars long quotes (c :: text) = first :: more ∧ first ≠ '"' := by
  by_cases quote : c = '"'
  · subst quote
    exact ⟨_,_,basicChars_escaped (full rfl) text,by decide⟩
  · rw [basicChars_other long quotes quote]
    by_cases line : c = '\n' ∧ long = true
    · obtain ⟨rfl,rfl⟩ := line
      exact ⟨_,_,rfl,by decide⟩
    · obtain ⟨first,more,spelled,apart,-⟩ := spelled_head (spelling_spelled long quote fun is same => line ⟨same,is⟩)
      exact ⟨first,_,by rw [spelled,List.cons_append],apart⟩

theorem longBasicBody_other {quotes : Nat} (other : c ≠ '"') (text back : List Char) :
    longBasicBody false (basicChars true quotes (c :: text) ++ back) =
      thenChar c (longBasicBody false (basicChars true 0 text ++ back)) := by
  rw [basicChars_other true quotes other,List.append_assoc]
  by_cases line : c = '\n'
  · subst line
    exact longBasicBody.eq_7 _
  · exact longBasicBody_spelled (spelling_spelled true other fun _ => line) _

-- The last quotes of a text run into those that end the string; there are two of them at most.
theorem longBasicBody_bare {quotes : Nat} {text : List Char} (free : ∀ more, rest ≠ '"' :: more)
    (tail : longBasicBody false (basicChars true (quotes + 1) text ++ '"' :: '"' :: '"' :: rest) = some (text,rest)) :
    longBasicBody false ('"' :: (basicChars true (quotes + 1) text ++ '"' :: '"' :: '"' :: rest)) =
      some ('"' :: text,rest) := by
  have alone : (∀ more, basicChars true (quotes + 1) text ++ '"' :: '"' :: '"' :: rest ≠ '"' :: '"' :: more) →
      longBasicBody false ('"' :: (basicChars true (quotes + 1) text ++ '"' :: '"' :: '"' :: rest)) =
        some ('"' :: text,rest) := by
    intro apart
    rw [longBasicBody_quote apart,tail]
    rfl
  match text with
  | [] => exact longBasicBody.eq_3 false rest free
  | c :: text =>
    by_cases again : c = '"' ∧ quotes + 1 < 2
    · obtain ⟨rfl,more⟩ := again
      rw [basicChars_quote more] at alone ⊢
      match text with
      | [] => exact longBasicBody.eq_2 false rest
      | d :: text =>
        refine alone fun back same => ?_
        obtain ⟨first,_,head,apart⟩ := basicChars_head true (quotes + 1 + 1) d (fun _ => by simp [bareQuotes]) text
        rw [head] at same
        exact apart (List.cons.inj (List.cons.inj same).2).1
    · refine alone fun back same => ?_
      obtain ⟨first,_,head,apart⟩ := basicChars_head true _ c (fun same more => again ⟨same,more⟩) text
      rw [head] at same
      exact apart (List.cons.inj same).1

theorem longBasicBody_written (quotes : Nat) (text : List Char) (free : ∀ more, rest ≠ '"' :: more) :
    longBasicBody false (basicChars true quotes text ++ '"' :: '"' :: '"' :: rest) = some (text,rest) := by
  induction text generalizing quotes with
  | nil => exact longBasicBody.eq_4 false rest (fun more => free _) free
  | cons c text ih =>
    by_cases quote : c = '"'
    · subst quote
      by_cases room : quotes < bareQuotes true
      · rw [basicChars_quote room]
        exact longBasicBody_bare free (ih (quotes + 1))
      · rw [basicChars_escaped room,List.append_assoc,longBasicBody_spelled (.short rfl (by decide) (by decide)),ih]
        rfl
    · rw [longBasicBody_other quote,ih]
      rfl

end

theorem run_le (mark : Char) (run : Nat) (text : List Char) : run ≤ longestRun mark run text := by
  induction text generalizing run with
  | nil => exact Nat.le_refl _
  | cons c text ih =>
    rw [longestRun]
    split
    · exact Nat.le_trans (Nat.le_succ _) (ih _)
    · exact Nat.le_max_left _ _

theorem longestRun_mark (mark : Char) (run : Nat) (text : List Char) :
    longestRun mark run (mark :: text) = longestRun mark (run + 1) text := by
  rw [longestRun,if_pos rfl]

theorem longestRun_other {mark c : Char} (other : c ≠ mark) (run : Nat) (text : List Char) :
    longestRun mark 0 text ≤ longestRun mark run (c :: text) := by
  rw [longestRun,if_neg other]
  exact Nat.le_max_right _ _

theorem literalBody_written {text : List Char} (bare : ∀ c ∈ text, isText c = true) (runless : longestRun '\'' 0 text = 0)
    (rest : List Char) : literalBody (text ++ '\'' :: rest) = some (text,rest) := by
  induction text with
  | nil => rfl
  | cons c text ih =>
    rw [List.forall_mem_cons] at bare
    have other : c ≠ '\'' := by
      rintro rfl
      rw [longestRun_mark] at runless
      have one := run_le '\'' (0 + 1) text
      omega
    have runless' := Nat.le_zero.mp (runless ▸ longestRun_other other 0 text)
    rw [List.cons_append,literalBody.eq_3 _ _ other,if_pos bare.1,ih bare.2 runless']
    rfl

section
variable {text rest : List Char}

theorem longLiteralBody_other {c : Char} (free : needsEscape c = false) {cs : List Char}
    (apart : c = '\'' → ∀ rest, cs ≠ '\'' :: '\'' :: rest) :
    longLiteralBody (c :: cs) = thenChar c (longLiteralBody cs) := by
  by_cases line : c = '\n'
  · subst line
    exact longLiteralBody.eq_5 _
  · have text := isText_of_unescaped free line
    obtain ⟨-,notReturn⟩ := isText_inside text
    rw [longLiteralBody.eq_7,if_pos text]
    all_goals intros; simp_all

theorem longLiteralBody_bare {run : Nat} (short : longestRun '\'' (run + 1) text ≤ 2)
    (tail : longLiteralBody (text ++ '\'' :: '\'' :: '\'' :: rest) = some (text,rest)) (free : ∀ more, rest ≠ '\'' :: more) :
    longLiteralBody ('\'' :: (text ++ '\'' :: '\'' :: '\'' :: rest)) = some ('\'' :: text,rest) := by
  have alone : (∀ more, text ++ '\'' :: '\'' :: '\'' :: rest ≠ '\'' :: '\'' :: more) →
      longLiteralBody ('\'' :: (text ++ '\'' :: '\'' :: '\'' :: rest)) = some ('\'' :: text,rest) := by
    intro apart
    rw [longLiteralBody_other (by decide) fun _ => apart,tail]
    rfl
  match text with
  | [] => exact longLiteralBody.eq_3 rest free
  | c :: text =>
    by_cases again : c = '\''
    · subst again
      rw [longestRun_mark] at short
      match text with
      | [] => exact longLiteralBody.eq_2 rest
      | d :: text =>
        refine alone fun back same => ?_
        obtain rfl : d = '\'' := (List.cons.inj (List.cons.inj same).2).1
        rw [longestRun_mark] at short
        have three := run_le '\'' (run + 1 + 1 + 1) text
        omega
    · exact alone fun back same => again (List.cons.inj same).1

theorem longLiteralBody_written {run : Nat} (bare : ∀ c ∈ text, needsEscape c = false)
    (short : longestRun '\'' run text ≤ 2) (free : ∀ more, rest ≠ '\'' :: more) :
    longLiteralBody (text ++ '\'' :: '\'' :: '\'' :: rest) = some (text,rest) := by
  induction text generalizing run with
  | nil => exact longLiteralBody.eq_4 rest (fun more => free _) free
  | cons c text ih =>
    rw [List.forall_mem_cons] at bare
    by_cases quote : c = '\''
    · subst quote
      rw [longestRun_mark] at short
      exact longLiteralBody_bare short (ih bare.2 short) free
    · rw [List.cons_append,longLiteralBody_other bare.1 fun same => absurd same quote,
        ih bare.2 (Nat.le_trans (longestRun_other quote run text) short)]
      rfl

end

theorem dropLineEnd_kept {first : Char} (apart : first ≠ '\n' ∧ first ≠ '\r') (rest : List Char) :
    dropLineEnd (first :: rest) = first :: rest := by
  refine dropLineEnd.eq_3 _ ?_ ?_
  · intro back same
    exact apart.1 (List.cons.inj same).1
  · intro back same
    exact apart.2 (List.cons.inj same).1

section
variable {text rest : List Char}

theorem fits_bare {form : StringForm} (fits : form.fits text = true) : ∀ c ∈ text, needsEscape c = false := by
  have bare : text.any needsEscape = false := by
    cases form <;> simp_all [StringForm.fits,StringForm.fits.bare]
  simpa using bare

theorem fits_of_single {form : StringForm} (own : formOf text = form) (single : form = .literal ∨ form = .longLiteral) :
    form.fits text = true := by
  unfold formOf at own
  split at own
  · rename_i found
    subst own
    exact List.find?_some found
  · split at own <;> subst own <;> rcases single with single | single <;> cases single

theorem dropLineEnd_opening {cs : List Char}
    (head : '\n' ∉ text → ∃ first more, cs = first :: more ∧ first ≠ '\n' ∧ first ≠ '\r') :
    dropLineEnd ((if text.contains '\n' then ['\n'] else []) ++ cs) = cs := by
  split
  · rfl
  · rename_i single
    obtain ⟨first,more,rfl,apart⟩ := head (by simpa using single)
    exact dropLineEnd_kept apart more

theorem basicChars_opening (quotes : Nat) (single : '\n' ∉ text) (back : List Char) :
    ∃ first more, basicChars true quotes text ++ '"' :: back = first :: more ∧ first ≠ '\n' ∧ first ≠ '\r' := by
  cases text with
  | nil => exact ⟨_,_,rfl,by decide⟩
  | cons c text =>
    by_cases quote : c = '"'
    · subst quote
      by_cases room : quotes < bareQuotes true
      · exact ⟨_,_,by rw [basicChars_quote room,List.cons_append],by decide⟩
      · exact ⟨_,_,by rw [basicChars_escaped room,List.append_assoc,List.cons_append],by decide⟩
    · have inLine : c ≠ '\n' := fun same => single (same ▸ List.mem_cons_self)
      obtain ⟨first,more,spelled,-,apart⟩ := spelled_head (spelling_spelled true quote fun _ => inLine)
      exact ⟨first,_,by rw [basicChars_other true quotes quote,spelled,List.append_assoc,List.cons_append],apart⟩

theorem string_written (text : List Char) (free : ∀ more, rest ≠ '"' :: more) (free' : ∀ more, rest ≠ '\'' :: more) :
    string (stringChars text ++ rest) = some (text,rest) := by
  unfold stringChars
  dsimp only
  cases form : formOf text with
  | basic =>
    dsimp only
    rw [List.cons_append,List.cons_append,List.append_assoc,List.singleton_append,string.eq_2,basicBody_written]
    intro more same
    cases text with
    | nil => exact free more (List.cons.inj same).2
    | cons c text =>
      obtain ⟨first,_,head,apart⟩ := basicChars_head false 0 c (fun _ => Nat.not_lt_zero _) text
      rw [head] at same
      exact apart (List.cons.inj same).1
  | literal =>
    dsimp only
    have fits := fits_of_single form (.inl rfl)
    have bare := fits_bare fits
    simp only [StringForm.fits,Bool.and_eq_true,decide_eq_true_eq,Bool.not_eq_true',List.contains_eq_mem,
      decide_eq_false_iff_not] at fits
    obtain ⟨⟨-,runless⟩,single⟩ := fits
    rw [List.cons_append,List.cons_append,List.append_assoc,List.singleton_append,string.eq_4,literalBody_written _ runless]
    · exact fun c member => isText_of_unescaped (bare c member) fun same => single (same ▸ member)
    · intro more same
      cases text with
      | nil => cases form
      | cons c text =>
        obtain rfl := (List.cons.inj same).1
        rw [longestRun_mark] at runless
        have one := run_le '\'' (0 + 1) text
        omega
  | longBasic =>
    dsimp only
    rw [List.append_assoc,List.append_assoc,List.append_assoc]
    change string ('"' :: '"' :: '"' :: (_ ++ (basicChars true 0 text ++ '"' :: '"' :: '"' :: rest))) = _
    rw [string.eq_1,dropLineEnd_opening fun single => basicChars_opening 0 single _,longBasicBody_written 0 text free]
  | longLiteral =>
    dsimp only
    have fits := fits_of_single form (.inr rfl)
    have bare := fits_bare fits
    simp only [StringForm.fits,Bool.and_eq_true,decide_eq_true_eq] at fits
    rw [List.append_assoc,List.append_assoc,List.append_assoc]
    change string ('\'' :: '\'' :: '\'' :: (_ ++ (text ++ '\'' :: '\'' :: '\'' :: rest))) = _
    rw [string.eq_3,dropLineEnd_opening,longLiteralBody_written bare fits.2 free']
    intro single
    cases text with
    | nil => exact ⟨_,_,rfl,by decide⟩
    | cons c text =>
      have inLine : c ≠ '\n' := fun same => single (same ▸ List.mem_cons_self)
      exact ⟨c,_,rfl,isText_inside (isText_of_unescaped (bare c List.mem_cons_self) inLine)⟩

end

end DomainSchema.Toml
