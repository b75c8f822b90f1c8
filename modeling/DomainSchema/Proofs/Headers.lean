import DomainSchema.Unit
import Mathlib.Data.List.Basic

namespace DomainSchema

namespace Text

structure Line (line : List Char) : Prop where
  unbroken : '\n' ∉ line
  unreturned : '\r' ∉ line

section
variable {line : List Char}

theorem Line.tail {c : Char} (plain : Line (c :: line)) : Line line :=
  ⟨fun member => plain.unbroken (List.mem_cons_of_mem _ member),fun member => plain.unreturned (List.mem_cons_of_mem _ member)⟩

theorem lines_line (plain : Line line) (rest : List Char) : lines (line ++ '\n' :: rest) = line :: lines rest := by
  induction line with
  | nil => rfl
  | cons c more ih =>
    have own : c ≠ '\n' := fun same => plain.unbroken (by simp [same])
    have other : c ≠ '\r' := fun same => plain.unreturned (by simp [same])
    simp [lines,other,ih plain.tail]

-- The empty line is looked for at line feeds only.
theorem afterFirst_skip (plain : '\n' ∉ line) (rest : List Char) :
    afterFirst? ['\n','\n'] (line ++ rest) = afterFirst? ['\n','\n'] rest := by
  induction line with
  | nil => rfl
  | cons c more ih =>
    rw [List.mem_cons,not_or] at plain
    have apart : (['\n','\n'].isPrefixOf (c :: (more ++ rest))) = false := by simp [List.isPrefixOf,plain.1]
    rw [List.cons_append,afterFirst?,apart]
    exact ih plain.2

theorem afterFirst_line {next : List Char} (plain : '\n' ∉ line) (filled : next.head? ≠ some '\n') :
    afterFirst? ['\n','\n'] (line ++ '\n' :: next) = afterFirst? ['\n','\n'] next := by
  have apart : (['\n','\n'].isPrefixOf ('\n' :: next)) = false := by
    cases next with
    | nil => rfl
    | cons c rest =>
      have other : '\n' ≠ c := fun same => filled (congrArg some same.symm)
      simp [List.isPrefixOf,other]
  rw [afterFirst_skip plain,afterFirst?,apart]
  rfl

theorem afterFirst_empty (plain : '\n' ∉ line) (rest : List Char) :
    afterFirst? ['\n','\n'] (line ++ '\n' :: '\n' :: rest) = some rest := by
  rw [afterFirst_skip plain]
  rfl

theorem afterFirst_least {pattern : List Char} (some_ : pattern ≠ []) (front back : List Char) :
    ∃ rest, afterFirst? pattern (front ++ (pattern ++ back)) = some rest ∧ back.length ≤ rest.length := by
  induction front with
  | nil =>
    obtain ⟨c,more,rfl⟩ := List.exists_cons_of_ne_nil some_
    have here : (c :: more).isPrefixOf (c :: (more ++ back)) = true :=
      List.isPrefixOf_iff_prefix.mpr (List.prefix_append (c :: more) back)
    refine ⟨back,?_,Nat.le_refl _⟩
    rw [List.nil_append,List.cons_append,afterFirst?,if_pos here,← List.cons_append,List.drop_left]
  | cons c more ih =>
    rw [List.cons_append,afterFirst?]
    split
    · refine ⟨_,rfl,?_⟩
      rw [← List.cons_append,← List.append_assoc,List.length_drop,List.length_append,List.length_append,List.length_cons]
      omega
    · exact ih

theorem afterFirst_found {front : List Char} (rest : List Char)
    (first : ∀ before after, front ++ ['\n','\n'] = before ++ '\n' :: '\n' :: after → after = []) :
    afterFirst? ['\n','\n'] (front ++ '\n' :: '\n' :: rest) = some rest := by
  induction front with
  | nil => rfl
  | cons c more ih =>
    have apart : ['\n','\n'].isPrefixOf (c :: (more ++ '\n' :: '\n' :: rest)) = false := by
      rw [Bool.eq_false_iff]
      intro early
      obtain ⟨back,starts⟩ := List.isPrefixOf_iff_prefix.mp early
      -- Such a place would be one in the text without the rest, too.
      cases more with
      | nil =>
        obtain ⟨rfl,-⟩ := List.cons.inj starts
        cases first [] ['\n'] rfl
      | cons d more =>
        obtain ⟨rfl,next⟩ := List.cons.inj starts
        obtain ⟨rfl,-⟩ := List.cons.inj next
        simpa using first [] (more ++ ['\n','\n']) rfl
    rw [List.cons_append,afterFirst?,apart]
    refine ih fun before after split => first (c :: before) after ?_
    rw [List.cons_append,split,List.cons_append]

theorem trim_visible {text : List Char} (visible : ∀ c ∈ text, isBlank c = false) : trim text = text := by
  have kept (chars : List Char) (visible : ∀ c ∈ chars, isBlank c = false) : chars.dropWhile isBlank = chars := by
    cases chars with
    | nil => rfl
    | cons c rest => simp [visible c (by simp)]
  have reversed : ∀ c ∈ text.reverse, isBlank c = false := fun c member => visible c (List.mem_reverse.mp member)
  rw [trim,kept text visible,kept text.reverse reversed,List.reverse_reverse]

end

end Text

namespace Sha256

theorem hexDigit_visible : ∀ n < 16, Text.isBlank (Nat.digitChar n) = false := by decide

theorem hexDigest_visible (message : List UInt8) : ∀ c ∈ (hexDigest message).toList, Text.isBlank c = false := by
  intro c member
  unfold hexDigest at member
  rw [String.toList_ofList] at member
  obtain ⟨w,-,digits⟩ := List.mem_flatMap.mp member
  obtain ⟨i,-,rfl⟩ := List.mem_map.mp digits
  exact hexDigit_visible _ (Nat.mod_lt _ (by decide))

end Sha256

namespace Fingerprint

structure Head (head : String) : Prop where
  ends : ['\n','\n'] <:+ head.toList
  first : ∀ front back, head.toList = front ++ '\n' :: '\n' :: back → back = []

theorem Head.unique {head head' body body' : String} (upper : Head head) (upper' : Head head')
    (same : head ++ body = head' ++ body') : head = head' ∧ body = body' := by
  have found {head : String} (upper : Head head) (body : String) :
      Text.afterFirst? ['\n','\n'] (head ++ body).toList = some body.toList := by
    obtain ⟨front,ends⟩ := upper.ends
    rw [String.toList_append,← ends,List.append_assoc]
    exact Text.afterFirst_found body.toList fun before after split => upper.first before after (ends ▸ split)
  have bodies : body = body' := by
    have texts := (found upper body).symm.trans ((congrArg _ (congrArg _ same)).trans (found upper' body'))
    exact String.toList_inj.mp (Option.some.inj texts)
  subst bodies
  have chars := congrArg String.toList same
  rw [String.toList_append,String.toList_append] at chars
  exact ⟨String.toList_inj.mp (List.append_cancel_right chars),rfl⟩

theorem digest_line (text : String) : Text.Line (ofText text).digest.toList := by
  have visible := Sha256.hexDigest_visible text.toUTF8.toList
  constructor
  all_goals
    intro member
    have blank := visible _ member
    revert blank
    decide

def firstLine : List Char := "// @generated by domain-forge. DO NOT EDIT.".toList

def secondLine : List Char := "// Regenerate with `domain-forge generate`.".toList

theorem opening_chars : "// @generated by domain-forge. DO NOT EDIT.\n// Regenerate with `domain-forge generate`.\n".toList =
    firstLine ++ '\n' :: (secondLine ++ ['\n']) := by decide +kernel

theorem opening_lines : Text.Line firstLine ∧ Text.Line secondLine :=
  ⟨⟨by decide +kernel,by decide +kernel⟩,by decide +kernel,by decide +kernel⟩

theorem header_chars (body rest : String) : (header body ++ "\n" ++ rest).toList =
    firstLine ++ '\n' :: (secondLine ++ '\n' :: ((ofText body).headerLine.toList ++ '\n' :: '\n' :: rest.toList)) := by
  have feed : "\n".toList = ['\n'] := by decide
  unfold header
  rw [String.toList_append,String.toList_append,String.toList_append,String.toList_append,opening_chars,feed]
  simp only [List.append_assoc,List.cons_append,List.nil_append]

theorem headerLine_line {f : Fingerprint} (plain : Text.Line f.digest.toList) : Text.Line f.headerLine.toList := by
  rw [headerLine,String.toList_append]
  constructor
  · exact fun member => (List.mem_append.mp member).elim (by decide) plain.unbroken
  · exact fun member => (List.mem_append.mp member).elim (by decide) plain.unreturned

theorem headerLine_head (f : Fingerprint) (rest : List Char) : (f.headerLine.toList ++ rest).head? = some '/' := by
  have begins : lineStart.toList = '/' :: lineStart.toList.tail := by decide
  rw [headerLine,String.toList_append,begins]
  rfl

theorem afterFirst_header (body rest : String) :
    Text.afterFirst? ['\n','\n'] (header body ++ "\n" ++ rest).toList = some rest.toList := by
  have plain := headerLine_line (digest_line body)
  have second (more : List Char) : (secondLine ++ more).head? ≠ some '\n' := by
    change some '/' ≠ some '\n'
    decide
  have third (more : List Char) : ((ofText body).headerLine.toList ++ more).head? ≠ some '\n' := by
    rw [headerLine_head]
    decide
  rw [header_chars,Text.afterFirst_line opening_lines.1.unbroken (second _),
    Text.afterFirst_line opening_lines.2.unbroken (third _),Text.afterFirst_empty plain.unbroken]

theorem fingerprint_line (body rest : String) :
    (Text.lines (header body ++ "\n" ++ rest).toList).find? (lineStart.toList.isPrefixOf ·) =
      some (ofText body).headerLine.toList := by
  have other (line : List Char) (begins : lineStart.toList.isPrefixOf line = false) (more : List (List Char)) :
      (line :: more).find? (lineStart.toList.isPrefixOf ·) = more.find? (lineStart.toList.isPrefixOf ·) := by
    rw [List.find?_cons,begins]
  have marked : lineStart.toList.isPrefixOf (ofText body).headerLine.toList = true := by
    rw [headerLine,String.toList_append]
    exact List.isPrefixOf_iff_prefix.mpr (List.prefix_append _ _)
  rw [header_chars,Text.lines_line opening_lines.1,Text.lines_line opening_lines.2,
    Text.lines_line (headerLine_line (digest_line body)),other _ (by decide),other _ (by decide),List.find?_cons,marked]

-- The header tells of the body that it was made for, and what follows its empty line is taken for the body.
theorem readHeader_header (body rest : String) :
    readHeader? (header body ++ "\n" ++ rest) = some (ofText body,rest) := by
  have digest : Text.trim ((ofText body).headerLine.toList.drop lineStart.length) = (ofText body).digest.toList := by
    rw [headerLine,String.toList_append,← String.length_toList,List.drop_left]
    exact Text.trim_visible (Sha256.hexDigest_visible _)
  unfold readHeader?
  rw [fingerprint_line,afterFirst_header]
  simp [digest]

theorem header_head (body : String) : Head (header body ++ "\n") := by
  constructor
  · have chars := header_chars body ""
    rw [String.append_empty] at chars
    refine ⟨firstLine ++ '\n' :: (secondLine ++ '\n' :: (ofText body).headerLine.toList),?_⟩
    rw [chars]
    simp
  · intro front back split
    have some_ : ['\n','\n'] ≠ [] := List.cons_ne_nil _ _
    obtain ⟨rest,found,least⟩ := Text.afterFirst_least some_ front back
    have ended := afterFirst_header body ""
    rw [String.append_empty,split] at ended
    rw [List.cons_append,List.cons_append,List.nil_append,ended] at found
    cases found
    exact List.eq_nil_of_length_eq_zero (Nat.le_zero.mp least)

end Fingerprint
end DomainSchema
