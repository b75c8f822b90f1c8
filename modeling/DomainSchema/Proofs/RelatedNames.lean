import DomainSchema.Proofs.Rebinding

namespace DomainSchema

-- Which field is suggested for a parameter that has the name of none. Scores only choose between related names: whether
-- a name is related does not depend on them, nor on what earlier comparisons left on the board.

namespace Suggestion

-- The characters of the pattern stand in the text in their order, with others between them or not. Case is that of ASCII
-- letters, and counts only if the pattern has one in upper case.
def Occurs (pattern text : List Char) : Prop :=
  if pattern.any Char.isUpper then pattern.Sublist text else (pattern.map Char.toLower).Sublist (text.map Char.toLower)

def Related (name param : String) : Prop := Occurs param.toList name.toList ∨ Occurs name.toList param.toList

instance (pattern text : List Char) : Decidable (Occurs pattern text) :=
  inferInstanceAs (Decidable (if pattern.any Char.isUpper then _ else _))

instance (name param : String) : Decidable (Related name param) :=
  inferInstanceAs (Decidable (Occurs param.toList name.toList ∨ Occurs name.toList param.toList))

-- Taking each letter where it is found first misses no way to find them all.
theorem firstPlaces_iff {caseSensitive : Bool} {view : Char → Char}
    (same : ∀ c p, sameChar caseSensitive c p = true ↔ view c = view p) (start : Nat) (pattern choice : List Char) :
    (firstPlaces caseSensitive start pattern choice).isSome = true ↔ (pattern.map view).Sublist (choice.map view) := by
  induction choice generalizing start pattern with
  | nil => cases pattern <;> simp [firstPlaces]
  | cons c choice ih =>
    cases pattern with
    | nil => simp [firstPlaces]
    | cons p pattern =>
      rw [firstPlaces,List.map_cons,List.map_cons]
      by_cases found : sameChar caseSensitive c p = true
      · have letter := (same c p).mp found
        rw [if_pos found,Option.isSome_map,ih,letter,List.cons_sublist_cons]
      · have letter : view c ≠ view p := fun equal => found ((same c p).mpr equal)
        rw [if_neg found,ih,List.map_cons,List.sublist_cons_iff]
        refine (or_iff_left ?_).symm
        rintro ⟨rest,begins,-⟩
        exact letter (List.cons.inj begins).1.symm

theorem compare_iff (choice pattern : List Char) (board : Board) :
    (compare choice pattern board).1.isSome = true ↔ Occurs pattern choice := by
  cases pattern with
  | nil => simp [compare,Occurs]
  | cons p pattern =>
    have scored : (compare choice (p :: pattern) board).1.isSome =
        (firstPlaces (isCaseSensitive (p :: pattern)) 0 (p :: pattern) choice).isSome := by
      unfold compare
      dsimp only
      split <;> simp [*]
    rw [scored,Occurs]
    cases cased : isCaseSensitive (p :: pattern) with
    | true =>
      have exactly : ∀ c p, sameChar true c p = true ↔ id c = id p := by simp [sameChar]
      have upper : (p :: pattern).any Char.isUpper = true := cased
      rw [firstPlaces_iff exactly,List.map_id,List.map_id,if_pos upper]
    | false =>
      have folded : ∀ c p, sameChar false c p = true ↔ c.toLower = p.toLower := by simp [sameChar]
      have uncased : ¬ (p :: pattern).any Char.isUpper = true := Bool.eq_false_iff.mp cased
      rw [firstPlaces_iff folded,if_neg uncased]

theorem compareNames_iff (name param : String) (board : Board) :
    (compareNames name param board).1.isSome = true ↔ Related name param := by
  have forth := compare_iff name.toList param.toList board
  unfold compareNames
  split
  · rename_i score after found
    rw [found] at forth
    exact iff_of_true rfl (.inl (forth.mp rfl))
  · rename_i after found
    rw [found] at forth
    have missing : ¬ Occurs param.toList name.toList := fun occurs => nomatch forth.mpr occurs
    rw [compare_iff,Related,or_iff_right missing]

def candidates (param : String) : List Field → Board → List (Int × String)
  | [], _ => []
  | f :: fields, board =>
    match compareNames f.name param board with
    | (some score,board) => (score,f.name) :: candidates param fields board
    | (none,board) => candidates param fields board

theorem candidates_names (param : String) (fields : List Field) (board : Board) :
    (candidates param fields board).map Prod.snd = (fields.map (·.name)).filter (Related · param) := by
  induction fields generalizing board with
  | nil => rfl
  | cons f fields ih =>
    have related := compareNames_iff f.name param board
    rw [candidates,List.map_cons,List.filter_cons]
    split
    · rename_i score after found
      rw [found] at related
      rw [List.map_cons,ih,if_pos (decide_eq_true (related.mp rfl))]
    · rename_i after found
      rw [found] at related
      rw [ih,if_neg (by simpa using related)]

theorem closest_candidates (param : String) (fields : List Field) (board : Board) (best : Option (Int × String)) :
    closest param fields board best = (candidates param fields board).foldl (fun best c => better best c.1 c.2) best := by
  induction fields generalizing board best with
  | nil => rfl
  | cons f fields ih =>
    rw [closest,candidates]
    rcases compareNames f.name param board with ⟨_ | score,after⟩
    · exact ih after best
    · exact ih after (better best score f.name)

def Highest (scored : List (Int × String)) (chosen : Int × String) : Prop :=
  ∃ before after, scored = before ++ chosen :: after ∧ (∀ c ∈ before, c.1 ≤ chosen.1) ∧ ∀ c ∈ after, c.1 < chosen.1

theorem Highest.append {scored : List (Int × String)} {top : Int × String} (highest : Highest scored top)
    (c : Int × String) : ∃ chosen, better (some top) c.1 c.2 = some chosen ∧ Highest (scored ++ [c]) chosen := by
  obtain ⟨before,after,rfl,low,lower⟩ := highest
  unfold better
  dsimp only
  split
  · rename_i reached
    refine ⟨c,rfl,_,[],rfl,fun other member => ?_,by simp⟩
    rcases List.mem_append.mp member with early | late
    · exact (low other early).trans reached
    · rcases List.mem_cons.mp late with rfl | late
      · exact reached
      · exact (lower other late).le.trans reached
  · rename_i missed
    refine ⟨top,rfl,before,after ++ [c],by simp,low,fun other member => ?_⟩
    rcases List.mem_append.mp member with late | last
    · exact lower other late
    · rw [List.mem_singleton.mp last]
      exact lt_of_not_ge missed

theorem best_highest {scored : List (Int × String)} (given : scored ≠ []) :
    ∃ chosen, scored.foldl (fun best c => better best c.1 c.2) none = some chosen ∧ Highest scored chosen := by
  induction scored using List.reverseRecOn with
  | nil => exact absurd rfl given
  | append_singleton scored c ih =>
    rw [List.foldl_append]
    by_cases first : scored = []
    · subst first
      exact ⟨c,rfl,[],[],rfl,by simp,by simp⟩
    · obtain ⟨top,found,highest⟩ := ih first
      rw [found]
      exact highest.append c

theorem suggest_candidates (fields : List Field) (param : String) :
    candidates param fields {} = [] ∧ suggest fields param = none ∨
      ∃ score name, suggest fields param = some name ∧ Highest (candidates param fields {}) (score,name) := by
  rw [suggest,closest_candidates]
  by_cases bare : candidates param fields {} = []
  · rw [bare]
    exact .inl ⟨rfl,rfl⟩
  · obtain ⟨⟨score,name⟩,found,highest⟩ := best_highest bare
    rw [found]
    exact .inr ⟨score,name,rfl,highest⟩

inductive Suggested (fields : List Field) (param : String) : Option String → Prop
  | nothing (unrelated : ∀ f ∈ fields, ¬ Related f.name param) : Suggested fields param none
  | field {f : Field} (member : f ∈ fields) (related : Related f.name param) : Suggested fields param (some f.name)

theorem suggest_suggested (fields : List Field) (param : String) : Suggested fields param (suggest fields param) := by
  have names := candidates_names param fields {}
  rcases suggest_candidates fields param with ⟨bare,nothing⟩ | ⟨score,name,suggested,before,after,split,-⟩
  · rw [nothing]
    refine .nothing fun f member => ?_
    rw [bare,List.map_nil,eq_comm,List.filter_eq_nil_iff] at names
    simpa using names f.name (List.mem_map_of_mem member)
  · rw [suggested]
    have candidate : name ∈ (candidates param fields {}).map Prod.snd := by simp [split]
    rw [names,List.mem_filter,List.mem_map,decide_eq_true_eq] at candidate
    obtain ⟨⟨f,member,rfl⟩,related⟩ := candidate
    exact .field member related

theorem Suggested.isSome_iff {fields : List Field} {param : String} {suggestion : Option String}
    (suggested : Suggested fields param suggestion) :
    suggestion.isSome = true ↔ ∃ f ∈ fields, Related f.name param := by
  cases suggested with
  | nothing unrelated => simpa using unrelated
  | field member related => exact iff_of_true rfl ⟨_,member,related⟩

end Suggestion

open Suggestion

instance (s : Schema) (p : Parameter) : Decidable (s.Lacks p) :=
  inferInstanceAs (Decidable (∀ f ∈ s.fields, f.name ≠ p.name))

structure Schema.Missing (s : Schema) (r : Rule) (p : Parameter) (item : Diagnostic) : Prop where
  lacks : s.Lacks p
  schema : item.schema = s.name
  member : item.member = some (r.name ++ "(" ++ p.name ++ ")")
  message : item.message = "Member " ++ p.name ++ " could not be resolved"
  hinted : item.context ≠ [] ↔ ∃ f ∈ s.fields, Related f.name p.name
  hint : item.context = [] ∨ ∃ f ∈ s.fields, Related f.name p.name ∧ item.context = ["did you mean `" ++ f.name ++ "`?"]

theorem param_unknown (s : Schema) (r : Rule) (p : Parameter) :
    (s.paramDiagnostics r p).filter (·.code == .memberNotFound) =
      if s.Lacks p then [.memberNotFound s.name r.name p.name (suggest s.fields p.name)] else [] := by
  have tells := param_tells s r p
  generalize s.paramDiagnostics r p = items at tells ⊢
  cases tells with
  | unknown lacks => exact (if_pos lacks).symm
  | mismatch means => exact (if_neg means.known).symm
  | matching means => exact (if_neg means.known).symm

theorem bind_unknown (s : Schema) : (bind s).diagnostics.withCode .memberNotFound =
    (s.occurrences.filter fun o => s.Lacks o.2).map fun o =>
      .memberNotFound s.name o.1.name o.2.name (suggest s.fields o.2.name) := by
  rw [Diagnostics.withCode,bind_occurrences,List.filter_flatMap]
  induction s.occurrences with
  | nil => rfl
  | cons o rest ih =>
    rw [List.flatMap_cons,List.filter_cons,ih,param_unknown]
    by_cases lacks : s.Lacks o.2 <;> simp [lacks]

theorem memberNotFound_missing {s : Schema} {p : Parameter} {suggestion : Option String} (r : Rule) (lacks : s.Lacks p)
    (suggested : Suggested s.fields p.name suggestion) :
    s.Missing r p (.memberNotFound s.name r.name p.name suggestion) where
  lacks := lacks
  schema := rfl
  member := rfl
  message := rfl
  hinted := by
    rw [← suggested.isSome_iff]
    cases suggestion <;> simp [Diagnostic.memberNotFound]
  hint := by
    cases suggested with
    | nothing => exact .inl rfl
    | field member related => exact .inr ⟨_,member,related,rfl⟩

-- A name is suggested exactly if a field has one that is related to the parameter, and then it is such a name. Hence each
-- parameter that has the name of no field is told with a hint exactly if there is a related field.
theorem suggestions_exact :
    (∀ (fields : List Field) (param : String),
      ((suggest fields param).isSome = true ↔ ∃ f ∈ fields, Related f.name param) ∧
      ∀ name, suggest fields param = some name → ∃ f ∈ fields, f.name = name ∧ Related f.name param) ∧
    ∀ s : Schema, List.Forall₂ (fun o item => s.Missing o.1 o.2 item)
      (s.occurrences.filter fun o => s.Lacks o.2) ((bind s).diagnostics.withCode .memberNotFound) := by
  refine ⟨fun fields param => ⟨(suggest_suggested fields param).isSome_iff,fun name found => ?_⟩,fun s => ?_⟩
  · have suggested := suggest_suggested fields param
    rw [found] at suggested
    cases suggested with
    | field member related => exact ⟨_,member,rfl,related⟩
  · rw [bind_unknown,List.forall₂_map_right_iff,List.forall₂_same]
    intro o asked
    exact memberNotFound_missing o.1 (of_decide_eq_true (List.mem_filter.mp asked).2)
      (suggest_suggested s.fields o.2.name)

-- In capitals the parameter is looked for as it is written and not found, but the name of the field is found in it.
theorem label_suggested : suggest batch.fields "LABELS" = some "label" ∧
    ∃ f ∈ batch.fields, f.name = "label" ∧ Related f.name "LABELS" := by
  have found : suggest batch.fields "LABELS" = some "label" := by decide
  exact ⟨found,(suggestions_exact.1 batch.fields "LABELS").2 "label" found⟩

example : suggest batch.fields "lbl" = some "label" ∧ suggest batch.fields "Lbl" = none := by decide

end DomainSchema
