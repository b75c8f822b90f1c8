import Mathlib.Data.List.Forall2

namespace DomainSchema

theorem lookup_cons_if [BEq κ] [LawfulBEq κ] [DecidableEq κ] (key name : κ) (value : β) (entries : List (κ × β)) :
    ((key,value) :: entries).lookup name = if name = key then some value else entries.lookup name := by
  by_cases same : name = key
  · simp [same]
  · have apart : (name == key) = false := beq_false_of_ne same
    simp [List.lookup_cons,apart,same]

theorem lookup_absent [DecidableEq κ] {name : κ} {entries : List (κ × β)} (absent : name ∉ entries.map Prod.fst) :
    entries.lookup name = none := by
  rw [List.lookup_eq_none_iff]
  intro entry member
  have apart : name ≠ entry.1 := fun same => absent (same ▸ List.mem_map_of_mem member)
  simpa using apart

theorem lookup_distinct [BEq κ] [LawfulBEq κ] [DecidableEq κ] {name : κ} {value : β} {entries : List (κ × β)}
    (distinct : (entries.map Prod.fst).Nodup) (member : (name,value) ∈ entries) : entries.lookup name = some value := by
  induction entries with
  | nil => cases member
  | cons entry rest ih =>
    obtain ⟨key,other⟩ := entry
    rw [List.map_cons,List.nodup_cons] at distinct
    rw [lookup_cons_if]
    rcases List.mem_cons.mp member with equal | later
    · cases equal
      exact if_pos rfl
    · have apart : name ≠ key := by
        rintro rfl
        exact distinct.1 (List.mem_map.mpr ⟨_,later,rfl⟩)
      rw [if_neg apart]
      exact ih distinct.2 later

theorem bind_ok {ε α β : Type} {x : Except ε α} {f : α → Except ε β} {y : β} :
    (x >>= f) = .ok y ↔ ∃ value, x = .ok value ∧ f value = .ok y := by
  cases x with
  | error e => exact ⟨nofun,nofun⟩
  | ok value => simp [Bind.bind,Except.bind]

theorem bind_error {ε α β : Type} {x : Except ε α} {f : α → Except ε β} {e : ε} :
    (x >>= f) = .error e ↔ x = .error e ∨ ∃ value, x = .ok value ∧ f value = .error e := by
  cases x with
  | error e' => simp [Bind.bind,Except.bind]
  | ok value => simp [Bind.bind,Except.bind]

theorem mapM_one {ε α β : Type} {f : α → Except ε β} {x : α} {y : β} (done : f x = .ok y) : [x].mapM f = .ok [y] := by
  rw [List.mapM_cons,done]
  rfl

theorem mapM_ok_iff {ε α β : Type} {f : α → Except ε β} {xs : List α} {ys : List β} :
    xs.mapM f = .ok ys ↔ List.Forall₂ (fun x y => f x = .ok y) xs ys := by
  induction xs generalizing ys with
  | nil =>
    rw [List.mapM_nil,List.forall₂_nil_left_iff]
    exact ⟨fun same => (Except.ok.inj same).symm,fun same => congrArg Except.ok same.symm⟩
  | cons x rest ih =>
    rw [List.mapM_cons,List.forall₂_cons_left_iff]
    constructor
    · intro done
      obtain ⟨y,first,later⟩ := bind_ok.mp done
      obtain ⟨zs,others,made⟩ := bind_ok.mp later
      cases made
      exact ⟨y,zs,first,ih.mp others,rfl⟩
    · rintro ⟨y,zs,first,others,rfl⟩
      exact bind_ok.mpr ⟨y,first,bind_ok.mpr ⟨zs,ih.mpr others,rfl⟩⟩

theorem mapM_ok_mem {ε α β : Type} {f : α → Except ε β} {xs : List α} {ys : List β} {y : β} (done : xs.mapM f = .ok ys)
    (member : y ∈ ys) : ∃ x ∈ xs, f x = .ok y := by
  have related := mapM_ok_iff.mp done
  obtain ⟨i,here,rfl⟩ := List.mem_iff_getElem.mp member
  exact ⟨_,List.getElem_mem (related.length_eq ▸ here),related.get (related.length_eq ▸ here) here⟩

-- The first item that fails is what fails the whole.
theorem mapM_error_iff {ε α β : Type} {f : α → Except ε β} {xs : List α} {e : ε} :
    xs.mapM f = .error e ↔ ∃ before x after, xs = before ++ x :: after ∧ (∀ b ∈ before, ∃ y, f b = .ok y) ∧ f x = .error e := by
  induction xs with
  | nil =>
    refine ⟨nofun,?_⟩
    rintro ⟨before,x,after,same,-⟩
    simp at same
  | cons first rest ih =>
    have either : (first :: rest).mapM f = .error e ↔ f first = .error e ∨ (∃ y, f first = .ok y) ∧ rest.mapM f = .error e := by
      rw [List.mapM_cons,bind_error]
      refine or_congr_right ⟨?_,?_⟩
      · rintro ⟨y,done,later⟩
        rcases bind_error.mp later with failed | ⟨ys,-,made⟩
        · exact ⟨⟨y,done⟩,failed⟩
        · cases made
      · rintro ⟨⟨y,done⟩,failed⟩
        exact ⟨y,done,bind_error.mpr (.inl failed)⟩
    rw [either,ih]
    constructor
    · rintro (failed | ⟨done,before,x,after,rfl,passed,failed⟩)
      · exact ⟨[],first,rest,rfl,by simp,failed⟩
      · exact ⟨first :: before,x,after,rfl,List.forall_mem_cons.mpr ⟨done,passed⟩,failed⟩
    · rintro ⟨before,x,after,same,passed,failed⟩
      cases before with
      | nil =>
        obtain ⟨rfl,-⟩ := List.cons.inj same
        exact .inl failed
      | cons b before =>
        obtain ⟨rfl,rfl⟩ := List.cons.inj same
        obtain ⟨done,passed⟩ := List.forall_mem_cons.mp passed
        exact .inr ⟨done,before,x,after,rfl,passed,failed⟩

theorem mapM_found {read : α → Option β} (value : α → β) {items : List α}
    (found : ∀ item ∈ items, read item = some (value item)) : items.mapM read = some (items.map value) := by
  induction items with
  | nil => rfl
  | cons item rest ih =>
    have tail := ih fun other member => found other (List.mem_cons_of_mem _ member)
    simp [found item (by simp),tail]

theorem mapM_missing {read : α → Option β} {items : List α} {item : α} (member : item ∈ items)
    (missing : read item = none) : items.mapM read = none := by
  induction items with
  | nil => cases member
  | cons other rest ih =>
    rcases List.mem_cons.mp member with rfl | later
    · simp [missing]
    · cases first : read other <;> simp [first,ih later]

theorem mapM_origin {read : α → Option β} {items : List α} {values : List β} {value : β}
    (found : items.mapM read = some values) (member : value ∈ values) : ∃ item ∈ items, read item = some value := by
  induction items generalizing values with
  | nil =>
    cases found
    cases member
  | cons item rest ih =>
    rw [List.mapM_cons] at found
    obtain ⟨first,here,found⟩ := Option.bind_eq_some_iff.mp found
    obtain ⟨others,there,found⟩ := Option.bind_eq_some_iff.mp found
    cases found
    rcases List.mem_cons.mp member with rfl | later
    · exact ⟨item,List.mem_cons_self,here⟩
    · obtain ⟨origin,inside,same⟩ := ih there later
      exact ⟨origin,List.mem_cons_of_mem _ inside,same⟩

theorem before_mark {mark : α} {front front' back back' : List α} (free : mark ∉ front) (free' : mark ∉ front')
    (same : front ++ mark :: back = front' ++ mark :: back') : front = front' ∧ back = back' := by
  induction front generalizing front' with
  | nil =>
    cases front' with
    | nil => exact ⟨rfl,(List.cons.inj same).2⟩
    | cons c' rest' => exact absurd ((List.cons.inj same).1 ▸ List.mem_cons_self) free'
  | cons c rest ih =>
    cases front' with
    | nil => exact absurd ((List.cons.inj same).1 ▸ List.mem_cons_self) free
    | cons c' rest' =>
      rw [List.mem_cons,not_or] at free free'
      obtain ⟨rfl,tails⟩ := List.cons.inj same
      obtain ⟨rfl,backs⟩ := ih free.2 free'.2 tails
      exact ⟨rfl,backs⟩

end DomainSchema
