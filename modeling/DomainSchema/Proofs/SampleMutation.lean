import DomainSchema.Proofs.SampleStore

namespace DomainSchema.Samples

namespace Store

theorem get_put (s : Store α) (name : String) (object : Object α) (other : String) :
    (s.put name object).get? other = if other = name then some object else s.get? other :=
  lookup_cons_if name other object s.slots

theorem set_step {s : Store α} {slot : String} {object : Object α} (held : s.get? slot = some object)
    (valid : object.Valid) (change : Change) :
    s.step? (.set slot change) = (s.resupply? object.supply change).map fun supply =>
      match supply.make with
      | .success rebuilt => (.changed (.ok ()),s.put slot rebuilt)
      | .failure errors => (.changed (.error ⟨errors⟩),s.put slot object) := by
  simp only [step?,held,change_rebuilds s valid,Option.bind_eq_bind,Option.bind_some]
  cases s.resupply? object.supply change with
  | none => rfl
  | some supply =>
    cases made : supply.make <;> simp [made,DomainResult.raise,settle]

-- Whatever requests came before, a change answers as if the object were made again with the argument in the place of
-- the field: with success the new object is in the slot, with failure its errors are raised and the old object stays.
-- Other slots are not touched. A change that the object does not have, or whose argument is no object, is no change.
theorem mutation_rebuilds {requests : List (Request α)} {slot : String} {object : Object α}
    (held : (requests.foldl next ({} : Store α)).get? slot = some object) (change : Change) :
    let s := requests.foldl next ({} : Store α)
    (s.resupply? object.supply change = none → s.step? (.set slot change) = none) ∧
    ∀ supply, s.resupply? object.supply change = some supply → ∃ result after, supply.make? = some result ∧
      (∀ rebuilt, result = .success rebuilt →
        s.step? (.set slot change) = some (.changed (.ok ()),after) ∧ after.get? slot = some rebuilt) ∧
      (∀ errors, result = .failure errors →
        s.step? (.set slot change) = some (.changed (.error ⟨errors⟩),after) ∧ after.get? slot = some object) ∧
      ∀ other, other ≠ slot → after.get? other = s.get? other := by
  intro s
  have valid : s.Valid := run_valid empty_valid requests
  have stepped := set_step (s := s) held (valid slot object held) change
  refine ⟨?_,?_⟩
  · intro nothing
    rw [stepped]
    exact Option.map_eq_none_iff.mpr nothing
  · intro supply resupplied
    rw [stepped,resupplied,supply.make?_eq]
    cases made : supply.make with
    | success rebuilt =>
      refine ⟨_,s.put slot rebuilt,rfl,?_,nofun,?_⟩
      · intro x same
        cases same
        exact ⟨by simp [made],by rw [get_put,if_pos rfl]⟩
      · intro other apart
        rw [get_put,if_neg apart]
    | failure errors =>
      refine ⟨_,s.put slot object,rfl,nofun,?_,?_⟩
      · intro es same
        cases same
        exact ⟨by simp [made],by rw [get_put,if_pos rfl]⟩
      · intro other apart
        rw [get_put,if_neg apart]

-- A batch of two numbers keeps its label, which is not asked about again, and reports both faults of the new items.
theorem batch_items_rebuilt :
    let requests : List (Request Nat) := [.new (some "b") (.batch [.raw 4,.raw 5] "first")]
    let s := requests.foldl next {}
    let object : Object Nat := .batch ⟨[⟨4⟩,⟨5⟩],"first",0⟩
    let change : Change := .batchItems [.raw 7,.raw 0,.failing [⟨some "value","too large"⟩]]
    s.get? "b" = some object ∧ ∃ after,
      s.step? (.set "b" change) =
        some (.changed (.error ⟨[⟨some "Numbers","Value is zero"⟩,⟨some "Numbers/value","too large"⟩]⟩),after) ∧
      after.get? "b" = some object ∧ ∀ other, other ≠ "b" → after.get? other = s.get? other := by
  intro requests s object change
  have held : s.get? "b" = some object := by rfl
  obtain ⟨result,after,made,-,refused,others⟩ := (mutation_rebuilds held change).2 _ rfl
  cases (Supply.make?_eq _).symm.trans made
  obtain ⟨stepped,kept⟩ := refused _ rfl
  exact ⟨held,after,stepped,kept,others⟩

end Store

end DomainSchema.Samples
