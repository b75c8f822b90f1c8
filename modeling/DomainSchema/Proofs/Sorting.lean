import Mathlib.Data.List.Sort

namespace DomainSchema

section
variable [LinearOrder κ] {key : α → κ} {le : α → α → Bool}

theorem mergeSort_sorted (orders : ∀ a b, le a b = true ↔ key a ≤ key b) (items : List α) :
    (items.mergeSort le).Pairwise fun a b => key a ≤ key b := by
  have sorted : (items.mergeSort le).Pairwise fun a b => le a b = true := by
    refine List.pairwise_mergeSort ?_ ?_ items
    · intro a b c ab bc
      rw [orders] at ab bc ⊢
      exact ab.trans bc
    · intro a b
      rw [Bool.or_eq_true,orders,orders]
      exact le_total _ _
  exact sorted.imp fun {a b} => (orders a b).mp

theorem mergeSort_eq_iff (apart : key.Injective) (orders : ∀ a b, le a b = true ↔ key a ≤ key b) {items items' : List α} :
    items.mergeSort le = items'.mergeSort le ↔ items.Perm items' := by
  constructor
  · intro same
    exact ((List.mergeSort_perm items le).symm.trans (.of_eq same)).trans (List.mergeSort_perm items' le)
  · intro perm
    have perm' := ((List.mergeSort_perm items le).trans perm).trans (List.mergeSort_perm items' le).symm
    refine List.Perm.eq_of_pairwise ?_ (mergeSort_sorted orders items) (mergeSort_sorted orders items') perm'
    exact fun a b _ _ ab ba => apart (le_antisymm ab ba)

theorem mergeSort_ascends (apart : key.Injective) (orders : ∀ a b, le a b = true ↔ key a ≤ key b) {items : List α}
    (once : items.Nodup) : (items.mergeSort le).Pairwise fun a b => key a < key b := by
  refine (mergeSort_sorted orders items).imp₂ ?_ (List.nodup_mergeSort.mpr once)
  intro a b ordered differ
  exact lt_of_le_of_ne ordered fun same => differ (apart same)

end

end DomainSchema
