import DomainSchema.Proofs.SampleConstruction
import DomainSchema.Proofs.SampleObjects

namespace DomainSchema.Samples

-- Which labels a batch takes. Its rule counts bytes, while the message of the rule speaks of characters.

theorem length_le_bytes (text : List Char) : text.length ≤ (String.ofList text).utf8ByteSize := by
  induction text with
  | nil => exact Nat.le_refl _
  | cons c rest ih =>
    have one := c.utf8Size_pos
    rw [String.ofList_cons,String.utf8ByteSize_append,String.utf8ByteSize_singleton,List.length_cons]
    omega

theorem ascii_bytes {label : String} (ascii : ∀ c ∈ label.toList, c.toNat < 128) :
    label.utf8ByteSize = label.length := by
  have single : ∀ c ∈ label.toList, c.utf8Size = 1 := by
    intro c member
    exact Char.utf8Size_eq_one_iff.mpr (Nat.le_of_lt_succ (ascii c member))
  have bytes := single_bytes single
  rwa [String.ofList_toList,String.length_toList] at bytes

def longLabel : DomainError := ⟨none,"label is longer than 16 characters"⟩

def Batch.announced (items : List PositiveInt) (label : String) : DomainResult Batch :=
  if label.length ≤ 16 then .success ⟨items,label,0⟩ else .failure [longLabel]

theorem Batch.tryNew_labelled {items : List PositiveInt} (label : String) (some_ : items ≠ []) :
    Batch.tryNew (items.map .success) label =
      if label.utf8ByteSize ≤ 16 then .success ⟨items,label,0⟩ else .failure [longLabel] := by
  have enough : Batch.enoughItems items 0 = .ofMessages [] := by simp [Batch.enoughItems,some_]
  unfold Batch.tryNew
  rw [nestedList_values]
  dsimp only
  rw [enough]
  by_cases short : label.utf8ByteSize ≤ 16
  · have silent : Batch.labelIsShort label = .ofErrors [] := by simp [Batch.labelIsShort,Nat.not_lt.mpr short]
    rw [silent,if_pos short]
    rfl
  · have found : Batch.labelIsShort label = .ofErrors [longLabel] := by
      simp [Batch.labelIsShort,Nat.lt_of_not_le short,longLabel]
    rw [found,if_neg short]
    rfl

-- With a list of numbers a batch is made exactly of a label of at most sixteen bytes, and any other label is the one error.
-- That is what the message announces, unless the label has at most sixteen characters and more bytes, which no label of
-- ASCII characters has.
theorem label_limit (items : List PositiveInt) (label : String) (some_ : items ≠ []) :
    Batch.tryNew? (items.map .success) label =
      some (if label.utf8ByteSize ≤ 16 then .success ⟨items,label,0⟩
        else .failure [⟨none,"label is longer than 16 characters"⟩]) ∧
    (Batch.tryNew? (items.map .success) label = some (Batch.announced items label) ↔
      ¬ (label.length ≤ 16 ∧ 16 < label.utf8ByteSize)) ∧
    ((∀ c ∈ label.toList, c.toNat < 128) →
      Batch.tryNew? (items.map .success) label = some (Batch.announced items label)) := by
  have made := (Batch.tryNew?_eq (items.map .success) label).trans (congrArg some (Batch.tryNew_labelled label some_))
  have bytes := length_le_bytes label.toList
  rw [String.ofList_toList,String.length_toList] at bytes
  have departs : Batch.tryNew? (items.map .success) label = some (Batch.announced items label) ↔
      ¬ (label.length ≤ 16 ∧ 16 < label.utf8ByteSize) := by
    rw [made,Batch.announced]
    by_cases few : label.length ≤ 16
    · by_cases short : label.utf8ByteSize ≤ 16
      · simp [few,short]
      · simp [few,short,Nat.lt_of_not_le short]
    · have long : ¬ label.utf8ByteSize ≤ 16 := fun short => few (Nat.le_trans bytes short)
      simp [few,long]
  refine ⟨made,departs,fun ascii => departs.mpr ?_⟩
  rw [ascii_bytes ascii]
  omega

theorem accented_label : [PositiveInt.mk 1] ≠ [] ∧
    Batch.tryNew? ([PositiveInt.mk 1].map .success) "éééééééé" = some (.success ⟨[⟨1⟩],"éééééééé",0⟩) := by
  have some_ : [PositiveInt.mk 1] ≠ [] := List.cons_ne_nil _ _
  refine ⟨some_,(label_limit [⟨1⟩] "éééééééé" some_).1.trans (congrArg some ?_)⟩
  exact if_pos (by decide)

-- A ninth is refused as the seventeenth character.
theorem accented_refused : ¬ ∀ (items : List PositiveInt) (label : String), items ≠ [] → (∀ item ∈ items, item.Valid) →
    Batch.tryNew? (items.map .success) label = some (Batch.announced items label) := by
  intro claimed
  have valid : ∀ item ∈ [PositiveInt.mk 1], item.Valid := by
    intro item member
    rw [List.mem_singleton.mp member]
    exact Int32.lt_iff_toInt_lt.mpr (by decide)
  have told := claimed [⟨1⟩] "ééééééééé" (List.cons_ne_nil _ _) valid
  rw [Batch.tryNew?_eq,Batch.tryNew_labelled _ (List.cons_ne_nil _ _),if_neg (by decide),Batch.announced,
    if_pos (by decide)] at told
  cases told

end DomainSchema.Samples
