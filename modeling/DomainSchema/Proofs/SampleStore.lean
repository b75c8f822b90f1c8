import DomainSchema.Proofs.SampleRebuilding

namespace DomainSchema.Samples

def Store.Valid (s : Store α) : Prop := ∀ name object, s.get? name = some object → object.Valid

def Supply.Sound : Supply α → Prop
  | .pair _ b => Samples.Sound PositiveInt.Valid b
  | .grade score => Samples.Sound Percent.Valid score
  | .batch items _ => ∀ item ∈ items, Samples.Sound PositiveInt.Valid item
  | .price amount money => Samples.Sound PositiveInt.Valid amount ∧ Samples.Sound Currency.Valid money
  | _ => True

def Reply.Valid : Reply α → Prop
  | .built result => Sound Object.Valid result
  | .changed _ => True

theorem failure_sound {valid : α → Prop} (errors : List DomainError) : Sound valid (.failure errors) := by
  intro x built
  cases built

theorem map_sound {valid : α → Prop} {made : β → Prop} {r : DomainResult α} {make : α → β} (sound : Sound valid r)
    (kept : ∀ x, valid x → made (make x)) : Sound made (r.map make) := by
  cases r with
  | failure inner => exact failure_sound inner
  | success x =>
    intro y built
    cases built
    exact kept x (sound x rfl)

namespace Store

theorem empty_valid : ({} : Store α).Valid := by
  intro name object held
  cases held

theorem put_valid {s : Store α} {object : Object α} (valid : s.Valid) (name : String) (fine : object.Valid) :
    (s.put name object).Valid := by
  intro other held found
  simp only [get?,put,lookup_cons_if] at found
  split at found
  · cases found
    exact fine
  · exact valid other held found

theorem keep_valid {s : Store α} {result : DomainResult (Object α)} (valid : s.Valid) (slot : Option String)
    (sound : Sound Object.Valid result) : (s.keep slot result).Valid := by
  unfold keep
  split
  · rename_i name object
    exact put_valid valid name (sound object rfl)
  · exact valid

theorem given_sound {s : Store α} {make? : ρ → Option (DomainResult β)} {part? : Object α → Option β} {sort : β → Prop}
    {given : Given ρ} {r : DomainResult β} (valid : s.Valid) (made : ∀ raw r, make? raw = some r → Sound sort r)
    (part : ∀ object x, part? object = some x → object.Valid → sort x) (stands : s.given? make? part? given = some r) :
    Sound sort r := by
  cases given with
  | raw value => exact made value r stands
  | failing errors =>
    cases stands
    exact failure_sound errors
  | slot name =>
    obtain ⟨x,picked,rfl⟩ := Option.map_eq_some_iff.mp stands
    obtain ⟨object,found,picked⟩ := Option.bind_eq_some_iff.mp picked
    intro y same
    cases same
    exact part object x picked (valid name object found)

theorem positiveInt_sound {s : Store α} {given : Given Int32} {r : DomainResult PositiveInt} (valid : s.Valid)
    (stands : s.positiveInt? given = some r) : Sound PositiveInt.Valid r := by
  refine given_sound valid ?_ ?_ stands
  · intro value r made
    cases (PositiveInt.tryNew?_eq value).symm.trans made
    exact PositiveInt.tryNew_sound value
  · intro object x picked fine
    cases object <;> cases picked
    exact fine

theorem percent_sound {s : Store α} {given : Given Int32} {r : DomainResult Percent} (valid : s.Valid)
    (stands : s.percent? given = some r) : Sound Percent.Valid r := by
  refine given_sound valid ?_ ?_ stands
  · intro value r made
    cases (Percent.tryNew?_eq value).symm.trans made
    exact Percent.tryNew_sound value
  · intro object x picked fine
    cases object <;> cases picked
    exact fine

theorem currency_sound {s : Store α} {given : Given String} {r : DomainResult Currency} (valid : s.Valid)
    (stands : s.currency? given = some r) : Sound Currency.Valid r := by
  refine given_sound valid ?_ ?_ stands
  · intro code r made
    cases made
    exact Currency.parse_sound code
  · intro object x picked fine
    cases object <;> cases picked
    exact fine

theorem items_sound {s : Store α} {items : List (Given Int32)} {rs : List (DomainResult PositiveInt)} (valid : s.Valid)
    (stand : items.mapM s.positiveInt? = some rs) : ∀ r ∈ rs, Sound PositiveInt.Valid r := by
  intro r member
  obtain ⟨given,-,stands⟩ := mapM_origin stand member
  exact positiveInt_sound valid stands

theorem make_sound {supply : Supply α} (sound : supply.Sound) : Sound Object.Valid supply.make := by
  cases supply with
  | positiveInt value => exact map_sound (PositiveInt.tryNew_sound value) fun _ fine => fine
  | percent value => exact map_sound (Percent.tryNew_sound value) fun _ fine => fine
  | currency code => exact map_sound (Currency.parse_sound code) fun _ fine => fine
  | pair a b => exact map_sound (Pair.tryNew_sound a sound) fun _ fine => fine
  | grade score => exact map_sound (Grade.tryNew_sound sound) fun _ fine => fine
  | batch items label => exact map_sound (Batch.tryNew_sound label sound) fun _ fine => fine
  | price amount money => exact map_sound (Price.tryNew_sound sound.1 sound.2) fun _ fine => fine
  | tagged tag value => exact map_sound (Tagged.tryNew_sound tag value) fun _ fine => fine

theorem supply_sound {s : Store α} {creation : Creation α} {supply : Supply α} (valid : s.Valid)
    (supplied : s.supply? creation = some supply) : supply.Sound := by
  cases creation with
  | positiveInt | percent | currency | tagged =>
    cases supplied
    trivial
  | pair a b =>
    obtain ⟨b,stands,rfl⟩ := Option.map_eq_some_iff.mp supplied
    exact positiveInt_sound valid stands
  | grade score =>
    obtain ⟨score,stands,rfl⟩ := Option.map_eq_some_iff.mp supplied
    exact percent_sound valid stands
  | batch items label =>
    obtain ⟨items,stand,rfl⟩ := Option.map_eq_some_iff.mp supplied
    exact items_sound valid stand
  | price amount money =>
    obtain ⟨amount,standsAmount,supplied⟩ := Option.bind_eq_some_iff.mp supplied
    obtain ⟨money,standsMoney,supplied⟩ := Option.bind_eq_some_iff.mp supplied
    cases supplied
    exact ⟨positiveInt_sound valid standsAmount,currency_sound valid standsMoney⟩

theorem resupply_sound {s : Store α} {object : Object α} {change : Change} {supply : Supply α} (valid : s.Valid)
    (fine : object.Valid) (supplied : s.resupply? object.supply change = some supply) : supply.Sound := by
  cases object with
  | positiveInt | currency | price => cases change <;> cases supplied
  | percent x =>
    cases change with
    | percentValue value =>
      cases supplied
      trivial
    | _ => cases supplied
  | pair x =>
    cases change with
    | pairA a =>
      cases supplied
      intro b same
      cases same
      exact fine.b
    | pairB b =>
      obtain ⟨b,stands,rfl⟩ := Option.map_eq_some_iff.mp supplied
      exact positiveInt_sound valid stands
    | _ => cases supplied
  | grade x =>
    cases change with
    | gradeScore score =>
      obtain ⟨score,stands,rfl⟩ := Option.map_eq_some_iff.mp supplied
      exact percent_sound valid stands
    | _ => cases supplied
  | batch x =>
    cases change with
    | batchItems items =>
      obtain ⟨items,stand,rfl⟩ := Option.map_eq_some_iff.mp supplied
      exact items_sound valid stand
    | _ => cases supplied
  | tagged x =>
    cases change with
    | taggedTag tag =>
      cases supplied
      trivial
    | _ => cases supplied

theorem create_sound {s : Store α} {creation : Creation α} {r : DomainResult (Object α)} (valid : s.Valid)
    (created : s.create? creation = some r) : Sound Object.Valid r := by
  rw [create_supply] at created
  obtain ⟨supply,supplied,made⟩ := Option.bind_eq_some_iff.mp created
  cases supply.make?_eq.symm.trans made
  exact make_sound (supply_sound valid supplied)

theorem changed_valid {s : Store α} {object after : Object α} {change : Change} {outcome : Except DomainException Unit}
    (valid : s.Valid) (fine : object.Valid) (changed : s.change? object change = some (outcome,after)) : after.Valid := by
  rw [change_rebuilds s fine] at changed
  obtain ⟨supply,supplied,settled⟩ := Option.map_eq_some_iff.mp changed
  have sound := make_sound (resupply_sound valid fine supplied)
  cases made : supply.make with
  | success rebuilt =>
    rw [made] at settled
    cases settled
    exact sound after made
  | failure errors =>
    rw [made] at settled
    cases settled
    exact fine

theorem step_valid {s after : Store α} {request : Request α} {reply : Reply α} (valid : s.Valid)
    (stepped : s.step? request = some (reply,after)) : reply.Valid ∧ after.Valid := by
  cases request with
  | new slot creation =>
    obtain ⟨result,created,stepped⟩ := Option.bind_eq_some_iff.mp stepped
    cases stepped
    have sound := create_sound valid created
    exact ⟨sound,keep_valid valid slot sound⟩
  | set slot change =>
    obtain ⟨object,held,stepped⟩ := Option.bind_eq_some_iff.mp stepped
    obtain ⟨⟨outcome,changed⟩,changes,stepped⟩ := Option.bind_eq_some_iff.mp stepped
    cases stepped
    exact ⟨trivial,put_valid valid slot (changed_valid valid (valid slot _ held) changes)⟩

-- A request without a reply leaves the store as it is.
def next (s : Store α) (request : Request α) : Store α :=
  match s.step? request with
  | some (_,after) => after
  | none => s

theorem next_valid {s : Store α} (valid : s.Valid) (request : Request α) : (s.next request).Valid := by
  unfold next
  split
  · rename_i reply after stepped
    exact (step_valid valid stepped).2
  · exact valid

theorem run_valid {s : Store α} (valid : s.Valid) (requests : List (Request α)) : (requests.foldl next s).Valid := by
  induction requests generalizing s with
  | nil => exact valid
  | cons request rest ih => exact ih (next_valid valid request)

-- After any requests, every slot holds a valid object, and so does the reply to one more request.
theorem only_valid_objects (requests : List (Request α)) :
    (requests.foldl next ({} : Store α)).Valid ∧
    ∀ request reply after, (requests.foldl next ({} : Store α)).step? request = some (reply,after) → reply.Valid := by
  have valid := run_valid empty_valid requests
  exact ⟨valid,fun request reply after stepped => (step_valid valid stepped).1⟩

-- A refused change leaves what was there.
example : ([.new (some "p") (.percent 40),.set "p" (.percentValue 101)].foldl next ({} : Store Nat)).get? "p" =
    some (.percent ⟨40⟩) := by rfl

end Store

end DomainSchema.Samples
