import DomainSchema.Declaration.Json
import DomainSchema.Proofs.Entries
import DomainSchema.Proofs.JsonText

namespace DomainSchema.Json

-- A reader takes a value back for what it stands for. One lemma for each kind of reader, so that the readers of
-- whole types follow from those of their parts.

mutual

def Value.depth : Value → Nat
  | .array items => itemsDepth items + 1
  | .object entries => entriesDepth entries + 1
  | .null | .bool _ | .number _ | .string _ => 0

def itemsDepth : List Value → Nat
  | [] => 0
  | item :: items => max item.depth (itemsDepth items)

def entriesDepth : List (String × Value) → Nat
  | [] => 0
  | (_,value) :: entries => max value.depth (entriesDepth entries)

end

theorem itemsDepth_le {items : List Value} {n : Nat} : itemsDepth items ≤ n ↔ ∀ item ∈ items, item.depth ≤ n := by
  induction items with
  | nil => simp [itemsDepth]
  | cons item items ih => rw [itemsDepth,Nat.max_le,ih,List.forall_mem_cons]

-- What is read if as many arrays and objects may be entered as there are inside each other.
def within (depth budget : Nat) (a : α) : Except ReadError α := if depth ≤ budget then .ok a else fault .nestedTooDeep

theorem within_ok {depth budget : Nat} (shallow : depth ≤ budget) (a : α) : within depth budget a = .ok a := if_pos shallow

theorem within_fault {depth budget : Nat} (deep : budget < depth) (a : α) : within depth budget a = fault .nestedTooDeep :=
  if_neg (Nat.not_le.mpr deep)

theorem within_succ {depth budget : Nat} (a : α) : within (depth + 1) (budget + 1) a = within depth budget a := by
  simp [within]

theorem room_inside {depth budget : Nat} (shallow : depth + 1 ≤ budget) : ∃ inner, budget = inner + 1 ∧ depth ≤ inner :=
  ⟨budget - 1,by omega,by omega⟩

theorem within_bind {depth more budget : Nat} {a : α} {b : β} {f : α → Except ReadError β} (next : f a = within more budget b) :
    (within depth budget a >>= f) = within (max depth more) budget b := by
  by_cases shallow : depth ≤ budget
  · have same : max depth more ≤ budget ↔ more ≤ budget := by omega
    rw [within_ok shallow]
    refine next.trans ?_
    simp only [within,same]
  · rw [within_fault (by omega),within_fault (by omega)]
    rfl

theorem within_then {depth budget : Nat} {a : α} {b : β} {f : α → Except ReadError β} (next : f a = .ok b) :
    (within depth budget a >>= f) = within depth budget b := by
  unfold within
  split
  · exact next
  · rfl

theorem within_map {depth budget : Nat} {f : α → β} {a : α} : (within depth budget a).map f = within depth budget (f a) := by
  unfold within
  split <;> rfl

structure Reads (budget : Nat) (read : Reader α) (v : Value) (a : α) : Prop where
  worded : v.depth ≤ budget → v.Worded
  answer : read .text budget v.written = within v.depth budget a

theorem Reads.ofText {read : Reader α} {v : Value} {a : α} (reads : ∀ budget, Reads budget read v a) (layout : Layout) :
    read.ofText (String.ofList (v.laid layout 0)) = within v.depth depthLimit a := by
  have worded : v.Worded := (reads v.depth).worded (Nat.le_refl _)
  rw [Reader.ofText,Document.ofText_laid worded]
  dsimp only
  rw [(reads depthLimit).answer]
  unfold within
  split <;> rfl

theorem mapM_reads {budget : Nat} {read : Reader α} {write : α → Value} {xs : List α}
    (each : ∀ x ∈ xs, Reads budget read (write x) x) :
    ((xs.map write).map Value.written).mapM (read .text budget) = within (itemsDepth (xs.map write)) budget xs := by
  induction xs with
  | nil => rfl
  | cons x xs ih =>
    obtain ⟨here,below⟩ := List.forall_mem_cons.mp each
    rw [List.map_cons,List.map_cons,List.mapM_cons,here.answer,itemsDepth,ih below]
    exact within_bind within_map

namespace Reads
variable {budget : Nat} {read : Reader α} {v : Value} {a : α}

theorem map {f : α → β} (reads : Reads budget read v a) : Reads budget (read.map f) v (f a) where
  worded := reads.worded
  answer := by rw [Reader.map,reads.answer,within_map]

theorem string (s : String) : Reads budget .string (.string s) s where
  worded _ := by simp [Value.Worded]
  answer := by
    rw [Value.written]
    exact Quoted.written_read s

theorem bool (b : Bool) : Reads budget .bool (.bool b) b where
  worded _ := by simp [Value.Worded]
  answer := by
    rw [Value.written]
    rfl

theorem absent : Reads budget (.nullable read) .null none where
  worded _ := by simp [Value.Worded]
  answer := by
    rw [Value.written]
    rfl

theorem present (some_ : v ≠ .null) (reads : Reads budget read v a) : Reads budget (.nullable read) v (some a) where
  worded := reads.worded
  answer := by
    have answer := (reads.map (f := some)).answer
    cases v with
    | null => exact absurd rfl some_
    | _ => simpa [Value.written,Reader.nullable,Reader.map] using answer

theorem option (text : Option String) : Reads budget (.nullable .string) (.option text) text := by
  cases text with
  | none => exact absent
  | some s => exact present nofun (string s)

theorem list {write : α → Value} {xs : List α}
    (each : ∀ inner, budget = inner + 1 → ∀ x ∈ xs, Reads inner read (write x) x) :
    Reads budget (.list read) (.array (xs.map write)) xs := by
  refine ⟨fun shallow => ?_,?_⟩
  · rw [Value.depth] at shallow
    obtain ⟨inner,rfl,flat⟩ := room_inside shallow
    rw [Value.Worded]
    intro item member
    obtain ⟨x,there,rfl⟩ := List.mem_map.mp member
    exact (each inner rfl x there).worded (itemsDepth_le.mp flat _ member)
  · rw [Value.written,Value.depth]
    cases budget with
    | zero => rfl
    | succ inner =>
      rw [Reader.list,mapM_reads (each inner rfl),within_succ]
      exact within_then rfl

theorem strings (texts : List String) : Reads budget strings (.strings texts) texts :=
  list fun _ _ text _ => string text

section
variable {byName : String → Except ReadError α} {withPayload : String → Reader α} {name : String}

theorem bare (answer : byName name = .ok a) : Reads budget (.variant byName withPayload) (.string name) a where
  worded _ := by simp [Value.Worded]
  answer := by
    rw [Value.written,Reader.variant,Quoted.written_read]
    exact answer

theorem payload (each : ∀ inner, budget = inner + 1 → Reads inner (withPayload name) v a) :
    Reads budget (.variant byName withPayload) (.object [(name,v)]) a := by
  have depth : (Value.object [(name,v)]).depth = v.depth + 1 := by simp [Value.depth,entriesDepth]
  refine ⟨fun shallow => ?_,?_⟩
  · rw [depth] at shallow
    obtain ⟨inner,rfl,flat⟩ := room_inside shallow
    simpa [Value.Worded] using (each inner rfl).worded flat
  · rw [Value.written,depth]
    cases budget with
    | zero => rfl
    | succ inner =>
      rw [within_succ]
      simp only [List.map_cons,List.map_nil,Reader.variant,Quoted.written_read]
      show (withPayload name .text inner v.written >>= _) = _
      rw [(each inner rfl).answer]
      exact within_then rfl

theorem oneOf {variants : List (String × α)} (found : variants.lookup name = some a) :
    Reads budget (.oneOf variants) (.string name) a := by
  rw [Reader.oneOf]
  exact bare (by rw [found])

theorem named {name : α → String} {variants : List α} (distinct : (variants.map name).Nodup) (member : a ∈ variants) :
    Reads budget (.oneOf (named name variants)) (.string (name a)) a := by
  refine oneOf (lookup_distinct ?_ ?_)
  · simpa [DomainSchema.named,Function.comp_def] using distinct
  · exact List.mem_map.mpr ⟨a,member,rfl⟩

end

end Reads

-- The entries of an object fill the fields of a record in their order, starting from one record and ending with
-- another. A field that may be left out keeps what the record has for it.
inductive Fills {α : Type} (budget : Nat) : List (Reader.Field α) → List (Option (String × Value)) → α → α → Prop where
  | done {a : α} : Fills budget [] [] a a
  | given {key : String} {absence : Reader.Absence} {read : Reader β} {set : β → α → α} {v : Value} {x : β} {a b : α}
    {fields : List (Reader.Field α)} {entries : List (Option (String × Value))}
    (reads : Reads budget read v x) (more : Fills budget fields entries (set x a) b) :
    Fills budget (⟨key,absence,read.map set⟩ :: fields) (some (key,v) :: entries) a b
  | omitted {field : Reader.Field α} {a b : α} {fields : List (Reader.Field α)} {entries : List (Option (String × Value))}
    (free : field.absence ≠ .refused) (more : Fills budget fields entries a b) :
    Fills budget (field :: fields) (none :: entries) a b

section
variable {fields all : List (Reader.Field α)} {entries : List (Option (String × Value))} {budget : Nat} {a b : α}

theorem find_key {f : Reader.Field α} (distinct : (fields.map (·.key)).Nodup) (member : f ∈ fields) :
    fields.find? (·.key == f.key) = some f := by
  induction fields with
  | nil => cases member
  | cons g fields ih =>
    rw [List.map_cons,List.nodup_cons] at distinct
    rcases List.mem_cons.mp member with rfl | below
    · simp
    · have apart : g.key ≠ f.key := fun same => distinct.1 (same ▸ List.mem_map_of_mem below)
      rw [List.find?_cons_of_neg (by simpa using apart)]
      exact ih distinct.2 below

theorem Fills.worded (fills : Fills budget fields entries a b) (shallow : entriesDepth (entries.filterMap id) ≤ budget) :
    ∀ e ∈ entries.filterMap id, e.2.Worded := by
  induction fills with
  | done => nofun
  | given reads more ih =>
    rw [List.filterMap_cons_some (by rfl),entriesDepth,Nat.max_le] at shallow
    rw [List.filterMap_cons_some (by rfl),List.forall_mem_cons]
    exact ⟨reads.worded shallow.1,ih shallow.2⟩
  | omitted free more ih => exact ih shallow

theorem entriesInto_known {field : Reader.Field α} {key : String} {value : Node} {rest : List (Quoted × Node)} {seen : List String}
    (found : all.find? (·.key == key) = some field) (fresh : key ∉ seen) :
    Reader.entriesInto all .text budget ((.written key,value) :: rest) a seen =
      (field.read .text budget value >>= fun set => Reader.entriesInto all .text budget rest (set a) (key :: seen)) := by
  rw [Reader.entriesInto,Quoted.written_read]
  simp only [Bind.bind,Except.bind,found,if_neg fresh]

-- By induction on what fills the record: the keys that were seen before are those of other fields.
theorem Fills.entriesInto (fills : Fills budget fields entries a b) (known : ∀ f ∈ fields, all.find? (·.key == f.key) = some f)
    (distinct : (fields.map (·.key)).Nodup) {seen : List String} (fresh : ∀ f ∈ fields, f.key ∉ seen) :
    ∃ seen', Reader.entriesInto all .text budget ((entries.filterMap id).map fun e => (.written e.1,e.2.written)) a seen =
        within (entriesDepth (entries.filterMap id)) budget (b,seen') ∧
      (∀ key ∈ seen, key ∈ seen') ∧ ∀ f ∈ fields, f.absence = .refused → f.key ∈ seen' := by
  induction fills generalizing seen with
  | done => exact ⟨seen,rfl,fun _ => id,nofun⟩
  | @given β key absence read set v x a b fields entries reads more ih =>
    rw [List.forall_mem_cons] at known fresh
    rw [List.map_cons,List.nodup_cons] at distinct
    have unseen : ∀ f ∈ fields, f.key ∉ key :: seen := by
      intro f member
      rw [List.mem_cons,not_or]
      refine ⟨?_,fresh.2 f member⟩
      rintro rfl
      exact distinct.1 (List.mem_map.mpr ⟨f,member,rfl⟩)
    obtain ⟨seen',entered,kept,there⟩ := ih known.2 distinct.2 unseen
    refine ⟨seen',?_,fun name before => kept name (List.mem_cons_of_mem _ before),?_⟩
    · rw [List.filterMap_cons_some (by rfl),entriesDepth,List.map_cons,entriesInto_known known.1 fresh.1]
      dsimp only
      rw [reads.map.answer]
      exact within_bind entered
    · rw [List.forall_mem_cons]
      exact ⟨fun _ => kept key List.mem_cons_self,there⟩
  | omitted free more ih =>
    rw [List.forall_mem_cons] at known fresh
    rw [List.map_cons,List.nodup_cons] at distinct
    obtain ⟨seen',entered,kept,there⟩ := ih known.2 distinct.2 fresh.2
    refine ⟨seen',entered,kept,?_⟩
    rw [List.forall_mem_cons]
    exact ⟨fun refused => absurd refused free,there⟩

theorem Reads.record {name : String} {blank : α} (distinct : (fields.map (·.key)).Nodup)
    (fills : ∀ inner, budget = inner + 1 → Fills inner fields entries blank a) :
    Reads budget (.record name blank fields) (given entries) a := by
  refine ⟨fun shallow => ?_,?_⟩
  · rw [given,Value.depth] at shallow
    obtain ⟨inner,rfl,flat⟩ := room_inside shallow
    rw [given,Value.Worded]
    exact (fills inner rfl).worded flat
  · rw [given,Value.written,Value.depth]
    cases budget with
    | zero => rfl
    | succ inner =>
      obtain ⟨seen,entered,-,there⟩ := (fills inner rfl).entriesInto (fun _ => find_key distinct) distinct
        fun _ _ => List.not_mem_nil
      have complete : fields.find? (fun f => f.absence = .refused ∧ f.key ∉ seen) = none := by
        rw [List.find?_eq_none]
        intro f member missing
        obtain ⟨refused,unseen⟩ := of_decide_eq_true missing
        exact unseen (there f member refused)
      rw [Reader.record,entered,within_succ]
      refine within_then ?_
      simp only [complete]
      rfl

theorem Fills.unlessEmpty {key : String} {read : Reader (List β)} {set : List β → α → α} {v : Value} {xs : List β}
    (reads : Reads budget read v xs) (kept : set [] a = a) (more : Fills budget fields entries (set xs a) b) :
    Fills budget (.optional key read set :: fields) (entryIf (!xs.isEmpty) key v :: entries) a b := by
  cases xs with
  | nil => exact .omitted (by simp [Reader.Field.optional]) (kept ▸ more)
  | cons x xs => exact .given reads more

theorem Fills.ifPresent {key : String} {read : Reader β} {set : Option β → α → α} {write : β → Value} {x? : Option β}
    (reads : ∀ x ∈ x?, write x ≠ .null ∧ Reads budget read (write x) x) (kept : set none a = a)
    (more : Fills budget fields entries (set x? a) b) :
    Fills budget (.optional key (.nullable read) set :: fields) (entryOf key (x?.map write) :: entries) a b := by
  cases x? with
  | none => exact .omitted (by simp [Reader.Field.optional]) (kept ▸ more)
  | some x =>
    obtain ⟨some_,reads⟩ := reads x rfl
    exact .given (.present some_ reads) more

end

end DomainSchema.Json
