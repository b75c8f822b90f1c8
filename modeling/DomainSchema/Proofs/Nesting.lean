import DomainSchema.NestingGraph
import DomainSchema.Proofs.Entries
import Mathlib.Data.Finset.Card
import Mathlib.Data.List.Nodup

namespace DomainSchema

structure Holding where
  holder : String
  held : String
  field : String
  nesting : Nesting
deriving DecidableEq, Repr

def BoundSchema.holdings (b : BoundSchema) : List Holding :=
  b.schema.nestedFields.map fun f => ⟨b.schema.name,f.nestedType.path,f.name,f.nesting⟩

def BoundSchema.heldTypes (b : BoundSchema) : List String := b.schema.nestedFields.map (·.nestedType.path)

def namedIn (schemas : List BoundSchema) : List String := schemas.flatMap fun b => b.schema.name :: b.heldTypes

-- How many fields of that name and kind the schemas called `holder` have for objects of the type `held`.
def fieldsBetween (schemas : List BoundSchema) (holder held field : String) (nesting : Nesting) : Nat :=
  ((schemas.filter (·.schema.name = holder)).flatMap (·.schema.nestedFields)).countP fun f =>
    f.name = field ∧ f.nesting = nesting ∧ f.nestedType.path = held

namespace NestingGraph

def holdings (g : NestingGraph) : List Holding :=
  g.edges.map fun e => ⟨g.nameAt e.source,g.nameAt e.target,e.field,e.nesting⟩

-- The table of places is in step with the names, and no edge ends outside of them.
structure Interned (g : NestingGraph) : Prop where
  once : g.names.Nodup
  placed : g.places = g.names.zipIdx
  inside : ∀ e ∈ g.edges, e.source < g.names.length ∧ e.target < g.names.length

section
variable {g : NestingGraph} {name : String} {place : Nat}

theorem Interned.lookup_iff (interned : g.Interned) : g.places.lookup name = some place ↔ g.names[place]? = some name := by
  have keys : (g.places.map Prod.fst).Nodup := by
    rw [interned.placed,List.zipIdx_map_fst]
    exact interned.once
  constructor
  · intro found
    obtain ⟨before,after,split,-⟩ := List.lookup_eq_some_iff.mp found
    have member : (name,place) ∈ g.names.zipIdx := by
      rw [← interned.placed,split]
      exact List.mem_append_right _ List.mem_cons_self
    exact List.mem_zipIdx_iff_getElem?.mp member
  · intro stands
    apply lookup_distinct keys
    rw [interned.placed]
    exact List.mem_zipIdx_iff_getElem?.mpr stands

theorem Interned.lookup_none (interned : g.Interned) : g.places.lookup name = none ↔ name ∉ g.names := by
  rw [List.lookup_eq_none_iff,interned.placed]
  constructor
  · intro absent member
    obtain ⟨place,stands⟩ := List.mem_iff_getElem?.mp member
    simpa using absent (name,place) (List.mem_zipIdx_iff_getElem?.mpr stands)
  · intro absent entry member
    have stands : entry.1 ∈ g.names := List.mem_of_getElem? (List.mem_zipIdx_iff_getElem?.mp member)
    have apart : name ≠ entry.1 := fun same => absent (same ▸ stands)
    simpa using apart

theorem nameAt_iff (inside : place < g.names.length) : g.nameAt place = name ↔ g.names[place]? = some name := by
  simp [nameAt,inside]

structure Gains (g : NestingGraph) (names : List String) (more : List Holding) (g' : NestingGraph) : Prop where
  interned : g'.Interned
  kept : g.names <+: g'.names
  known : ∀ name, name ∈ g'.names ↔ name ∈ g.names ∨ name ∈ names
  edges : g'.holdings = g.holdings ++ more

theorem Gains.refl (interned : g.Interned) : Gains g [] [] g := ⟨interned,List.prefix_rfl,by simp,by simp⟩

theorem Gains.trans {g' g'' : NestingGraph} {names names' : List String} {more more' : List Holding}
    (first : Gains g names more g') (second : Gains g' names' more' g'') : Gains g (names ++ names') (more ++ more') g'' where
  interned := second.interned
  kept := first.kept.trans second.kept
  known name := by rw [second.known,first.known,List.mem_append,or_assoc]
  edges := by rw [second.edges,first.edges,List.append_assoc]

theorem place_kept {names names' : List String} (kept : names <+: names') (stands : names[place]? = some name) :
    names'[place]? = some name := by
  obtain ⟨later,rfl⟩ := kept
  obtain ⟨inside,-⟩ := List.getElem?_eq_some_iff.mp stands
  rw [List.getElem?_append_left inside,stands]

theorem holdings_kept {g' : NestingGraph} (interned : g.Interned) (kept : g.names <+: g'.names) (edges : g'.edges = g.edges) :
    g'.holdings = g.holdings := by
  have same : ∀ place, place < g.names.length → g'.nameAt place = g.nameAt place := by
    intro place inside
    have stands := (nameAt_iff inside).mp rfl
    have stands' := place_kept kept stands
    exact (nameAt_iff (List.getElem?_eq_some_iff.mp stands').1).mpr stands'
  unfold holdings
  rw [edges]
  apply List.map_congr_left
  intro e member
  obtain ⟨source,target⟩ := interned.inside e member
  rw [same _ source,same _ target]

theorem node_gains (interned : g.Interned) (name : String) :
    Gains g [name] [] (g.node name).2 ∧ (g.node name).2.names[(g.node name).1]? = some name := by
  unfold node
  cases found : g.places.lookup name with
  | some place =>
    have stands := interned.lookup_iff.mp found
    refine ⟨⟨interned,List.prefix_rfl,fun other => ?_,by simp⟩,stands⟩
    have old : other = name → other ∈ g.names := fun same => same ▸ List.mem_of_getElem? stands
    simpa using old
  | none =>
    have absent := interned.lookup_none.mp found
    have interned' : Interned ⟨g.names ++ [name],g.places ++ [(name,g.names.length)],g.edges⟩ := by
      refine ⟨?_,?_,fun e member => ?_⟩
      · rw [List.nodup_append]
        refine ⟨interned.once,List.nodup_singleton name,?_⟩
        rintro other old new last rfl
        exact absent (List.mem_singleton.mp last ▸ old)
      · simp [interned.placed,List.zipIdx_append]
      · obtain ⟨source,target⟩ := interned.inside e member
        simp only [List.length_append,List.length_singleton]
        omega
    refine ⟨⟨interned',List.prefix_append _ _,fun other => by simp,?_⟩,by simp⟩
    rw [List.append_nil]
    exact holdings_kept interned (List.prefix_append _ _) rfl

theorem addEdge_gains {source target : Nat} {holder held : String} (interned : g.Interned)
    (source_at : g.names[source]? = some holder) (target_at : g.names[target]? = some held) (field : String)
    (nesting : Nesting) :
    Gains g [] [⟨holder,held,field,nesting⟩] { g with edges := g.edges ++ [⟨source,target,field,nesting⟩] } := by
  have source_inside := (List.getElem?_eq_some_iff.mp source_at).1
  have target_inside := (List.getElem?_eq_some_iff.mp target_at).1
  refine ⟨⟨interned.once,interned.placed,?_⟩,List.prefix_rfl,by simp,?_⟩
  · intro e member
    rcases List.mem_append.mp member with old | new
    · exact interned.inside e old
    · cases List.mem_singleton.mp new
      exact ⟨source_inside,target_inside⟩
  · have source_name := (nameAt_iff source_inside).mpr source_at
    have target_name := (nameAt_iff target_inside).mpr target_at
    rw [← source_name,← target_name]
    exact List.map_append

theorem addField_gains {source : Nat} {holder : String} (interned : g.Interned) (source_at : g.names[source]? = some holder)
    (f : Field) : Gains g [f.nestedType.path] [⟨holder,f.nestedType.path,f.name,f.nesting⟩] (addField source g f) := by
  obtain ⟨gains,target_at⟩ := node_gains interned f.nestedType.path
  exact gains.trans (addEdge_gains gains.interned (place_kept gains.kept source_at) target_at f.name f.nesting)

-- What every step of a loop gains, the loop gains. A step may rely on the names that stood before the loop.
theorem foldl_gains {α : Type} {step : NestingGraph → α → NestingGraph} {names : α → List String} {more : α → List Holding}
    (start : NestingGraph) (items : List α)
    (gains : ∀ g item, g.Interned → start.names <+: g.names → Gains g (names item) (more item) (step g item))
    (interned : g.Interned) (kept : start.names <+: g.names) :
    Gains g (items.flatMap names) (items.flatMap more) (items.foldl step g) := by
  induction items generalizing g with
  | nil => exact .refl interned
  | cons item rest ih =>
    have first := gains g item interned kept
    exact first.trans (ih first.interned (kept.trans first.kept))

theorem addSchema_gains (interned : g.Interned) (b : BoundSchema) :
    Gains g (b.schema.name :: b.heldTypes) b.holdings (g.addSchema b) := by
  obtain ⟨gains,source_at⟩ := node_gains interned b.schema.name
  have fields := foldl_gains _ b.schema.nestedFields
    (fun _ f interned kept => addField_gains interned (place_kept kept source_at) f) gains.interned List.prefix_rfl
  rw [← List.map_eq_flatMap,← List.map_eq_flatMap] at fields
  exact gains.trans fields

theorem build_gains (schemas : List BoundSchema) :
    Gains {} (schemas.map (·.schema.name) ++ namedIn schemas) (schemas.flatMap (·.holdings)) (build schemas) := by
  have empty : Interned {} := ⟨.nil,rfl,nofun⟩
  have named := foldl_gains {} schemas (fun _ b interned _ => (node_gains interned b.schema.name).1) empty List.prefix_rfl
  have filled := foldl_gains {} schemas (fun _ b interned _ => addSchema_gains interned b) named.interned List.nil_prefix
  rw [← List.map_eq_flatMap] at named
  have whole := named.trans filled
  rwa [List.flatMap_eq_nil_iff.mpr fun _ _ => rfl,List.nil_append] at whole

theorem build_interned (schemas : List BoundSchema) : (build schemas).Interned := (build_gains schemas).interned

theorem build_holdings (schemas : List BoundSchema) : (build schemas).holdings = schemas.flatMap (·.holdings) :=
  (build_gains schemas).edges

theorem mem_build_names (schemas : List BoundSchema) (name : String) : name ∈ (build schemas).names ↔ name ∈ namedIn schemas := by
  rw [(build_gains schemas).known,List.mem_append]
  constructor
  · rintro (none | first | later)
    · cases none
    · obtain ⟨b,member,rfl⟩ := List.mem_map.mp first
      exact List.mem_flatMap.mpr ⟨b,member,List.mem_cons_self⟩
    · exact later
  · exact fun named => .inr (.inr named)

theorem neighbors_count (interned : g.Interned) {near far : NestingEdge → Nat}
    (inside : ∀ e ∈ g.edges, near e < g.names.length) (name : String) (n : Neighbor) :
    (g.neighbors near far name).count n =
      g.edges.countP fun e => g.nameAt (near e) = name ∧ (⟨g.nameAt (far e),e.field,e.nesting⟩ : Neighbor) = n := by
  unfold neighbors
  cases found : g.places.lookup name with
  | none =>
    have absent := interned.lookup_none.mp found
    rw [List.count_nil,eq_comm,List.countP_eq_zero]
    intro e member here
    have stands := (nameAt_iff (inside e member)).mp (of_decide_eq_true here).1
    exact absent (List.mem_of_getElem? stands)
  | some place =>
    have place_at := interned.lookup_iff.mp found
    have ends : ∀ e ∈ g.edges, near e = place ↔ g.nameAt (near e) = name := by
      intro e member
      rw [nameAt_iff (inside e member),← place_at]
      exact (List.getElem?_inj (inside e member) interned.once).symm
    dsimp only
    rw [(List.mergeSort_perm _ _).count_eq,List.count_reverse,List.count_eq_countP,List.countP_map,List.countP_filter]
    apply List.countP_congr
    intro e member
    simp [ends e member,and_comm]

theorem dependencies_count (interned : g.Interned) (a b field : String) (nesting : Nesting) :
    (g.dependencies a).count ⟨b,field,nesting⟩ = g.holdings.count ⟨a,b,field,nesting⟩ := by
  rw [dependencies,neighbors_count interned fun e member => (interned.inside e member).1,holdings,
    List.count_eq_countP,List.countP_map]
  apply List.countP_congr
  intro e _
  simp

theorem dependents_count (interned : g.Interned) (a b field : String) (nesting : Nesting) :
    (g.dependents b).count ⟨a,field,nesting⟩ = g.holdings.count ⟨a,b,field,nesting⟩ := by
  rw [dependents,neighbors_count interned fun e member => (interned.inside e member).2,holdings,
    List.count_eq_countP,List.countP_map]
  apply List.countP_congr
  intro e _
  simp [and_left_comm]

theorem neighbors_none (interned : g.Interned) (absent : name ∉ g.names) (near far : NestingEdge → Nat) :
    g.neighbors near far name = [] := by
  rw [neighbors,interned.lookup_none.mpr absent]

end

theorem holdings_count (schemas : List BoundSchema) (holder held field : String) (nesting : Nesting) :
    (schemas.flatMap (·.holdings)).count ⟨holder,held,field,nesting⟩ = fieldsBetween schemas holder held field nesting := by
  induction schemas with
  | nil => rfl
  | cons b rest ih =>
    rw [List.flatMap_cons,List.count_append,ih]
    unfold fieldsBetween
    by_cases here : b.schema.name = holder
    · rw [List.filter_cons_of_pos (by simpa using here),List.flatMap_cons,List.countP_append]
      congr 1
      rw [BoundSchema.holdings,List.count_eq_countP,List.countP_map]
      apply List.countP_congr
      intro f _
      simp [here,and_comm,and_assoc]
    · rw [List.filter_cons_of_neg (by simpa using here)]
      have none : b.holdings.count ⟨holder,held,field,nesting⟩ = 0 := by
        rw [List.count_eq_zero]
        intro member
        obtain ⟨f,-,same⟩ := List.mem_map.mp member
        cases same
        exact here rfl
      rw [none,Nat.zero_add]

-- Every field that holds domain objects is one edge, seen from its schema and from what it holds, and there is no other edge.
-- Nothing is asked of the schemas: names may repeat, a schema may hold its own objects, and two types may have many edges.
theorem views_agree (schemas : List BoundSchema) :
    (∀ a b field nesting,
      ((build schemas).dependencies a).count ⟨b,field,nesting⟩ = ((build schemas).dependents b).count ⟨a,field,nesting⟩ ∧
      ((build schemas).dependencies a).count ⟨b,field,nesting⟩ = fieldsBetween schemas a b field nesting) ∧
    (build schemas).edgeCount = (schemas.flatMap (·.schema.nestedFields)).length ∧
    (build schemas).nodeCount = (namedIn schemas).toFinset.card ∧
    ∀ name, (name ∈ (build schemas).names ↔ name ∈ namedIn schemas) ∧ (name ∉ (build schemas).names →
      (build schemas).dependencies name = [] ∧ (build schemas).dependents name = []) := by
  have interned := build_interned schemas
  refine ⟨fun a b field nesting => ?_,?_,?_,fun name => ⟨mem_build_names schemas name,fun absent => ?_⟩⟩
  · have from_a := dependencies_count interned a b field nesting
    have from_b := dependents_count interned a b field nesting
    rw [build_holdings,holdings_count] at from_a from_b
    exact ⟨from_a.trans from_b.symm,from_a⟩
  · have edges := congrArg List.length (build_holdings schemas)
    rw [holdings,List.length_map] at edges
    rw [edgeCount,edges,List.length_flatMap,List.length_flatMap]
    simp only [BoundSchema.holdings,List.length_map]
  · rw [nodeCount,← List.toFinset_card_of_nodup interned.once]
    congr 1
    ext name
    rw [List.mem_toFinset,List.mem_toFinset,mem_build_names]
  · exact ⟨neighbors_none interned absent _ _,neighbors_none interned absent _ _⟩

end NestingGraph

end DomainSchema
