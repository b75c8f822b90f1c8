import DomainSchema.Proofs.Nesting
import DomainSchema.Proofs.Sorting
import Mathlib.Data.List.TakeWhile
import Mathlib.Data.Prod.Lex
import Mathlib.Data.String.Basic

namespace DomainSchema

-- A drawing tells all of its graph, and nothing of the order in which the graph was built.

namespace NestingGraph

structure Arc where
  source : String
  target : String
  field : String
  many : Bool
deriving DecidableEq, Repr

def arcs (g : NestingGraph) : List Arc :=
  g.holdings.map fun h => ⟨h.holder,h.held,h.field,h.nesting == .list⟩

def Arc.arrow (a : Arc) : Arrow := ⟨a.source,a.target,if a.many then a.field ++ " [list]" else a.field⟩

-- A label with a space is the one of a list.
def Arrow.arc (a : Arrow) : Arc :=
  ⟨a.source,a.target,String.ofList (a.label.toList.takeWhile (· != ' ')),a.label.toList.contains ' '⟩

theorem arrows_of_arcs (g : NestingGraph) : g.arrows = g.arcs.map Arc.arrow := by
  rw [arcs,holdings,List.map_map,List.map_map]
  rfl

theorem Arc.arrow_arc {a : Arc} (free : ' ' ∉ a.field.toList) : a.arrow.arc = a := by
  have whole : a.field.toList.takeWhile (· != ' ') = a.field.toList := by
    rw [List.takeWhile_eq_self_iff]
    intro c member
    have apart : c ≠ ' ' := fun same => free (same ▸ member)
    simpa using apart
  obtain ⟨source,target,field,many⟩ := a
  cases many with
  | false => simp [arrow,Arrow.arc,whole,free]
  | true =>
    have kept : ∀ c ∈ field.toList, (c != ' ') = true := List.takeWhile_eq_self_iff.mp whole
    simp [arrow,Arrow.arc,List.takeWhile_append_of_pos kept]

def Arrow.key (a : Arrow) : String ×ₗ String ×ₗ String := toLex (a.source,toLex (a.target,a.label))

theorem Arrow.key_injective : Function.Injective Arrow.key := by
  rintro ⟨source,target,label⟩ ⟨source',target',label'⟩ same
  cases same
  rfl

theorem Arrow.le_iff (a b : Arrow) : a.le b = true ↔ a.key ≤ b.key := by
  simp only [Arrow.le,Arrow.key,Prod.Lex.toLex_le_toLex,Bool.or_eq_true,Bool.and_eq_true,decide_eq_true_eq,beq_iff_eq]

-- A line is indented, and what it was made from can be read off the front of a text.
structure Readable (line : α → String) (Good : α → Prop) : Prop where
  indented : ∀ a rest, (line a ++ rest).toList.head? = some ' '
  reads : ∀ a b rest rest', Good a → Good b → line a ++ rest = line b ++ rest' → a = b ∧ rest = rest'

theorem Readable.lines {line : α → String} {Good : α → Prop} (readable : Readable line Good) {last last' : String}
    {items items' : List α} (stops : last.toList.head? ≠ some ' ') (stops' : last'.toList.head? ≠ some ' ')
    (good : ∀ a ∈ items, Good a) (good' : ∀ a ∈ items', Good a)
    (same : items.foldr (fun a rest => line a ++ rest) last = items'.foldr (fun a rest => line a ++ rest) last') :
    items = items' ∧ last = last' := by
  induction items generalizing items' with
  | nil =>
    cases items' with
    | nil => exact ⟨rfl,same⟩
    | cons b more =>
      rw [List.foldr_nil,List.foldr_cons] at same
      exact absurd (same ▸ readable.indented b _) stops
  | cons a more ih =>
    cases items' with
    | nil =>
      rw [List.foldr_nil,List.foldr_cons] at same
      exact absurd (same ▸ readable.indented a _) stops'
    | cons b more' =>
      rw [List.forall_mem_cons] at good good'
      obtain ⟨rfl,rests⟩ := readable.reads a b _ _ good.1 good'.1 same
      obtain ⟨rfl,lasts⟩ := ih good.2 good'.2 rests
      exact ⟨rfl,lasts⟩

def Unquoted (text : String) : Prop := '"' ∉ text.toList

instance (text : String) : Decidable (Unquoted text) := inferInstanceAs (Decidable ('"' ∉ text.toList))

theorem inQuotes_reads {text text' rest rest' : String} (free : Unquoted text) (free' : Unquoted text')
    (same : inQuotes text ++ rest = inQuotes text' ++ rest') : text = text' ∧ rest = rest' := by
  have chars := congrArg String.toList same
  simp only [inQuotes,String.toList_append,List.append_assoc] at chars
  obtain ⟨texts,rests⟩ := before_mark free free' (List.cons.inj chars).2
  exact ⟨String.toList_inj.mp texts,String.toList_inj.mp rests⟩

theorem nodeLine_readable : Readable nodeLine Unquoted where
  indented := by simp [nodeLine]
  reads a b rest rest' free free' same := by
    simp only [nodeLine,String.append_assoc,String.append_right_inj] at same
    obtain ⟨rfl,rests⟩ := inQuotes_reads free free' same
    simp only [String.append_right_inj] at rests
    exact ⟨rfl,rests⟩

structure Arrow.Plain (a : Arrow) : Prop where
  source : Unquoted a.source
  target : Unquoted a.target
  label : Unquoted a.label

theorem arrowLine_readable : Readable arrowLine Arrow.Plain where
  indented := by simp [arrowLine]
  reads := by
    rintro ⟨source,target,label⟩ ⟨source',target',label'⟩ rest rest' plain plain' same
    simp only [arrowLine,String.append_assoc,String.append_right_inj] at same
    obtain ⟨rfl,same⟩ := inQuotes_reads plain.source plain'.source same
    simp only [String.append_right_inj] at same
    obtain ⟨rfl,same⟩ := inQuotes_reads plain.target plain'.target same
    simp only [String.append_right_inj] at same
    obtain ⟨rfl,same⟩ := inQuotes_reads plain.label plain'.label same
    simp only [String.append_right_inj] at same
    exact ⟨rfl,same⟩

-- A drawing can be read where names have no quotes, and names of fields no spaces either.
structure Legible (g : NestingGraph) : Prop where
  names : ∀ name ∈ g.names, Unquoted name
  ends : ∀ a ∈ g.arcs, Unquoted a.source ∧ Unquoted a.target
  fields : ∀ a ∈ g.arcs, Unquoted a.field ∧ ' ' ∉ a.field.toList

section
variable {g g' : NestingGraph}

theorem Legible.arrows (legible : g.Legible) : ∀ a ∈ g.arcs.map Arc.arrow, a.Plain := by
  intro a member
  obtain ⟨⟨source,target,field,many⟩,known,rfl⟩ := List.mem_map.mp member
  obtain ⟨source_free,target_free⟩ := legible.ends _ known
  have field_free : Unquoted field := (legible.fields _ known).1
  refine ⟨source_free,target_free,?_⟩
  cases many with
  | false => exact field_free
  | true =>
    simp only [Arc.arrow,Unquoted,if_true,String.toList_append,List.mem_append,not_or]
    exact ⟨field_free,by decide⟩

theorem arcs_perm (legible : g.Legible) (legible' : g'.Legible) (arrows : (g.arcs.map Arc.arrow).Perm (g'.arcs.map Arc.arrow)) :
    g.arcs.Perm g'.arcs := by
  have back : ∀ {g : NestingGraph}, g.Legible → (g.arcs.map Arc.arrow).map Arrow.arc = g.arcs := by
    intro g legible
    have each : ∀ a ∈ g.arcs, (Arrow.arc ∘ Arc.arrow) a = a := fun a member => Arc.arrow_arc (legible.fields a member).2
    rw [List.map_map,List.map_congr_left each,List.map_id']
  have arcs := arrows.map Arrow.arc
  rwa [back legible,back legible'] at arcs

theorem names_sorted_iff (names names' : List String) :
    names.mergeSort (· ≤ ·) = names'.mergeSort (· ≤ ·) ↔ names.Perm names' :=
  mergeSort_eq_iff Function.injective_id (by simp)

theorem Interned.keys (interned : g.Interned) : g.places.map Prod.fst = g.names := by
  rw [interned.placed,List.zipIdx_map_fst]

theorem drawing_perm {names names' : List String} {arrows arrows' : List Arrow} (perm : names.Perm names')
    (perm' : arrows.Perm arrows') : drawing names arrows = drawing names' arrows' := by
  have sorted := (names_sorted_iff _ _).mpr perm
  have drawn := (mergeSort_eq_iff Arrow.key_injective Arrow.le_iff).mpr perm'
  rw [drawing,drawing,sorted,drawn]

theorem dot_congr (interned : g.Interned) (interned' : g'.Interned) (names : g.names.Perm g'.names) (arcs : g.arcs.Perm g'.arcs) :
    g.dot = g'.dot := by
  rw [dot,dot,interned.keys,interned'.keys,arrows_of_arcs,arrows_of_arcs]
  exact drawing_perm names (arcs.map Arc.arrow)

theorem dot_injective (interned : g.Interned) (interned' : g'.Interned) (legible : g.Legible) (legible' : g'.Legible)
    (same : g.dot = g'.dot) : g.names.Perm g'.names ∧ g.arcs.Perm g'.arcs := by
  simp only [dot,drawing,interned.keys,interned'.keys,arrows_of_arcs,String.append_right_inj] at same
  obtain ⟨names,rests⟩ := nodeLine_readable.lines (by simp) (by simp)
    (fun name member => legible.names name (List.mem_mergeSort.mp member))
    (fun name member => legible'.names name (List.mem_mergeSort.mp member)) same
  rw [String.append_right_inj] at rests
  obtain ⟨arrows,-⟩ := arrowLine_readable.lines (by simp) (by simp)
    (fun a member => legible.arrows a (List.mem_mergeSort.mp member))
    (fun a member => legible'.arrows a (List.mem_mergeSort.mp member)) rests
  have drawn := (mergeSort_eq_iff Arrow.key_injective Arrow.le_iff).mp arrows
  exact ⟨(names_sorted_iff _ _).mp names,arcs_perm legible legible' drawn⟩

end

section
variable {schemas schemas' : List BoundSchema}

theorem build_arcs (schemas : List BoundSchema) : (build schemas).arcs =
    schemas.flatMap fun b => b.schema.nestedFields.map fun f => ⟨b.schema.name,f.nestedType.path,f.name,f.nesting == .list⟩ := by
  rw [arcs,build_holdings,List.map_flatMap]
  simp only [BoundSchema.holdings,List.map_map]
  rfl

structure Drawable (b : BoundSchema) : Prop where
  name : Unquoted b.schema.name
  types : ∀ f ∈ b.schema.nestedFields, Unquoted f.nestedType.path
  fields : ∀ f ∈ b.schema.nestedFields, Unquoted f.name ∧ ' ' ∉ f.name.toList

theorem legible_of_drawable (drawable : ∀ b ∈ schemas, Drawable b) : (build schemas).Legible where
  names name member := by
    obtain ⟨b,known,named⟩ := List.mem_flatMap.mp ((mem_build_names schemas name).mp member)
    rcases List.mem_cons.mp named with rfl | held
    · exact (drawable b known).name
    · obtain ⟨f,nested,rfl⟩ := List.mem_map.mp held
      exact (drawable b known).types f nested
  ends a member := by
    rw [build_arcs,List.mem_flatMap] at member
    obtain ⟨b,known,drawn⟩ := member
    obtain ⟨f,nested,rfl⟩ := List.mem_map.mp drawn
    exact ⟨(drawable b known).name,(drawable b known).types f nested⟩
  fields a member := by
    rw [build_arcs,List.mem_flatMap] at member
    obtain ⟨b,known,drawn⟩ := member
    obtain ⟨f,nested,rfl⟩ := List.mem_map.mp drawn
    exact (drawable b known).fields f nested

def Reordered (schemas schemas' : List BoundSchema) : Prop :=
  ∃ between, schemas.Perm between ∧
    List.Forall₂ (fun b b' => b.schema.name = b'.schema.name ∧ b.schema.fields.Perm b'.schema.fields) between schemas'

theorem Reordered.perm {α : Type} (reordered : Reordered schemas schemas') (taken : String → List Field → List α)
    (blind : ∀ name fields fields', fields.Perm fields' → (taken name fields).Perm (taken name fields')) :
    (schemas.flatMap fun b => taken b.schema.name b.schema.fields).Perm
      (schemas'.flatMap fun b => taken b.schema.name b.schema.fields) := by
  obtain ⟨between,perm,fields⟩ := reordered
  refine (perm.flatMap_right _).trans ?_
  clear perm
  induction fields with
  | nil => exact .refl _
  | @cons b b' rest rest' same _ ih =>
    rw [List.flatMap_cons,List.flatMap_cons,same.1]
    exact (blind _ _ _ same.2).append ih

theorem Reordered.dot_eq (reordered : Reordered schemas schemas') : (build schemas).dot = (build schemas').dot := by
  have named : (namedIn schemas).Perm (namedIn schemas') :=
    reordered.perm (fun name fields => name :: (fields.filter Field.isNested).map fun f : Field => f.nestedType.path)
      fun _ _ _ perm => ((perm.filter _).map _).cons _
  have names : (build schemas).names.Perm (build schemas').names := by
    rw [List.perm_ext_iff_of_nodup (build_interned _).once (build_interned _).once]
    intro name
    rw [mem_build_names,mem_build_names]
    exact named.mem_iff
  have arcs : (build schemas).arcs.Perm (build schemas').arcs := by
    rw [build_arcs,build_arcs]
    exact reordered.perm
      (fun name fields => (fields.filter Field.isNested).map fun f =>
        (⟨name,f.nestedType.path,f.name,f.nesting == .list⟩ : Arc))
      fun _ _ _ perm => (perm.filter _).map _
  exact dot_congr (build_interned _) (build_interned _) names arcs

end

-- Drawings are equal exactly if the nodes have the same names and the same edges are drawn, each as often. Neither the order of
-- the schemas nor that of their fields shows, whatever the names are, nor the order in which a graph lists its nodes and edges.
theorem dot_canonical :
    (∀ schemas schemas' : List BoundSchema, (∀ b ∈ schemas, Drawable b) → (∀ b ∈ schemas', Drawable b) →
      ((build schemas).dot = (build schemas').dot ↔
        (∀ name, name ∈ (build schemas).names ↔ name ∈ (build schemas').names) ∧
          (build schemas).arcs.Perm (build schemas').arcs)) ∧
    (∀ schemas schemas' : List BoundSchema, Reordered schemas schemas' → (build schemas).dot = (build schemas').dot) ∧
    ∀ (g : NestingGraph) (names : List String) (arrows : List Arrow), names.Perm (g.places.map Prod.fst) →
      arrows.Perm g.arrows → drawing names arrows = g.dot := by
  refine ⟨fun schemas schemas' drawable drawable' => ?_,fun schemas schemas' reordered => reordered.dot_eq,
    fun g names arrows perm perm' => drawing_perm perm perm'⟩
  have interned := build_interned schemas
  have interned' := build_interned schemas'
  have same_names : (build schemas).names.Perm (build schemas').names ↔
      ∀ name, name ∈ (build schemas).names ↔ name ∈ (build schemas').names :=
    List.perm_ext_iff_of_nodup interned.once interned'.once
  rw [← same_names]
  constructor
  · exact dot_injective interned interned' (legible_of_drawable drawable) (legible_of_drawable drawable')
  · rintro ⟨names,arcs⟩
    exact dot_congr interned interned' names arcs

-- A tree holds two kinds of trees and an owner, which is no schema.
def tree : Schema where
  name := "crate::Tree"
  ident := "Tree"
  modulePath := none
  generics := []
  visibility := .hidden
  fields := [⟨"first",⟨"crate::Tree",[]⟩,.single,some "first",.settable⟩,
    ⟨"others",⟨"Vec",[⟨"crate::Tree",[]⟩]⟩,.list,none,.settable⟩,⟨"owner",⟨"people::Owner",[]⟩,.single,none,.once⟩]
  rules := []

def hedge : Schema := { tree with fields := tree.fields.map fun f => if f.name = "first" then { f with nesting := .list } else f }

theorem tree_drawn :
    (∀ b ∈ [BoundSchema.ofSchema tree], Drawable b) ∧ (∀ b ∈ [BoundSchema.ofSchema hedge], Drawable b) ∧
    (build [.ofSchema tree]).dot ≠ (build [.ofSchema hedge]).dot ∧
    Reordered [.ofSchema tree] [.ofSchema { tree with fields := tree.fields.reverse }] ∧
    (build [.ofSchema tree]).dot = (build [.ofSchema { tree with fields := tree.fields.reverse }]).dot ∧
    drawing ["people::Owner","crate::Tree"] (build [.ofSchema tree]).arrows.reverse = (build [.ofSchema tree]).dot := by
  have drawable : ∀ b ∈ [BoundSchema.ofSchema tree], Drawable b :=
    List.forall_mem_singleton.mpr ⟨by decide,by decide,by decide⟩
  have drawable' : ∀ b ∈ [BoundSchema.ofSchema hedge], Drawable b :=
    List.forall_mem_singleton.mpr ⟨by decide,by decide,by decide⟩
  have reordered : Reordered [.ofSchema tree] [.ofSchema { tree with fields := tree.fields.reverse }] :=
    ⟨_,.refl _,.cons ⟨rfl,(List.reverse_perm _).symm⟩ .nil⟩
  refine ⟨drawable,drawable',fun same => ?_,reordered,dot_canonical.2.1 _ _ reordered,
    dot_canonical.2.2 _ _ _ (by decide) (List.reverse_perm _)⟩
  have arcs := ((dot_canonical.1 _ _ drawable drawable').mp same).2
  rw [build_arcs,build_arcs] at arcs
  revert arcs
  decide

end NestingGraph

end DomainSchema
