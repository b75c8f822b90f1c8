import DomainSchema.Drift.Report
import DomainSchema.Proofs.Descents
import DomainSchema.Proofs.FileActions
import DomainSchema.Proofs.Sorting
import Mathlib.Data.String.Basic

namespace DomainSchema.Drift

structure Tells (t : FileTree) (directory : String) (u : GeneratedUnit) (e : Entry) : Prop where
  file : e.file = Path.join directory u.fileName
  current : e.status = .upToDate ↔ t.read (Path.join directory u.fileName) = .ok u.code
  absent : e.status = .missing ↔ t.contains (Path.join directory u.fileName) = false
  claimed : e.status ≠ .orphaned

-- A generated file stands directly in the directory, none of the units is for it, and its path is not too long for
-- the system.
structure LeftOver (t : FileTree) (directory : String) (units : List GeneratedUnit) (name : String) : Prop where
  present : t.HasFile directory name
  short : (Path.join directory name).utf8ByteSize < 4096
  generated : name.endsWith generatedEnding = true
  unclaimed : name ∉ units.map (·.fileName)

def orphaned (directory name : String) : Entry := ⟨Path.join directory name,.orphaned⟩

section
variable {t : FileTree} {directory name : String} {units : List GeneratedUnit} {u : GeneratedUnit}

theorem contains_of_read {path text : String} (found : t.read path = .ok text) : t.contains path = true := by
  unfold FileTree.contains
  rw [FileTree.read_ok.mp found]
  rfl

theorem unitStatus_read {text : String} (found : t.read (Path.join directory u.fileName) = .ok text) :
    unitStatus t directory u = .ok (compare text u.code u.fileName) := by
  unfold unitStatus
  dsimp only
  rw [if_pos (contains_of_read found),found]
  rfl

theorem unitStatus_current (found : t.read (Path.join directory u.fileName) = .ok u.code) :
    unitStatus t directory u = .ok .upToDate := by
  rw [unitStatus_read found,compare,if_pos rfl]

theorem compare_cases (onDisk regenerated name : String) :
    onDisk = regenerated ∧ compare onDisk regenerated name = .upToDate ∨
      onDisk ≠ regenerated ∧ ∃ added removed edited diff, compare onDisk regenerated name = .stale added removed edited diff := by
  unfold compare
  split
  · rename_i same
    exact .inl ⟨same,rfl⟩
  · rename_i differ
    exact .inr ⟨differ,_,_,_,_,rfl⟩

theorem unitStatus_tells {status : Status} (answered : unitStatus t directory u = .ok status) :
    Tells t directory u ⟨Path.join directory u.fileName,status⟩ := by
  unfold unitStatus at answered
  dsimp only at answered
  split at answered
  · rename_i there
    obtain ⟨onDisk,found,made⟩ := bind_ok.mp answered
    have compared : compare onDisk u.code u.fileName = status := Except.ok.inj made
    rcases compare_cases onDisk u.code u.fileName with ⟨same,current⟩ | ⟨differ,added,removed,edited,diff,stale⟩
    · rw [current] at compared
      subst compared
      exact ⟨rfl,by simp [found,same],by simp [there],nofun⟩
    · rw [stale] at compared
      subst compared
      exact ⟨rfl,by simp [found,differ],by simp [there],nofun⟩
  · rename_i gone
    have missing : Status.missing = status := Except.ok.inj answered
    subst missing
    refine ⟨rfl,⟨nofun,fun found => absurd (contains_of_read found) gone⟩,?_,nofun⟩
    simpa using gone

theorem generated_iff : name.endsWith generatedEnding = true ↔ generatedEnding.toList <:+ name.toList := by
  rw [String.endsWith_eq_endsWith_toSlice,String.Slice.endsWith_string_iff,String.copy_toSlice]

-- A name with this ending stands for itself, so it is enough that it has no slash.
theorem isName_of_generated (single : '/' ∉ name.toList) (generated : name.endsWith generatedEnding = true) :
    Path.IsName name := by
  have long := (generated_iff.mp generated).length_le
  refine ⟨single,?_,?_,?_⟩
  all_goals
    rintro rfl
    exact absurd long (by decide)

theorem mem_orphans (sound : t.Sound) (inside : t.isDirectory directory = true) :
    name ∈ orphans t directory units ↔ LeftOver t directory units name := by
  obtain ⟨place,found,here⟩ := FileTree.node_ok.mp (FileTree.isDirectory_iff.mp inside)
  have present : t.HasFile directory name ↔ ∃ text, t.node? (place ++ [name]) = some (.file text) := by
    constructor
    · rintro ⟨there,text,arrives,-,file⟩
      rw [found] at arrives
      cases arrives
      exact ⟨text,file⟩
    · exact fun ⟨text,file⟩ => ⟨place,text,found,here,file⟩
  unfold orphans
  rw [found]
  dsimp only
  rw [List.mem_mergeSort,List.mem_filter,sound.mem_filesIn,← present]
  simp only [Bool.and_eq_true,Bool.not_eq_true',List.contains_eq_mem,decide_eq_false_iff_not]
  constructor
  · rintro ⟨there,⟨seen,generated⟩,unclaimed⟩
    exact ⟨there,(sound.seen_iff there).mp seen,generated,unclaimed⟩
  · rintro ⟨there,short,generated,unclaimed⟩
    exact ⟨there,⟨(sound.seen_iff there).mpr short,generated⟩,unclaimed⟩

theorem orphans_ascend (sound : t.Sound) : (orphans t directory units).Pairwise (· < ·) := by
  unfold orphans
  split
  · exact mergeSort_ascends Function.injective_id (by simp) ((FileTree.filesIn_once sound _).filter _)
  · exact .nil

theorem unitEntry_ok {e : Entry} : unitEntry t directory u = .ok e ↔
    e.file = Path.join directory u.fileName ∧ unitStatus t directory u = .ok e.status := by
  refine bind_ok.trans ⟨?_,?_⟩
  · rintro ⟨status,answered,made⟩
    cases made
    exact ⟨rfl,answered⟩
  · rintro ⟨file,answered⟩
    exact ⟨_,answered,by rw [← file]; rfl⟩

theorem mem_leftovers (sound : t.Sound) : name ∈ leftovers t directory units ↔ LeftOver t directory units name := by
  unfold leftovers
  split
  · rename_i inside
    exact mem_orphans sound inside
  · rename_i outside
    simp only [List.not_mem_nil,false_iff]
    rintro ⟨⟨place,text,found,here,-⟩,-⟩
    exact outside (FileTree.isDirectory_iff.mpr (FileTree.node_ok.mpr ⟨place,found,here⟩))

theorem leftovers_ascend (sound : t.Sound) : (leftovers t directory units).Pairwise (· < ·) := by
  unfold leftovers
  split
  · exact orphans_ascend sound
  · exact .nil

theorem verify_parts {r : Report} (verified : verify t units directory = .ok r) :
    ∃ current, r.entries = current ++ (leftovers t directory units).map (orphaned directory) ∧
      List.Forall₂ (Tells t directory) units current := by
  obtain ⟨current,entries,made⟩ := bind_ok.mp verified
  cases made
  refine ⟨current,rfl,(mapM_ok_iff.mp entries).imp fun u e made => ?_⟩
  obtain ⟨file,status⟩ := unitEntry_ok.mp made
  have tells := unitStatus_tells status
  rwa [← file] at tells

theorem verify_current (current : ∀ u ∈ units, t.read (Path.join directory u.fileName) = .ok u.code) :
    verify t units directory = .ok ⟨units.map (fun u => ⟨Path.join directory u.fileName,.upToDate⟩) ++
      (leftovers t directory units).map (orphaned directory)⟩ := by
  have entries : units.mapM (unitEntry t directory) = .ok (units.map fun u => ⟨Path.join directory u.fileName,.upToDate⟩) := by
    refine mapM_ok_iff.mpr (List.forall₂_map_right_iff.mpr (List.forall₂_same.mpr fun u member => ?_))
    exact unitEntry_ok.mpr ⟨rfl,unitStatus_current (current u member)⟩
  rw [verify,entries]
  rfl

theorem hasDrift_iff {r : Report} : r.hasDrift = false ↔ ∀ e ∈ r.entries, e.status = .upToDate := by
  simp [Report.hasDrift,Entry.drifted]

theorem hasDrift_leftovers {left : List String} :
    Report.hasDrift ⟨units.map (fun u => ⟨Path.join directory u.fileName,.upToDate⟩) ++ left.map (orphaned directory)⟩ = true ↔
      ∃ name, name ∈ left := by
  simp only [Report.hasDrift,List.any_append,List.any_map,Bool.or_eq_true,List.any_eq_true]
  constructor
  · rintro (⟨u,-,drifted⟩ | ⟨name,member,-⟩)
    · cases drifted
    · exact ⟨name,member⟩
  · rintro ⟨name,member⟩
    exact .inr ⟨name,member,rfl⟩

theorem told_current {current : List Entry} (told : List.Forall₂ (Tells t directory) units current) :
    (∀ e ∈ current, e.status = .upToDate) ↔ ∀ u ∈ units, t.read (Path.join directory u.fileName) = .ok u.code := by
  induction told with
  | nil => simp
  | cons tells _ ih => rw [List.forall_mem_cons,List.forall_mem_cons,tells.current,ih]

theorem clean_iff {r : Report} (sound : t.Sound) (verified : verify t units directory = .ok r) :
    r.hasDrift = false ↔ (∀ u ∈ units, t.read (Path.join directory u.fileName) = .ok u.code) ∧
      ∀ name, t.HasFile directory name → (Path.join directory name).utf8ByteSize < 4096 →
        name.endsWith generatedEnding = true → name ∈ units.map (·.fileName) := by
  obtain ⟨current,parts,told⟩ := verify_parts verified
  rw [hasDrift_iff,parts,List.forall_mem_append,told_current told]
  refine and_congr_right fun _ => ⟨?_,?_⟩
  · intro upToDate name present short generated
    by_contra unclaimed
    have listed := (mem_leftovers sound).mpr ⟨present,short,generated,unclaimed⟩
    have status := upToDate (orphaned directory name) (List.mem_map_of_mem listed)
    cases status
  · intro covered e member
    obtain ⟨name,listed,-⟩ := List.mem_map.mp member
    have extra := (mem_leftovers sound).mp listed
    exact absurd (covered name extra.present extra.short extra.generated) extra.unclaimed

theorem writeUnit_same (current : t.read (Path.join directory u.fileName) = .ok u.code) :
    t.SameFiles ((writeUnit directory u).run t).2 := by
  unfold writeUnit
  refine FileAction.bind_same ?_ fun _ t1 _ _ => .refl t1
  rcases FileAction.write_cases (Path.join directory u.fileName) u.code t with ⟨e,failed⟩ | ⟨place,leads,allowed,ran⟩
  · rw [failed]
    exact .refl t
  · obtain ⟨here,found,file⟩ := FileTree.node_ok.mp (FileTree.read_ok.mp current)
    rw [ran,leads.file found file]
    exact FileTree.set_file_same file

theorem mapM_same (current : ∀ u ∈ units, t.read (Path.join directory u.fileName) = .ok u.code) :
    t.SameFiles ((units.mapM (writeUnit directory)).run t).2 := by
  induction units generalizing t with
  | nil => exact .refl t
  | cons u rest ih =>
    rw [List.mapM_cons]
    refine FileAction.bind_same (writeUnit_same (current u (by simp))) ?_
    intro file t1 _ same
    have others := ih fun other member => same.read (current other (List.mem_cons_of_mem _ member))
    exact FileAction.bind_same others fun _ t2 _ _ => .refl t2

theorem writeUnits_same (current : ∀ u ∈ units, t.read (Path.join directory u.fileName) = .ok u.code) :
    t.SameFiles ((writeUnits units directory).run t).2 := by
  have made := FileAction.makeDirectories_same directory t
  refine FileAction.bind_same made fun _ t1 _ same => ?_
  exact mapM_same fun u member => same.read (current u member)

theorem result_of_clean {r : Report} (clean : r.hasDrift = false) : r.result = .ok r := by
  have first : r.firstDrifted? = none := by
    unfold Report.firstDrifted?
    rw [Option.map_eq_none_iff,List.find?_eq_none]
    intro e member
    simp [Entry.drifted,hasDrift_iff.mp clean e member]
  unfold Report.result
  rw [first]

theorem result_of_drift {r : Report} (drift : r.hasDrift = true) :
    ∃ before e after, r.entries = before ++ e :: after ∧ (∀ earlier ∈ before, earlier.status = .upToDate) ∧
      e.status ≠ .upToDate ∧ r.result = .error (outOfDate e.file) := by
  obtain ⟨entry,member,drifted⟩ := List.any_eq_true.mp drift
  cases first : r.entries.find? Entry.drifted with
  | none => exact absurd drifted (List.find?_eq_none.mp first entry member)
  | some e =>
    obtain ⟨stale,before,after,split,clean⟩ := List.find?_eq_some_iff_append.mp first
    refine ⟨before,e,after,split,?_,by simpa [Entry.drifted] using stale,?_⟩
    · intro earlier inside
      simpa [Entry.drifted] using clean earlier inside
    · simp [Report.result,Report.firstDrifted?,first]

end

-- There is no drift exactly where every unit stands in the directory as generated, with no generated file beside them but
-- those whose path is too long for the system, and then writing changes no file. A report has an entry for every unit, in
-- their order, and one for each file left over, by name. With drift it is an error that names the first one not up to date.
theorem drift_exact (t : FileTree) (units : List GeneratedUnit) (directory : String) (sound : t.Sound) :
    ((∃ r, verify t units directory = .ok r ∧ r.hasDrift = false) ↔
      (∀ u ∈ units, t.read (Path.join directory u.fileName) = .ok u.code) ∧
        ∀ name, t.HasFile directory name → (Path.join directory name).utf8ByteSize < 4096 →
          name.endsWith ".domain.rs" = true → name ∈ units.map (·.fileName)) ∧
    ∀ r, verify t units directory = .ok r →
      (∃ (current : List Entry) (left : List String), r.entries = current ++ left.map (orphaned directory) ∧
        List.Forall₂ (Tells t directory) units current ∧
        left.Pairwise (· < ·) ∧ ∀ name, name ∈ left ↔ LeftOver t directory units name) ∧
      (r.hasDrift = false → r.result = .ok r ∧ t.SameFiles ((writeUnits units directory).run t).2) ∧
      (r.hasDrift = true → ∃ before e after, r.entries = before ++ e :: after ∧
        (∀ earlier ∈ before, earlier.status = .upToDate) ∧ e.status ≠ .upToDate ∧
        r.result = .error (outOfDate e.file)) := by
  refine ⟨⟨?_,?_⟩,fun r verified => ⟨?_,fun clean => ?_,result_of_drift⟩⟩
  · rintro ⟨r,verified,clean⟩
    exact (clean_iff sound verified).mp clean
  · rintro ⟨written,covered⟩
    have verified := verify_current written
    exact ⟨_,verified,(clean_iff sound verified).mpr ⟨written,covered⟩⟩
  · obtain ⟨current,parts,told⟩ := verify_parts verified
    exact ⟨current,_,parts,told,leftovers_ascend sound,fun name => mem_leftovers sound⟩
  · exact ⟨result_of_clean clean,writeUnits_same ((clean_iff sound verified).mp clean).1⟩

-- The unit is as generated, but the file of a module that is gone stands beside it.
theorem gone_noticed :
    let t : FileTree := ⟨[],[(["out"],.directory),(["out","crate.domain.rs"],.file "// new\n"),
      (["out","gone.domain.rs"],.file "// old\n")]⟩
    let u : GeneratedUnit := ⟨none,"crate.domain.rs","// new\n",["Price"]⟩
    t.Sound ∧ t.read "out/crate.domain.rs" = .ok u.code ∧ ¬ ∃ r, verify t [u] "out" = .ok r ∧ r.hasDrift = false := by
  intro t u
  have sound : t.Sound := ⟨by decide,by decide,by decide,by decide⟩
  refine ⟨sound,by decide,fun clean => ?_⟩
  obtain ⟨-,covered⟩ := (drift_exact t [u] "out" sound).1.mp clean
  have present : t.HasFile "out" "gone.domain.rs" := ⟨["out"],"// old\n",by decide,by decide,by decide⟩
  have unclaimed : "gone.domain.rs" ∉ [u].map (·.fileName) := by decide
  exact unclaimed (covered "gone.domain.rs" present (by decide) (generated_iff.mpr (by decide)))

-- The path of the directory is just short enough for the system, and that of the file in it is too long to be looked at.
theorem leftover_passed_over : ¬ ∀ (t : FileTree) (units : List GeneratedUnit) (directory : String), t.Sound →
    ((∃ r, verify t units directory = .ok r ∧ r.hasDrift = false) ↔
      (∀ u ∈ units, t.read (Path.join directory u.fileName) = .ok u.code) ∧
        ∀ name, t.HasFile directory name → name.endsWith ".domain.rs" = true → name ∈ units.map (·.fileName)) := by
  intro claimed
  let t : FileTree := ⟨[],[(["d"],.directory),(["d","old.domain.rs"],.file "")]⟩
  have sound : t.Sound := ⟨by decide,by decide,by decide,by decide⟩
  have directory : Path.IsFileName "d" := ⟨⟨by decide,by decide,by decide,by decide⟩,by decide,by decide⟩
  have there := FileTree.find_roundabout t directory (show 2 * 2045 + "d".utf8ByteSize < 4096 by decide)
  have present : t.HasFile (Path.roundabout "d" 2045) "old.domain.rs" := ⟨["d"],"",there,by decide,by decide⟩
  have only (name : String) (other : t.HasFile (Path.roundabout "d" 2045) name) : name = "old.domain.rs" := by
    obtain ⟨place,text,found,-,file⟩ := other
    rw [there] at found
    cases found
    have member : (["d"] ++ [name],Node.file text) ∈ t.nodes := FileTree.file_listed file
    have same : name = "old.domain.rs" ∧ text = "" := by simpa [t] using member
    exact same.1
  have size := Path.size_roundabout directory (show Path.IsName "old.domain.rs" from ⟨by decide,by decide,by decide,by decide⟩) 2045
  rw [show "d".utf8ByteSize = 1 by decide,show "old.domain.rs".utf8ByteSize = 13 by decide] at size
  have verified := @verify_current t (Path.roundabout "d" 2045) [] nofun
  have clean := (clean_iff sound verified).mpr ⟨nofun,fun name other short => by
    rw [only name other] at short
    omega⟩
  have covered := ((claimed t [] (Path.roundabout "d" 2045) sound).mp ⟨_,verified,clean⟩).2
  exact List.not_mem_nil (covered _ present (generated_iff.mpr (by decide)))

end DomainSchema.Drift
