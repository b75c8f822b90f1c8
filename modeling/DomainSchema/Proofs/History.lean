import DomainSchema.Proofs.Isolation
import DomainSchema.Proofs.UnitNames
import DomainSchema.Proofs.Verification

namespace DomainSchema

def generateAll (directory : String) : List (Declarations × Settings) → FileAction Unit
  | [] => pure ()
  | (g,settings) :: rest => do
    let _ ← Drift.writeUnits (compile g settings).units directory
    generateAll directory rest

def Declarations.Modular (g : Declarations) : Prop := ∀ d ∈ g.types, Emission.ModulePath d.modulePath

def fileNames (g : Declarations) (settings : Settings) : List String := (compile g settings).units.map (·.fileName)

section
variable {g : Declarations} {settings : Settings} {name : String}

theorem schema_path {b : BoundSchema} (modular : g.Modular) (made : b ∈ (analyze g settings).schemas) :
    Emission.ModulePath b.schema.modulePath := by
  obtain ⟨i,d,first,analyzed⟩ := mem_schemas.mp made
  have declared : d ∈ g.types := List.mem_of_mem_filter (List.mem_of_getElem? first.1)
  rw [((analyzed_concerns d _ settings).schema b analyzed).2]
  exact modular d declared

theorem fileNames_groups (g : Declarations) (settings : Settings) :
    fileNames g settings = ((groupByModule (analyze g settings).schemas).map (·.modulePath)).map Emission.unitFileName := by
  unfold fileNames compile generate
  rw [List.map_map,List.map_map]
  rfl

theorem mem_fileNames : name ∈ fileNames g settings ↔
    ∃ b ∈ (analyze g settings).schemas, Emission.unitFileName b.schema.home = name := by
  rw [fileNames_groups,List.mem_map]
  constructor
  · rintro ⟨m,grouped,named⟩
    obtain ⟨b,made,rfl⟩ := ((groupByModule_modules _).2 m).mp grouped
    exact ⟨b,made,named⟩
  · rintro ⟨b,made,named⟩
    exact ⟨_,((groupByModule_modules _).2 _).mpr ⟨b,made,rfl⟩,named⟩

theorem home_file (b : BoundSchema) : Emission.unitFileName b.schema.home = Emission.unitFileName b.schema.modulePath :=
  Emission.unitFileName_filter _

theorem same_file {g' : Declarations} {settings' : Settings} {b b' : BoundSchema} (modular : g.Modular) (modular' : g'.Modular)
    (made : b ∈ (analyze g settings).schemas) (made' : b' ∈ (analyze g' settings').schemas) :
    Emission.unitFileName b.schema.home = Emission.unitFileName b'.schema.home ↔ b.schema.home = b'.schema.home := by
  rw [home_file,home_file]
  exact Emission.unitFileName_inj (schema_path modular made) (schema_path modular' made')

theorem fileNames_distinct (modular : g.Modular) : (fileNames g settings).Nodup := by
  rw [fileNames_groups]
  obtain ⟨distinct,members⟩ := groupByModule_modules (analyze g settings).schemas
  refine List.Nodup.map_on ?_ distinct
  intro m grouped m' grouped' same
  obtain ⟨b,made,rfl⟩ := (members m).mp grouped
  obtain ⟨b',made',rfl⟩ := (members m').mp grouped'
  exact (same_file modular modular made made').mp same

theorem fileNames_generated (listed : name ∈ fileNames g settings) : name.endsWith Drift.generatedEnding = true := by
  obtain ⟨b,-,rfl⟩ := mem_fileNames.mp listed
  exact Drift.generated_iff.mpr (Emission.unitFileName_ends _)

theorem fileNames_named (modular : g.Modular) (listed : name ∈ fileNames g settings) : Path.IsName name := by
  refine Drift.isName_of_generated ?_ (fileNames_generated listed)
  obtain ⟨b,made,rfl⟩ := mem_fileNames.mp listed
  rw [home_file]
  exact Emission.unitFileName_unslashed (schema_path modular made)

end

-- What writing units into a directory leaves there: their code under their names, and the rest as it was.
structure Written (t t' : FileTree) (directory : String) (units : List GeneratedUnit) : Prop where
  inside : t'.isDirectory directory = true
  sound : t.Sound → t'.Sound
  texts : ∀ u ∈ units, t'.text? directory u.fileName = some u.code
  others : ∀ name, Path.IsName name → name ∉ units.map (·.fileName) → t'.text? directory name = t.text? directory name

section
variable {t t' : FileTree} {directory : String} {units : List GeneratedUnit} {files : List String}

theorem mapM_written (inside : t.isDirectory directory = true) (distinct : (units.map (·.fileName)).Nodup)
    (named : ∀ u ∈ units, Path.IsName u.fileName)
    (done : (units.mapM (Drift.writeUnit directory)).run t = (.ok files,t')) : Written t t' directory units := by
  induction units generalizing t files with
  | nil =>
    cases done
    exact ⟨inside,id,nofun,fun _ _ _ => rfl⟩
  | cons u rest ih =>
    rw [List.map_cons,List.nodup_cons] at distinct
    have own := named u (by simp)
    rw [List.mapM_cons] at done
    obtain ⟨file,t1,first,later⟩ := FileAction.run_bind_ok.mp done
    obtain ⟨_,t1',wrote,answer⟩ := FileAction.run_bind_ok.mp first
    obtain ⟨rests,t2,others,answers⟩ := FileAction.run_bind_ok.mp later
    cases answer
    cases answers
    obtain ⟨inside1,sound1,texts1⟩ := FileAction.write_done inside own wrote
    have written := ih inside1 distinct.2 (fun other member => named other (List.mem_cons_of_mem _ member)) others
    refine ⟨written.inside,fun sound => written.sound (sound1 sound),?_,?_⟩
    · intro other member
      rcases List.mem_cons.mp member with rfl | below
      · rw [written.others _ own distinct.1,texts1 _ own,if_pos rfl]
      · exact written.texts other below
    · intro name proper absent
      rw [List.map_cons,List.mem_cons,not_or] at absent
      rw [written.others name proper absent.2,texts1 name proper,if_neg absent.1]

theorem writeUnits_written (inside : t.isDirectory directory = true) (distinct : (units.map (·.fileName)).Nodup)
    (named : ∀ u ∈ units, Path.IsName u.fileName) (done : (Drift.writeUnits units directory).run t = (.ok files,t')) :
    Written t t' directory units := by
  have same := FileAction.makeDirectories_same directory t
  have sound := FileAction.makeDirectories_sound directory t
  obtain ⟨_,t1,made,wrote⟩ := FileAction.run_bind_ok.mp done
  rw [made] at same sound
  have written := mapM_written (same.isDirectory inside) distinct named wrote
  refine ⟨written.inside,fun before => written.sound (sound before),written.texts,?_⟩
  intro name proper absent
  rw [written.others name proper absent,same.texts inside proper]

theorem Written.present (written : Written t t' directory units) {name : String} (proper : Path.IsName name) :
    (t'.text? directory name).isSome = true ↔ (t.text? directory name).isSome = true ∨ name ∈ units.map (·.fileName) := by
  by_cases listed : name ∈ units.map (·.fileName)
  · obtain ⟨u,member,rfl⟩ := List.mem_map.mp listed
    simp [written.texts u member,listed]
  · simp [written.others name proper listed,listed]

theorem compile_written {g : Declarations} {settings : Settings} (modular : g.Modular)
    (inside : t.isDirectory directory = true)
    (done : (Drift.writeUnits (compile g settings).units directory).run t = (.ok files,t')) :
    Written t t' directory (compile g settings).units :=
  writeUnits_written inside (fileNames_distinct modular)
    (fun _ member => fileNames_named modular (List.mem_map_of_mem member)) done

theorem generateAll_append {earlier later : List (Declarations × Settings)}
    (done : (generateAll directory (earlier ++ later)).run t = (.ok (),t')) :
    ∃ t1, (generateAll directory earlier).run t = (.ok (),t1) ∧ (generateAll directory later).run t1 = (.ok (),t') := by
  induction earlier generalizing t with
  | nil => exact ⟨t,rfl,done⟩
  | cons run rest ih =>
    obtain ⟨files,t1,wrote,others⟩ := FileAction.run_bind_ok.mp done
    obtain ⟨t2,before,after⟩ := ih others
    exact ⟨t2,FileAction.run_bind_ok.mpr ⟨files,t1,wrote,before⟩,after⟩

theorem generateAll_files {runs : List (Declarations × Settings)} (modular : ∀ run ∈ runs, run.1.Modular)
    (inside : t.isDirectory directory = true) (done : (generateAll directory runs).run t = (.ok (),t')) :
    t'.isDirectory directory = true ∧ (t.Sound → t'.Sound) ∧ ∀ name, Path.IsName name →
      ((t'.text? directory name).isSome = true ↔
        (t.text? directory name).isSome = true ∨ ∃ run ∈ runs, name ∈ fileNames run.1 run.2) := by
  induction runs generalizing t with
  | nil =>
    cases done
    exact ⟨inside,id,fun name _ => by simp⟩
  | cons run rest ih =>
    obtain ⟨files,t1,wrote,others⟩ := FileAction.run_bind_ok.mp done
    have written := compile_written (modular run (by simp)) inside wrote
    obtain ⟨inside',sound',present'⟩ :=
      ih (fun other member => modular other (List.mem_cons_of_mem _ member)) written.inside others
    refine ⟨inside',fun sound => sound' (written.sound sound),fun name proper => ?_⟩
    rw [present' name proper,written.present proper,List.exists_mem_cons_iff,or_assoc]
    rfl

theorem mem_leftovers_last {t1 : FileTree} {earlier : List (Declarations × Settings)} {g : Declarations} {settings : Settings}
    (vacant : ∀ name, Path.IsName name → t.text? directory name = none)
    (modular : ∀ run ∈ earlier, run.1.Modular)
    (present : ∀ name, Path.IsName name → ((t1.text? directory name).isSome = true ↔
      (t.text? directory name).isSome = true ∨ ∃ run ∈ earlier, name ∈ fileNames run.1 run.2))
    (written : Written t1 t' directory (compile g settings).units) (sound : t'.Sound) (name : String) :
    name ∈ Drift.leftovers t' directory (compile g settings).units ↔
      (∃ run ∈ earlier, name ∈ fileNames run.1 run.2) ∧ name ∉ fileNames g settings := by
  rw [Drift.mem_leftovers sound]
  constructor
  · rintro ⟨there,short,-,unclaimed⟩
    have proper := (sound.hasFile_named there).toIsName
    obtain ⟨text,read⟩ := FileTree.isFile_iff.mp ((sound.seen_iff there).mpr short)
    have seen : (t'.text? directory name).isSome = true := by rw [FileTree.text_some.mpr read,Option.isSome_some]
    rcases (written.present proper).mp seen with old | new
    · rcases (present name proper).mp old with first | wrote
      · rw [vacant name proper] at first
        cases first
      · exact ⟨wrote,unclaimed⟩
    · exact absurd new unclaimed
  · rintro ⟨⟨run,member,listed⟩,unclaimed⟩
    have proper := fileNames_named (modular run member) listed
    have old := (present name proper).mpr (.inr ⟨run,member,listed⟩)
    obtain ⟨text,found⟩ := Option.isSome_iff_exists.mp ((written.present proper).mpr (.inl old))
    have read := FileTree.text_some.mp found
    have there := FileTree.hasFile_of_read written.inside proper read
    have short := (sound.seen_iff there).mp (FileTree.isFile_iff.mpr ⟨text,read⟩)
    exact ⟨there,short,fileNames_generated listed,unclaimed⟩

end

theorem lost_modules {g g' : Declarations} {settings settings' : Settings} (modular : g.Modular) (modular' : g'.Modular) :
    (∃ name, name ∈ fileNames g settings ∧ name ∉ fileNames g' settings') ↔
      ∃ b ∈ (analyze g settings).schemas, ∀ b' ∈ (analyze g' settings').schemas, b'.schema.home ≠ b.schema.home := by
  constructor
  · rintro ⟨name,listed,absent⟩
    obtain ⟨b,made,rfl⟩ := mem_fileNames.mp listed
    refine ⟨b,made,fun b' made' same => absent (mem_fileNames.mpr ⟨b',made',?_⟩)⟩
    rw [same]
  · rintro ⟨b,made,lost⟩
    refine ⟨_,mem_fileNames.mpr ⟨b,made,rfl⟩,fun listed => ?_⟩
    obtain ⟨b',made',same⟩ := mem_fileNames.mp listed
    exact lost b' made' ((same_file modular' modular made' made).mp same)

-- Generating and then comparing finds every file of the last generation as it should be, whatever was generated into the
-- directory before. What is left over are the files that an earlier generation wrote and the last one did not, so there is
-- drift exactly where a module that had schemas has none any more.
theorem verify_after_generations (t t' : FileTree) (directory : String) (earlier : List (Declarations × Settings))
    (g : Declarations) (settings : Settings) (sound : t.Sound) (inside : t.isDirectory directory = true)
    (vacant : ∀ name, Path.IsName name → t.text? directory name = none) (modular : ∀ run ∈ earlier ++ [(g,settings)], run.1.Modular)
    (done : (generateAll directory (earlier ++ [(g,settings)])).run t = (.ok (),t')) :
    ∃ (left : List String) (r : Drift.Report),
      Drift.verify t' (compile g settings).units directory = .ok r ∧
      r.entries = (compile g settings).units.map (fun u => ⟨Path.join directory u.fileName,.upToDate⟩) ++
        left.map (fun name => ⟨Path.join directory name,.orphaned⟩) ∧
      left.Pairwise (· < ·) ∧
      (∀ name, name ∈ left ↔ (∃ run ∈ earlier, name ∈ (compile run.1 run.2).units.map (·.fileName)) ∧
        name ∉ (compile g settings).units.map (·.fileName)) ∧
      (r.hasDrift = true ↔ ∃ run ∈ earlier, ∃ b ∈ (analyze run.1 run.2).schemas,
        ∀ b' ∈ (analyze g settings).schemas, b'.schema.home ≠ b.schema.home) := by
  obtain ⟨t1,before,last⟩ := generateAll_append done
  obtain ⟨files,t2,wrote,ended⟩ := FileAction.run_bind_ok.mp last
  cases ended
  have modular1 : ∀ run ∈ earlier, run.1.Modular := fun run member => modular run (by simp [member])
  have modularLast : g.Modular := modular (g,settings) (by simp)
  obtain ⟨inside1,sound1,present1⟩ := generateAll_files modular1 inside before
  have written := compile_written modularLast inside1 wrote
  have sound' := written.sound (sound1 sound)
  have current : ∀ u ∈ (compile g settings).units, t'.read (Path.join directory u.fileName) = .ok u.code :=
    fun u member => FileTree.text_some.mp (written.texts u member)
  have members := mem_leftovers_last vacant modular1 present1 written sound'
  refine ⟨_,_,Drift.verify_current current,rfl,Drift.leftovers_ascend sound',members,?_⟩
  rw [Drift.hasDrift_leftovers]
  constructor
  · rintro ⟨name,leftover⟩
    obtain ⟨⟨run,member,listed⟩,absent⟩ := (members name).mp leftover
    exact ⟨run,member,(lost_modules (modular1 run member) modularLast).mp ⟨name,listed,absent⟩⟩
  · rintro ⟨run,member,lost⟩
    obtain ⟨name,listed,absent⟩ := (lost_modules (modular1 run member) modularLast).mpr lost
    exact ⟨name,(members name).mpr ⟨⟨run,member,listed⟩,absent⟩⟩

-- The price goes, and its module has no schema any more.
theorem price_left_over :
    let settings : Settings := { output := { header := false } }
    let runs : List (Declarations × Settings) := [(⟨[amount,price]⟩,settings),(⟨[amount]⟩,settings)]
    let t' := ((generateAll "out" runs).run ⟨[],[(["out"],.directory)]⟩).2
    ∃ r, Drift.verify t' (compile ⟨[amount]⟩ settings).units "out" = .ok r ∧ r.hasDrift = true := by
  intro settings runs t'
  have sound : FileTree.Sound ⟨[],[(["out"],.directory)]⟩ := ⟨by decide,by decide,by decide,by decide⟩
  have there : FileTree.find ⟨[],[(["out"],.directory)]⟩ "out" = .ok ["out"] := by decide
  have vacant : ∀ name, Path.IsName name → FileTree.text? ⟨[],[(["out"],.directory)]⟩ "out" name = none := by
    intro name named
    refine Option.eq_none_iff_forall_ne_some.mpr fun text found => ?_
    have node := FileTree.read_join_place there (by decide) named (FileTree.text_some.mp found)
    simpa using FileTree.file_listed node
  have shop : Emission.ModulePath (some "shop") := by
    refine .nested ["shop"] (by simp) ?_ (by decide)
    intro name member
    cases List.mem_singleton.mp member
    exact ⟨by decide,by decide,by decide,by decide⟩
  have modular : ∀ run ∈ runs, run.1.Modular := by
    intro run member d declared
    have known : d = amount ∨ d = price := by
      simp only [runs,List.mem_cons,List.not_mem_nil,or_false] at member
      rcases member with rfl | rfl
      · simpa using declared
      · exact .inl (by simpa using declared)
    rcases known with rfl | rfl
    · exact .absent
    · exact shop
  have done : (generateAll "out" runs).run ⟨[],[(["out"],.directory)]⟩ = (.ok (),t') := by
    refine Prod.ext ?_ rfl
    decide +kernel
  obtain ⟨left,r,verified,-,-,-,drift⟩ := verify_after_generations _ t' "out" [(⟨[amount,price]⟩,settings)] ⟨[amount]⟩ settings
    sound (by decide) vacant modular done
  refine ⟨r,verified,drift.mpr ?_⟩
  decide

end DomainSchema
