import DomainSchema.Proofs.Headers
import DomainSchema.Proofs.Verification

namespace DomainSchema.Drift

def Report.Stale (r : Report) (i : Nat) (file : String) (edited : Bool) : Prop :=
  ∃ added removed diff, r.entries[i]? = some ⟨file,.stale added removed edited diff⟩

section
variable {t t' : FileTree} {directory path : String} {units : List GeneratedUnit} {u : GeneratedUnit} {files : List String}

theorem mapM_cons_writes {v : GeneratedUnit} {rest : List GeneratedUnit}
    (done : ((v :: rest).mapM (writeUnit directory)).run t = (.ok files,t')) :
    ∃ t1 others, (FileAction.write (Path.join directory v.fileName) v.code).run t = (.ok (),t1) ∧
      (rest.mapM (writeUnit directory)).run t1 = (.ok others,t') := by
  rw [List.mapM_cons] at done
  obtain ⟨file,t1,first,later⟩ := FileAction.run_bind_ok.mp done
  obtain ⟨_,t1',wrote,answer⟩ := FileAction.run_bind_ok.mp first
  obtain ⟨others,t2,wroteRest,answers⟩ := FileAction.run_bind_ok.mp later
  cases answer
  cases answers
  exact ⟨t1,others,wrote,wroteRest⟩

-- What writing units leaves of a file that can be read: it is as it was, or one of the units.
theorem mapM_leaves {old : String} (done : (units.mapM (writeUnit directory)).run t = (.ok files,t'))
    (read : t.read path = .ok old) : t'.read path = .ok old ∨ ∃ v ∈ units, t'.read path = .ok v.code := by
  induction units generalizing t files old with
  | nil =>
    cases done
    exact .inl read
  | cons v rest ih =>
    obtain ⟨t1,others,wrote,later⟩ := mapM_cons_writes done
    rcases FileAction.write_others wrote read with kept | new
    · refine (ih later kept).imp id ?_
      rintro ⟨w,member,holds⟩
      exact ⟨w,List.mem_cons_of_mem _ member,holds⟩
    · right
      rcases ih later new with kept | ⟨w,member,holds⟩
      · exact ⟨v,List.mem_cons_self,kept⟩
      · exact ⟨w,List.mem_cons_of_mem _ member,holds⟩

theorem mapM_writes (done : (units.mapM (writeUnit directory)).run t = (.ok files,t')) (member : u ∈ units) :
    ∃ v ∈ units, t'.read (Path.join directory u.fileName) = .ok v.code := by
  induction units generalizing t files with
  | nil => cases member
  | cons v rest ih =>
    obtain ⟨t1,others,wrote,later⟩ := mapM_cons_writes done
    rcases List.mem_cons.mp member with rfl | below
    · rcases mapM_leaves later (FileAction.write_reads wrote) with kept | ⟨w,inside,holds⟩
      · exact ⟨u,List.mem_cons_self,kept⟩
      · exact ⟨w,List.mem_cons_of_mem _ inside,holds⟩
    · obtain ⟨w,inside,holds⟩ := ih later below
      exact ⟨w,List.mem_cons_of_mem _ inside,holds⟩

theorem writeUnits_writes (done : (writeUnits units directory).run t = (.ok files,t')) (member : u ∈ units) :
    ∃ v ∈ units, t'.read (Path.join directory u.fileName) = .ok v.code := by
  obtain ⟨_,t1,made,wrote⟩ := FileAction.run_bind_ok.mp done
  exact mapM_writes wrote member

theorem handEdited_header (body rest : String) :
    handEdited (header body ++ "\n" ++ rest) = !(Fingerprint.ofText body).verifies rest := by
  rw [handEdited,Fingerprint.readHeader_header]

theorem verifies_iff {f : Fingerprint} {text : String} : f.verifies text = true ↔ f = Fingerprint.ofText text := by
  simp [Fingerprint.verifies]

theorem unit_headed {g : Declarations} {settings : Settings} (headed : settings.output.header = true)
    (member : u ∈ (compile g settings).units) : ∃ body, u.code = header body ++ "\n" ++ body := by
  obtain ⟨m,-,rfl⟩ := List.mem_map.mp member
  exact ⟨m.body settings,if_pos headed⟩

theorem mapM_answers {ε α β : Type} {f : α → Except ε β} {xs : List α} :
    (∃ ys, xs.mapM f = .ok ys) ↔ ∀ x ∈ xs, ∃ y, f x = .ok y := by
  induction xs with
  | nil => simp [pure,Except.pure]
  | cons x rest ih =>
    rw [List.mapM_cons,List.forall_mem_cons,← ih]
    constructor
    · rintro ⟨ys,done⟩
      obtain ⟨y,first,later⟩ := bind_ok.mp done
      obtain ⟨others,found,-⟩ := bind_ok.mp later
      exact ⟨⟨y,first⟩,others,found⟩
    · rintro ⟨⟨y,first⟩,others,found⟩
      exact ⟨y :: others,bind_ok.mpr ⟨y,first,bind_ok.mpr ⟨others,found,rfl⟩⟩⟩

theorem unitStatus_answers : (∃ status, unitStatus t directory u = .ok status) ↔
    (t.contains (Path.join directory u.fileName) = true → ∃ text, t.read (Path.join directory u.fileName) = .ok text) := by
  unfold unitStatus
  dsimp only
  split
  · rename_i there
    constructor
    · rintro ⟨status,answered⟩ _
      obtain ⟨text,found,-⟩ := bind_ok.mp answered
      exact ⟨text,found⟩
    · intro readable
      obtain ⟨text,found⟩ := readable there
      exact ⟨_,bind_ok.mpr ⟨text,found,rfl⟩⟩
  · rename_i gone
    exact ⟨fun _ there => absurd there gone,fun _ => ⟨.missing,rfl⟩⟩

theorem verify_answers : (∃ r, verify t units directory = .ok r) ↔ ∀ u ∈ units,
    t.contains (Path.join directory u.fileName) = true → ∃ text, t.read (Path.join directory u.fileName) = .ok text := by
  have entries : (∃ r, verify t units directory = .ok r) ↔ ∃ current, units.mapM (unitEntry t directory) = .ok current := by
    constructor
    · rintro ⟨r,verified⟩
      obtain ⟨current,made,-⟩ := bind_ok.mp verified
      exact ⟨current,made⟩
    · rintro ⟨current,made⟩
      exact ⟨_,bind_ok.mpr ⟨current,made,rfl⟩⟩
  rw [entries,mapM_answers]
  refine forall₂_congr fun u _ => ?_
  rw [← unitStatus_answers]
  constructor
  · rintro ⟨e,made⟩
    exact ⟨e.status,(unitEntry_ok.mp made).2⟩
  · rintro ⟨status,answered⟩
    exact ⟨⟨_,status⟩,unitEntry_ok.mpr ⟨rfl,answered⟩⟩

theorem verify_at {r : Report} {i : Nat} (verified : verify t units directory = .ok r) (here : units[i]? = some u) :
    ∃ status, unitStatus t directory u = .ok status ∧ r.entries[i]? = some ⟨Path.join directory u.fileName,status⟩ := by
  obtain ⟨current,entries,made⟩ := bind_ok.mp verified
  cases made
  obtain ⟨inside,rfl⟩ := List.getElem?_eq_some_iff.mp here
  have related := mapM_ok_iff.mp entries
  have inside' : i < current.length := related.length_eq ▸ inside
  obtain ⟨file,status⟩ := unitEntry_ok.mp (related.get inside inside')
  simp only [List.get_eq_getElem] at file status
  refine ⟨_,status,?_⟩
  rw [List.getElem?_append_left inside',List.getElem?_eq_getElem inside',← file]

theorem verify_stale {r : Report} {i : Nat} {text : String} (verified : verify t units directory = .ok r)
    (here : units[i]? = some u) (found : t.read (Path.join directory u.fileName) = .ok text) (differ : text ≠ u.code) :
    r.Stale i (Path.join directory u.fileName) (handEdited text) := by
  obtain ⟨status,answered,entry⟩ := verify_at verified here
  have compared : compare text u.code u.fileName = status := Except.ok.inj ((unitStatus_read found).symm.trans answered)
  rw [compare,if_neg differ] at compared
  exact ⟨_,_,_,compared ▸ entry⟩

end

-- Units with headers that are written into a directory stand there, one in every file of theirs. Compared with other units,
-- a file that holds such a unit and is not the one expected is out of date and not changed by hand. If what follows its
-- first empty line has given way to a text with another digest, it was changed by hand. There is an answer unless
-- something that is no file, or cannot be read, has the name of one.
theorem staleness_explained (g : Declarations) (settings : Settings) (headed : settings.output.header = true)
    (directory : String) (t : FileTree) (others : List GeneratedUnit) :
    (∀ before files, (writeUnits (compile g settings).units directory).run before = (.ok files,t) →
      ∀ u ∈ (compile g settings).units, ∃ v ∈ (compile g settings).units,
        t.read (Path.join directory u.fileName) = .ok v.code) ∧
    ((∃ r, verify t others directory = .ok r) ↔ ∀ other ∈ others,
      t.contains (Path.join directory other.fileName) = true →
        ∃ text, t.read (Path.join directory other.fileName) = .ok text) ∧
    ∀ u ∈ (compile g settings).units, (∃ head body, u.code = head ++ body ∧ Fingerprint.Head head) ∧
      ∀ r i other, verify t others directory = .ok r → others[i]? = some other →
        (t.read (Path.join directory other.fileName) = .ok u.code → u.code ≠ other.code →
          r.Stale i (Path.join directory other.fileName) false) ∧
        ∀ head body replacement, u.code = head ++ body → Fingerprint.Head head →
          Fingerprint.ofText replacement ≠ Fingerprint.ofText body →
          t.read (Path.join directory other.fileName) = .ok (head ++ replacement) → head ++ replacement ≠ other.code →
            r.Stale i (Path.join directory other.fileName) true := by
  refine ⟨fun before files done u member => writeUnits_writes done member,verify_answers,fun u member => ?_⟩
  obtain ⟨own,code⟩ := unit_headed headed member
  refine ⟨⟨header own ++ "\n",own,code,Fingerprint.header_head own⟩,fun r i other verified here => ⟨?_,?_⟩⟩
  · intro found differ
    have untouched : handEdited u.code = false := by
      rw [code,handEdited_header,verifies_iff.mpr rfl]
      rfl
    rw [← untouched]
    exact verify_stale verified here found differ
  · intro head body replacement split upper changed found differ
    obtain ⟨rfl,rfl⟩ := upper.unique (Fingerprint.header_head own) (split.symm.trans code)
    have touched : handEdited (header body ++ "\n" ++ replacement) = true := by
      rw [handEdited_header,Bool.not_eq_true',← Bool.not_eq_true,verifies_iff]
      exact Ne.symm changed
    rw [← touched]
    exact verify_stale verified here found differ

-- The bytes of a text are at hand in their array; taken one by one they are read over and over.
theorem loop_data (bytes : ByteArray) (i : Nat) (before : List UInt8) :
    ByteArray.toList.loop bytes i before = before.reverse ++ bytes.data.toList.drop i := by
  fun_induction ByteArray.toList.loop bytes i before with
  | case1 i before inside ih =>
    have inside' : i < bytes.data.toList.length := inside
    have byte : bytes.get! i = bytes.data.toList[i] := getElem!_pos bytes.data i inside
    rw [ih,List.drop_eq_getElem_cons inside',List.reverse_cons,List.append_assoc,byte]
    rfl
  | case2 i before outside => rw [List.drop_eq_nil_of_le (Nat.le_of_not_lt outside),List.append_nil]

theorem ofText_data (text : String) : Fingerprint.ofText text = .ofBytes text.toUTF8.data.toList := by
  rw [Fingerprint.ofText,ByteArray.toList,loop_data]
  rfl

def token : Declaration where
  name := "Token"
  marked := true

def shortNames : Settings where
  library := ⟨"d","D"⟩
  naming := ⟨"new","own","set_"⟩

theorem token_emptied :
    let units := (compile ⟨[token]⟩ shortNames).units
    let body := Text.join "\n" ((analyze ⟨[token]⟩ shortNames).schemas.map (Emission.schemaText · shortNames))
    let t : FileTree := ⟨[],[(["out"],.directory),(["out","crate.domain.rs"],.file (header body ++ "\n" ++ "// gone\n"))]⟩
    ∃ r, verify t units "out" = .ok r ∧ r.Stale 0 "out/crate.domain.rs" true := by
  intro units body t
  let u : GeneratedUnit := ⟨none,"crate.domain.rs",header body ++ "\n" ++ body,["crate::Token"]⟩
  have grouped : groupByModule (analyze ⟨[token]⟩ shortNames).schemas = [⟨none,(analyze ⟨[token]⟩ shortNames).schemas⟩] := rfl
  have only : units = [u] := congrArg (List.map fun m : ModuleGroup => m.unit shortNames) grouped
  have member : u ∈ units := by
    rw [only]
    exact List.mem_singleton.mpr rfl
  have file : Path.join "out" "crate.domain.rs" = "out/crate.domain.rs" := by decide
  have read : t.read (Path.join "out" u.fileName) = .ok (header body ++ "\n" ++ "// gone\n") := by
    change t.read (Path.join "out" "crate.domain.rs") = _
    rw [file]
    rfl
  have changed : Fingerprint.ofText "// gone\n" ≠ Fingerprint.ofText body := by
    rw [ofText_data,ofText_data]
    decide +kernel
  have differ : header body ++ "\n" ++ "// gone\n" ≠ u.code := by
    intro same
    have bodies := ((Fingerprint.header_head body).unique (Fingerprint.header_head body) same).2
    exact changed (congrArg Fingerprint.ofText bodies)
  obtain ⟨-,answers,explained⟩ := staleness_explained ⟨[token]⟩ shortNames rfl "out" t units
  obtain ⟨r,verified⟩ := answers.mpr fun other inside _ => by
    rw [only] at inside
    rw [List.mem_singleton.mp inside]
    exact ⟨_,read⟩
  have told := ((explained u member).2 r 0 u verified (by rw [only]; rfl)).2 (header body ++ "\n") body "// gone\n" rfl
    (Fingerprint.header_head body) changed read differ
  rw [show Path.join "out" u.fileName = "out/crate.domain.rs" from file] at told
  exact ⟨r,verified,told⟩

end DomainSchema.Drift
