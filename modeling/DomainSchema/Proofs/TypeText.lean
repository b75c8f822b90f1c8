import DomainSchema.Declaration
import Mathlib.Data.List.Basic

namespace DomainSchema

-- Types whose paths are free of brackets and commas can be read back from how they are written.

def TypeExpr.isDivider (c : Char) : Bool := c == '<' || c == '>' || c == ','

inductive TypeExpr.Plain : TypeExpr → Prop
  | intro {path : String} {args : List TypeExpr} (free : ∀ c ∈ path.toList, isDivider c = false)
      (plain : ∀ arg ∈ args, Plain arg) : Plain ⟨path,args⟩

namespace TypeExpr

-- Where reading stands: in a path, behind the bracket that closes a type, or behind the comma that follows one.
inductive Spot where
  | path (chars : List Char)
  | closed (type : TypeExpr)
  | comma (type : TypeExpr)

def Spot.type? : Spot → Option TypeExpr
  | .path chars => some ⟨String.ofList chars,[]⟩
  | .closed type => some type
  | .comma _ => none

-- The types around the one that is read, innermost first, each with the arguments that it has so far.
structure Reading where
  around : List TypeExpr
  spot : Spot

def addArg (t arg : TypeExpr) : TypeExpr := ⟨t.path,t.args ++ [arg]⟩

def follow (around : List TypeExpr) (type : TypeExpr) (c : Char) : Option Reading :=
  if c = ',' then some ⟨around,.comma type⟩
  else match around with
    | inner :: outer => if c = '>' then some ⟨outer,.closed (inner.addArg type)⟩ else none
    | [] => none

def Reading.step (r : Reading) (c : Char) : Option Reading :=
  match r.spot with
  | .path chars =>
    if c = '<' then some ⟨⟨String.ofList chars,[]⟩ :: r.around,.path []⟩
    else if isDivider c then follow r.around ⟨String.ofList chars,[]⟩ c
    else some ⟨r.around,.path (chars ++ [c])⟩
  | .closed type => follow r.around type c
  | .comma type =>
    match r.around with
    | inner :: outer => if c = ' ' then some ⟨inner.addArg type :: outer,.path []⟩ else none
    | [] => none

def Reading.finish (r : Reading) : Option TypeExpr := if r.around.isEmpty then r.spot.type? else none

def ofText? (text : String) : Option TypeExpr := do
  let r ← text.toList.foldlM Reading.step ⟨[],.path []⟩
  r.finish

theorem text_bare (path : String) : (text ⟨path,[]⟩).toList = path.toList := by simp [text]

theorem text_applied (path : String) (arg : TypeExpr) (args : List TypeExpr) :
    (text ⟨path,arg :: args⟩).toList = path.toList ++ '<' :: ((argsText (arg :: args)).toList ++ ['>']) := by
  simp [text]

theorem argsText_last (arg : TypeExpr) : (argsText [arg]).toList = arg.text.toList := by simp [argsText]

theorem argsText_more (arg next : TypeExpr) (args : List TypeExpr) :
    (argsText (arg :: next :: args)).toList = arg.text.toList ++ ',' :: ' ' :: (argsText (next :: args)).toList := by
  simp [argsText]

section
variable {t inner : TypeExpr} {around : List TypeExpr} {spot : Spot}

theorem step_comma (ended : spot.type? = some t) : Reading.step ⟨around,spot⟩ ',' = some ⟨around,.comma t⟩ := by
  cases spot with
  | path chars =>
    cases ended
    rfl
  | closed type =>
    cases ended
    rfl
  | comma type => cases ended

theorem step_close (ended : spot.type? = some t) :
    Reading.step ⟨inner :: around,spot⟩ '>' = some ⟨around,.closed (inner.addArg t)⟩ := by
  cases spot with
  | path chars =>
    cases ended
    rfl
  | closed type =>
    cases ended
    rfl
  | comma type => cases ended

theorem read_path {chars : List Char} (free : ∀ c ∈ chars, isDivider c = false) (before : List Char) :
    chars.foldlM Reading.step ⟨around,.path before⟩ = some ⟨around,.path (before ++ chars)⟩ := by
  induction chars generalizing before with
  | nil => simp
  | cons c rest ih =>
    rw [List.forall_mem_cons] at free
    have open_ : c ≠ '<' := by
      rintro rfl
      cases free.1
    have step : Reading.step ⟨around,.path before⟩ c = some ⟨around,.path (before ++ [c])⟩ := by
      simp [Reading.step,open_,free.1]
    rw [List.foldlM_cons,step,Option.bind_eq_bind,Option.bind_some,ih free.2,List.append_assoc,List.singleton_append]

def ReadOff (t : TypeExpr) : Prop := ∀ around, ∃ spot, spot.type? = some t ∧
  t.text.toList.foldlM Reading.step ⟨around,.path []⟩ = some ⟨around,spot⟩

theorem read_args {path : String} {arg : TypeExpr} {args : List TypeExpr} (reads : ∀ t ∈ arg :: args, ReadOff t)
    (before : List TypeExpr) :
    ((argsText (arg :: args)).toList ++ ['>']).foldlM Reading.step ⟨⟨path,before⟩ :: around,.path []⟩ =
      some ⟨around,.closed ⟨path,before ++ arg :: args⟩⟩ := by
  obtain ⟨spot,ended,first⟩ := reads arg List.mem_cons_self (⟨path,before⟩ :: around)
  induction args generalizing arg before spot with
  | nil =>
    rw [argsText_last,List.foldlM_append,first,Option.bind_eq_bind,Option.bind_some,List.foldlM_cons,step_close ended]
    rfl
  | cons next more ih =>
    have later : ∀ t ∈ next :: more, ReadOff t := fun t member => reads t (List.mem_cons_of_mem _ member)
    obtain ⟨spot',ended',second⟩ := later next List.mem_cons_self (⟨path,before ++ [arg]⟩ :: around)
    have space : Reading.step ⟨⟨path,before⟩ :: around,.comma arg⟩ ' ' = some ⟨⟨path,before ++ [arg]⟩ :: around,.path []⟩ := rfl
    have tail := ih later (before ++ [arg]) spot' ended' second
    rw [argsText_more,List.append_assoc,List.foldlM_append,first,Option.bind_eq_bind,Option.bind_some,List.cons_append,
      List.cons_append,List.foldlM_cons,step_comma ended,Option.bind_eq_bind,Option.bind_some,List.foldlM_cons,space,
      Option.bind_eq_bind,Option.bind_some,tail,List.append_assoc,List.singleton_append]

theorem Plain.readOff (plain : t.Plain) : ReadOff t := by
  induction plain with
  | @intro path args free plain ih =>
    intro around
    cases args with
    | nil =>
      refine ⟨.path path.toList,by simp [Spot.type?],?_⟩
      rw [text_bare]
      exact read_path free []
    | cons arg more =>
      have opened : Reading.step ⟨around,.path path.toList⟩ '<' = some ⟨⟨path,[]⟩ :: around,.path []⟩ := by
        simp [Reading.step]
      refine ⟨.closed ⟨path,arg :: more⟩,rfl,?_⟩
      rw [text_applied,List.foldlM_append,read_path free [],List.nil_append,Option.bind_eq_bind,Option.bind_some,
        List.foldlM_cons,opened]
      exact read_args ih []

theorem ofText?_text (plain : t.Plain) : ofText? t.text = some t := by
  obtain ⟨spot,ended,read⟩ := plain.readOff []
  rw [ofText?,read]
  exact ended

end

def openText : List TypeExpr → List Char
  | [] => []
  | inner :: outer => openText outer ++ inner.path.toList ++ '<' :: inner.args.flatMap fun t => t.text.toList ++ [',',' ']

def Spot.chars : Spot → List Char
  | .path chars => chars
  | .closed type => type.text.toList
  | .comma type => type.text.toList ++ [',']

def Reading.chars (r : Reading) : List Char := openText r.around ++ r.spot.chars

inductive Spot.Sound : Spot → Prop
  | path {chars : List Char} (free : ∀ c ∈ chars, isDivider c = false) : Sound (.path chars)
  | closed {type : TypeExpr} (plain : type.Plain) : Sound (.closed type)
  | comma {type : TypeExpr} (plain : type.Plain) : Sound (.comma type)

structure Reading.Sound (r : Reading) : Prop where
  around : ∀ t ∈ r.around, t.Plain
  spot : r.spot.Sound

theorem argsText_concat (args : List TypeExpr) (arg : TypeExpr) :
    (argsText (args ++ [arg])).toList = (args.flatMap fun t => t.text.toList ++ [',',' ']) ++ arg.text.toList := by
  induction args with
  | nil => exact argsText_last arg
  | cons first rest ih =>
    cases rest with
    | nil => simp [argsText_more,argsText_last]
    | cons second more =>
      rw [List.cons_append,List.cons_append,argsText_more,← List.cons_append,ih]
      simp

theorem text_addArg (t arg : TypeExpr) : (t.addArg arg).text.toList =
    t.path.toList ++ '<' :: ((t.args.flatMap fun t => t.text.toList ++ [',',' ']) ++ arg.text.toList ++ ['>']) := by
  obtain ⟨path,args⟩ := t
  rw [← argsText_concat]
  cases args with
  | nil => exact text_applied path arg []
  | cons first rest => exact text_applied path first (rest ++ [arg])

theorem Plain.bare {chars : List Char} (free : ∀ c ∈ chars, isDivider c = false) : Plain ⟨String.ofList chars,[]⟩ :=
  .intro (by simpa using free) (by simp)

theorem Plain.addArg {t arg : TypeExpr} (plain : t.Plain) (plain' : arg.Plain) : (t.addArg arg).Plain := by
  obtain ⟨free,others⟩ := plain
  refine .intro free fun other member => ?_
  rcases List.mem_append.mp member with old | new
  · exact others other old
  · rw [List.mem_singleton.mp new]
    exact plain'

section
variable {r r' : Reading} {c : Char} {t : TypeExpr}

theorem follow_sound {around : List TypeExpr} (plains : ∀ t ∈ around, t.Plain) (plain : t.Plain)
    (taken : follow around t c = some r') : r'.Sound ∧ r'.chars = openText around ++ t.text.toList ++ [c] := by
  unfold follow at taken
  split at taken
  · rename_i comma
    cases taken
    exact ⟨⟨plains,.comma plain⟩,by simp [Reading.chars,Spot.chars,comma]⟩
  · cases around with
    | nil => cases taken
    | cons inner outer =>
      rw [List.forall_mem_cons] at plains
      simp only at taken
      split at taken
      · rename_i close
        cases taken
        exact ⟨⟨plains.2,.closed (plains.1.addArg plain)⟩,by simp [Reading.chars,Spot.chars,openText,text_addArg,close]⟩
      · cases taken

theorem step_sound (sound : r.Sound) (taken : r.step c = some r') : r'.Sound ∧ r'.chars = r.chars ++ [c] := by
  obtain ⟨around,spot⟩ := r
  obtain ⟨plains,spot_sound⟩ := sound
  cases spot_sound with
  | @path chars free =>
    simp only [Reading.step] at taken
    split at taken
    · rename_i opened
      cases taken
      exact ⟨⟨List.forall_mem_cons.mpr ⟨.bare free,plains⟩,.path (by simp)⟩,
        by simp [Reading.chars,Spot.chars,openText,opened]⟩
    · split at taken
      · have followed := follow_sound plains (.bare free) taken
        rw [text_bare,String.toList_ofList] at followed
        exact followed
      · rename_i bare
        cases taken
        have free' : ∀ other ∈ chars ++ [c], isDivider other = false := by
          intro other member
          rcases List.mem_append.mp member with old | new
          · exact free other old
          · rw [List.mem_singleton.mp new]
            simpa using bare
        exact ⟨⟨plains,.path free'⟩,by simp [Reading.chars,Spot.chars]⟩
  | closed plain => exact follow_sound plains plain taken
  | comma plain =>
    cases around with
    | nil => cases taken
    | cons inner outer =>
      rw [List.forall_mem_cons] at plains
      simp only [Reading.step] at taken
      split at taken
      · rename_i space
        cases taken
        exact ⟨⟨List.forall_mem_cons.mpr ⟨plains.1.addArg plain,plains.2⟩,.path (by simp)⟩,
          by simp [Reading.chars,Spot.chars,openText,addArg,space]⟩
      · cases taken

theorem run_sound {chars : List Char} (sound : r.Sound) (taken : chars.foldlM Reading.step r = some r') :
    r'.Sound ∧ r'.chars = r.chars ++ chars := by
  induction chars generalizing r with
  | nil =>
    cases taken
    exact ⟨sound,by simp⟩
  | cons c rest ih =>
    rw [List.foldlM_cons] at taken
    obtain ⟨next,first,later⟩ := Option.bind_eq_some_iff.mp taken
    obtain ⟨sound_next,chars_next⟩ := step_sound sound first
    obtain ⟨sound',chars'⟩ := ih sound_next later
    exact ⟨sound',by rw [chars',chars_next,List.append_assoc,List.singleton_append]⟩

theorem finish_sound (sound : r.Sound) (ended : r.finish = some t) : t.Plain ∧ t.text.toList = r.chars := by
  obtain ⟨around,spot⟩ := r
  cases around with
  | cons inner outer => cases ended
  | nil =>
    cases sound.spot with
    | path free =>
      cases ended
      exact ⟨.bare free,by simp [text_bare,Reading.chars,Spot.chars,openText]⟩
    | closed plain =>
      cases ended
      exact ⟨plain,rfl⟩
    | comma plain => cases ended

theorem ofText?_iff {text : String} : ofText? text = some t ↔ t.Plain ∧ t.text = text := by
  constructor
  · intro read
    obtain ⟨r,taken,ended⟩ := Option.bind_eq_some_iff.mp read
    obtain ⟨sound,chars⟩ := run_sound ⟨by simp,.path (by simp)⟩ taken
    obtain ⟨plain,written⟩ := finish_sound sound ended
    exact ⟨plain,String.toList_inj.mp (written.trans chars)⟩
  · rintro ⟨plain,rfl⟩
    exact ofText?_text plain

end

theorem text_plain {t u : TypeExpr} (plain : t.Plain) (plain' : u.Plain) : t.text = u.text ↔ t = u := by
  constructor
  · intro same
    have read := ofText?_text plain
    rw [same,ofText?_text plain'] at read
    exact (Option.some.inj read).symm
  · rintro rfl
    rfl

-- How a plain type is written tells its path and its arguments, with their number and order: the text is read back as that
-- type, and two plain types that are written alike are one.
theorem rendering_unambiguous :
    (∀ t : TypeExpr, t.Plain → ofText? t.text = some t) ∧
    (∀ t u : TypeExpr, t.Plain → u.Plain → t.text = u.text → t = u) ∧
    ∀ (text : String) (t : TypeExpr), ofText? text = some t → t.Plain ∧ t.text = text := by
  refine ⟨fun t plain => ?_,fun t u plain plain' same => ?_,fun text t read => ?_⟩
  · exact ofText?_text plain
  · exact (text_plain plain plain').mp same
  · exact ofText?_iff.mp read

-- One argument without a name is more than no argument, and blanks belong to the path they stand in.
theorem nameless_read :
    Plain ⟨"Map",[⟨"&'a str",[]⟩,⟨"Vec",[⟨"",[]⟩]⟩,⟨" core::Any",[]⟩]⟩ ∧
    ofText? "Map<&'a str, Vec<>,  core::Any>" = some ⟨"Map",[⟨"&'a str",[]⟩,⟨"Vec",[⟨"",[]⟩]⟩,⟨" core::Any",[]⟩]⟩ ∧
    text ⟨"Vec",[⟨"",[]⟩]⟩ ≠ text ⟨"Vec",[]⟩ := by
  have bare (path : String) (free : ∀ c ∈ path.toList, isDivider c = false) : Plain ⟨path,[]⟩ := .intro free (by simp)
  have nameless : Plain ⟨"Vec",[⟨"",[]⟩]⟩ := .intro (by simp [isDivider]) (by simpa using bare "" (by simp))
  have plain : Plain ⟨"Map",[⟨"&'a str",[]⟩,⟨"Vec",[⟨"",[]⟩]⟩,⟨" core::Any",[]⟩]⟩ := by
    refine .intro (by simp [isDivider]) ?_
    simp only [List.forall_mem_cons]
    exact ⟨bare _ (by simp [isDivider]),nameless,bare _ (by simp [isDivider]),by simp⟩
  refine ⟨plain,rendering_unambiguous.1 _ plain,fun same => ?_⟩
  cases rendering_unambiguous.2.1 _ _ nameless (bare "Vec" (by simp [isDivider])) same

end TypeExpr

end DomainSchema
