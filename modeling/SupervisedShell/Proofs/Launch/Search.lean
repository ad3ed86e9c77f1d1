import SupervisedShell.Machine.Basic
import SupervisedShell.Proofs.Text.Encoding
import SupervisedShell.Proofs.Text.Tokens
import SupervisedShell.Search

set_option autoImplicit false

namespace SupervisedShell

variable {σ : Type}

namespace Path

def ofDirectories (dirs : List Bytes) : Bytes := [colon].intercalate dirs

theorem directories_eq_splitOn (path : Bytes) : directories path = path.splitOn colon :=
  List.splitOn_eq_splitOnP.symm

theorem ofDirectories_directories (path : Bytes) : ofDirectories (directories path) = path := by
  rw [directories_eq_splitOn, ofDirectories, List.intercalate_splitOn]

theorem directories_ne_nil (path : Bytes) : directories path ≠ [] := List.splitOnP_ne_nil _ _

theorem directories_ofDirectories {dirs : List Bytes} (filled : dirs ≠ [])
    (plain : ∀ d ∈ dirs, colon ∉ d) :
    directories (ofDirectories dirs) = dirs := by
  rw [directories_eq_splitOn, ofDirectories, List.splitOn_intercalate colon plain filled]

theorem colon_not_mem_directories {path dir : Bytes} (known : dir ∈ directories path) :
    colon ∉ dir := by
  intro inside
  simpa using not_of_mem_splitOnP known colon inside

theorem directories_append (p q : Bytes) :
    directories (p ++ colon :: q) = directories p ++ directories q :=
  List.splitOnP_append_cons p q (by simp)

/-- Only a directory without a name adds no slash. -/
theorem slash_mem_join {dir : Bytes} (named : dir ≠ []) (name : Bytes) :
    slash ∈ join dir name := by
  unfold join
  split
  · next empty => exact absurd (List.isEmpty_iff.mp empty) named
  · split
    · next slashed => exact List.mem_append_left _ (List.mem_of_getLast? slashed)
    · simp

end Path

/-- The files as a system shows them. To look at one of them changes none. -/
structure System.FileView (sys : System σ) where
  files : σ → Bytes → Option FileFacts
  answer : ∀ path s, (sys.facts path s).1 = files s path
  still : ∀ path s, files (sys.facts path s).2 = files s

namespace Search

def isFile (files : Bytes → Option FileFacts) (path : Bytes) : Bool :=
  (files path).any (·.isRegular)

def isProgram (files : Bytes → Option FileFacts) (path : Bytes) : Bool :=
  (files path).any (·.isExecutable)

def choice (files : Bytes → Option FileFacts) (path? : Option Bytes) (name : Bytes) :
    Option Bytes :=
  if name = [] then none
  else if Path.slash ∈ name then if isFile files name then some name else none
  else path?.bind fun path =>
    ((Path.directories path).map (Path.join · name)).find? (isProgram files)

section
variable {sys : System σ} (view : sys.FileView)

theorem firstExecutable_fst (candidates : List Bytes) (s : σ) :
    (firstExecutable sys candidates s).1 = candidates.find? (isProgram (view.files s)) := by
  induction candidates generalizing s with
  | nil => rfl
  | cons candidate rest ih =>
    have told := view.answer candidate s
    have later := ih (sys.facts candidate s).2
    rw [view.still] at later
    rcases asked : sys.facts candidate s with ⟨_ | facts, s'⟩
    · rw [asked] at told later
      have passed : isProgram (view.files s) candidate = false := by simp [isProgram, ← told]
      simp only [firstExecutable, asked, List.find?_cons, passed, later]
    · rw [asked] at told later
      have judged : isProgram (view.files s) candidate = facts.isExecutable := by
        simp [isProgram, ← told]
      simp only [firstExecutable, asked, List.find?_cons, judged]
      cases facts.isExecutable with
      | true => rfl
      | false => exact later

theorem program_fst (path? : Option Bytes) (name : Bytes) (s : σ) :
    (program sys path? name s).1 = choice (view.files s) path? name := by
  have told := view.answer name s
  unfold program choice
  by_cases empty : name = []
  · simp [empty]
  · by_cases slashed : Path.slash ∈ name
    · rcases asked : sys.facts name s with ⟨_ | facts, s'⟩
      · simp [empty, slashed, asked, isFile, ← told]
      · simp [empty, slashed, asked, isFile, ← told]
    · cases path? with
      | none => simp [empty, slashed]
      | some path => simp [empty, slashed, firstExecutable_fst view]

end

variable {files : Bytes → Option FileFacts}

theorem isFile_of_isProgram {path : Bytes} (h : isProgram files path = true) :
    isFile files path = true := by
  cases known : files path with
  | none => simp [isProgram, known] at h
  | some facts =>
    have executable : facts.isExecutable = true := by simpa [isProgram, known] using h
    have regular : facts.isRegular = true := (Bool.and_eq_true_iff.mp executable).1
    simpa [isFile, known] using regular

def Holds (files : Bytes → Option FileFacts) (dir : Bytes) (name : String) : Prop :=
  isProgram files (Path.join dir (Utf8.encode name)) = true

/-- The rules of a search over the given files. -/
structure Rules (files : Bytes → Option FileFacts)
    (found : Option Bytes → String → Option Bytes) : Prop where
  nameless : ∀ path?, found path? "" = none
  path : ∀ path? name, '/' ∈ name.toList →
    found path? name = if isFile files (Utf8.encode name) then some (Utf8.encode name) else none
  unset : ∀ name, '/' ∉ name.toList → found none name = none
  row : ∀ path : Bytes, ∃ dirs, dirs ≠ [] ∧ (∀ d ∈ dirs, Path.colon ∉ d) ∧
    path = Path.ofDirectories dirs
  here : ∀ name : String, Path.join [] (Utf8.encode name) = Utf8.encode name
  first : ∀ dirs name program, dirs ≠ [] → (∀ d ∈ dirs, Path.colon ∉ d) →
    name ≠ "" → '/' ∉ name.toList →
    (found (some (Path.ofDirectories dirs)) name = some program ↔
      ∃ before dir after, dirs = before ++ dir :: after ∧
        (∀ d ∈ before, ¬ Holds files d name) ∧
        Holds files dir name ∧ program = Path.join dir (Utf8.encode name))
  missing : ∀ dirs name, dirs ≠ [] → (∀ d ∈ dirs, Path.colon ∉ d) → name ≠ "" →
    '/' ∉ name.toList →
    (found (some (Path.ofDirectories dirs)) name = none ↔ ∀ d ∈ dirs, ¬ Holds files d name)
  regular : ∀ path? name program, found path? name = some program → isFile files program = true
  stable : ∀ before dirs after name program, dirs ≠ [] →
    (∀ d ∈ before ++ dirs ++ after, Path.colon ∉ d) →
    (∀ d ∈ before, ¬ Holds files d name) →
      found (some (Path.ofDirectories dirs)) name = some program →
      found (some (Path.ofDirectories (before ++ dirs ++ after))) name = some program
  either : ∀ p q name,
    found (some (p ++ Path.colon :: q)) name = (found (some p) name).or (found (some q) name)

section
variable {name : String}

theorem slash_mem_iff (name : String) : Path.slash ∈ Utf8.encode name ↔ '/' ∈ name.toList :=
  Utf8.mem_encode_iff (by decide) (by decide) name

theorem choice_of_slash (slashed : '/' ∈ name.toList) (path? : Option Bytes) :
    choice files path? (Utf8.encode name) =
      if isFile files (Utf8.encode name) then some (Utf8.encode name) else none := by
  have inside : Path.slash ∈ Utf8.encode name := (slash_mem_iff name).mpr slashed
  have named : Utf8.encode name ≠ [] := List.ne_nil_of_mem inside
  rw [choice, if_neg named, if_pos inside]

variable (bare : '/' ∉ name.toList)
include bare

theorem choice_of_unset : choice files none (Utf8.encode name) = none := by
  have outside : Path.slash ∉ Utf8.encode name :=
    fun inside => bare ((slash_mem_iff name).mp inside)
  rw [choice, if_neg outside]
  simp

variable (named : name ≠ "")
include named

theorem choice_of_bare (path : Bytes) : choice files (some path) (Utf8.encode name) =
    ((Path.directories path).map (Path.join · (Utf8.encode name))).find? (isProgram files) := by
  have outside : Path.slash ∉ Utf8.encode name :=
    fun inside => bare ((slash_mem_iff name).mp inside)
  have encoded : Utf8.encode name ≠ [] :=
    fun empty => named ((Utf8.encode_eq_nil_iff name).mp empty)
  rw [choice, if_neg encoded, if_neg outside, Option.bind_some]

theorem choice_eq_some_iff (path program : Bytes) :
    choice files (some path) (Utf8.encode name) = some program ↔
    ∃ before dir after, Path.directories path = before ++ dir :: after ∧
      (∀ d ∈ before, ¬ Holds files d name) ∧
      Holds files dir name ∧ program = Path.join dir (Utf8.encode name) := by
  rw [choice_of_bare bare named, List.find?_map, Option.map_eq_some_iff]
  simp only [List.find?_eq_some_iff_append]
  constructor
  · rintro ⟨dir, ⟨holds, before, after, split, passed⟩, rfl⟩
    exact ⟨before, dir, after, split, by simpa [Holds] using passed, holds, rfl⟩
  · rintro ⟨before, dir, after, split, passed, holds, rfl⟩
    exact ⟨dir, ⟨holds, before, after, split, by simpa [Holds] using passed⟩, rfl⟩

theorem choice_eq_none_iff (path : Bytes) : choice files (some path) (Utf8.encode name) = none ↔
    ∀ d ∈ Path.directories path, ¬ Holds files d name := by
  rw [choice_of_bare bare named, List.find?_eq_none, List.forall_mem_map]
  rfl

end

theorem choice_empty (path? : Option Bytes) : choice files path? (Utf8.encode "") = none :=
  if_pos rfl

theorem isFile_of_choice {path? : Option Bytes} {name program : Bytes}
    (found : choice files path? name = some program) : isFile files program = true := by
  unfold choice at found
  split at found
  · cases found
  · split at found
    · split at found
      · next regular =>
        cases found
        exact regular
      · cases found
    · obtain ⟨path, -, found⟩ := Option.bind_eq_some_iff.mp found
      exact isFile_of_isProgram (List.find?_some found)

theorem choice_append (p q name : Bytes) : choice files (some (p ++ Path.colon :: q)) name =
    (choice files (some p) name).or (choice files (some q) name) := by
  unfold choice
  split
  · rfl
  · split
    · split <;> rfl
    · simp only [Option.bind_some, Path.directories_append, List.map_append, List.find?_append]

/-- Directories that hold no such program do no harm in front, and none does behind. -/
theorem choice_stable {before dirs after : List Bytes} {name : String} {program : Bytes}
    (filled : dirs ≠ []) (plain : ∀ d ∈ before ++ dirs ++ after, Path.colon ∉ d)
    (passed : ∀ d ∈ before, ¬ Holds files d name)
    (found : choice files (some (Path.ofDirectories dirs)) (Utf8.encode name) = some program) :
    choice files (some (Path.ofDirectories (before ++ dirs ++ after))) (Utf8.encode name) =
      some program := by
  by_cases named : name = ""
  · rw [named, choice_empty] at found
    cases found
  · by_cases slashed : '/' ∈ name.toList
    · rw [choice_of_slash slashed] at found ⊢
      exact found
    · have inner : ∀ d ∈ dirs, Path.colon ∉ d := fun d known => plain d (by simp [known])
      obtain ⟨before', dir, after', split, passed', holds, rfl⟩ :=
        (choice_eq_some_iff slashed named _ _).mp found
      rw [Path.directories_ofDirectories filled inner] at split
      refine (choice_eq_some_iff slashed named _ _).mpr
        ⟨before ++ before', dir, after' ++ after, ?_, ?_, holds, rfl⟩
      · rw [Path.directories_ofDirectories (by simp [filled]) plain, split]
        simp
      · intro d known
        rcases List.mem_append.mp known with first | second
        · exact passed d first
        · exact passed' d second

/-- A search does nothing but look at files. -/
theorem program_rests {sys : System σ} {P : σ → Prop}
    (rests : ∀ path s, P s → P (sys.facts path s).2)
    (path? : Option Bytes) (name : Bytes) {s : σ} (hs : P s) : P (program sys path? name s).2 := by
  have first (candidates : List Bytes) : ∀ s, P s → P (firstExecutable sys candidates s).2 := by
    induction candidates with
    | nil => exact fun _ hs => hs
    | cons candidate rest ih =>
      intro s hs
      have looked := rests candidate s hs
      rcases asked : sys.facts candidate s with ⟨_ | facts, s'⟩
      · rw [asked] at looked
        simpa only [firstExecutable, asked] using ih s' looked
      · rw [asked] at looked
        simp only [firstExecutable, asked]
        split
        · exact looked
        · exact ih s' looked
  unfold program
  split
  · exact hs
  · split
    · have looked := rests name s hs
      rcases asked : sys.facts name s with ⟨_ | facts, s'⟩ <;> rwa [asked] at looked
    · cases path? with
      | none => exact hs
      | some path => exact first _ s hs

/-- Over files that hold still a search follows the rules, on every system and for every name. -/
theorem program_rules {sys : System σ} (view : sys.FileView) (s : σ) :
    Rules (view.files s) fun path? name => (program sys path? (Utf8.encode name) s).1 := by
  simp only [program_fst view]
  exact
    { nameless := choice_empty
      path := fun path? name slashed => choice_of_slash slashed path?
      unset := fun name bare => choice_of_unset bare
      row := fun path => ⟨Path.directories path, Path.directories_ne_nil path,
        fun _ => Path.colon_not_mem_directories, (Path.ofDirectories_directories path).symm⟩
      here := fun _ => rfl
      first := fun dirs name program filled plain named bare => by
        rw [choice_eq_some_iff bare named, Path.directories_ofDirectories filled plain]
      missing := fun dirs name filled plain named bare => by
        rw [choice_eq_none_iff bare named, Path.directories_ofDirectories filled plain]
      regular := fun path? name program found => isFile_of_choice found
      stable := fun before dirs after name program filled plain passed found =>
        choice_stable filled plain passed found
      either := fun p q name => choice_append p q (Utf8.encode name) }

/-- Neither a file that may not be run nor a directory hides the program behind it. -/
example :
    let files : Bytes → Option FileFacts := fun path =>
      if path = Utf8.encode "a/tool" then some ⟨true, 0o644⟩
      else if path = Utf8.encode "b/tool" then some ⟨false, 0o755⟩
      else if path = Utf8.encode "tool" then some ⟨true, 0o755⟩
      else none
    choice files (some (Utf8.encode "a:b::c")) (Utf8.encode "tool") = some (Utf8.encode "tool") :=
      by decide

end Search

def Machine.fileView : Machine.system.FileView where
  files m := m.world.files.facts m.directory
  answer _ _ := rfl
  still _ _ := rfl

end SupervisedShell
