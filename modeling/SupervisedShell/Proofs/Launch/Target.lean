import SupervisedShell.Proofs.Launch.Fates
import SupervisedShell.Proofs.Launch.Search
import SupervisedShell.Proofs.Session.Children
/-!
The file that runs when a program is started. A system takes a path with a slash as it is, and
searches for any other name once more, by rules of its own. If it passes over no more than the shell
does, it comes to the file that the shell has found.
-/

set_option autoImplicit false

namespace SupervisedShell

variable {σ : Type}

namespace Search

/-- What a system passes over where it searches: nothing at all, a directory, and a file without an
execute bit. -/
def passedOver (files : Bytes → Option FileFacts) (path : Bytes) : Bool :=
  (files path).all fun f => !f.isRegular || f.mode &&& 0o111 = 0

def target (files : Bytes → Option FileFacts) (path program : Bytes) : Option Bytes :=
  if Path.slash ∈ program then some program
  else ((Path.directories path).map (Path.join · program)).find? fun candidate =>
    !passedOver files candidate

section
variable {files : Bytes → Option FileFacts}

theorem not_passedOver : (fun path => !passedOver files path) = isProgram files := by
  funext path
  cases known : files path with
  | none => simp [passedOver, isProgram, known]
  | some f => simp [passedOver, isProgram, known, FileFacts.isExecutable]

/-- A file without a slash in its path comes from a directory without a name, and only
from there. -/
theorem target_of_choice {path? : Option Bytes} {path name program : Bytes}
    (captured : ∀ p, path? = some p → p = path)
    (found : choice files path? name = some program) :
    target files path program = some program := by
  by_cases slashed : Path.slash ∈ program
  · exact if_pos slashed
  · unfold choice at found
    split at found
    · cases found
    · split at found
      · next inside =>
        split at found
        · cases found
          exact absurd inside slashed
        · cases found
      · obtain ⟨p, known, found⟩ := Option.bind_eq_some_iff.mp found
        obtain rfl := captured p known
        rw [target, if_neg slashed, not_passedOver]
        obtain ⟨dir, -, rfl⟩ := List.mem_map.mp (List.mem_of_find?_eq_some found)
        by_cases here : dir = []
        · subst here
          exact found
        · exact absurd (Path.slash_mem_join here name) slashed

end

end Search

/-- A machine also goes on for a file that only others than its owner may run. The shell finds that
file, and the machine runs the one behind it. -/
example :
    let tool := Utf8.encode "tool"
    let b := Utf8.encode "b"
    let files := Files.standard
      |>.put ⟨0⟩ (Files.session ++ [tool]) (.file 0o654 (.tool .true))
      |>.put ⟨0⟩ (Files.session ++ [b]) (.directory 0o755)
      |>.put ⟨0⟩ (Files.session ++ [b, tool]) (.file 0o755 (.tool .true))
    let path := Path.ofDirectories [[], b]
    Search.choice (files.facts Files.session) (some path) tool = some tool ∧
      (Image.find files Files.session (some path) tool []).toOption.map (·.path) =
        some (Utf8.encode "b/tool") := by
  decide +kernel

def System.FileView.journaled {host : Host σ} (view : host.toSystem.FileView) :
    host.journaled.toSystem.FileView where
  files j := view.files j.world
  answer path j := view.answer path j.world
  still path j := view.still path j.world

/-- A host with a record of the files that it runs. A start that works runs the target of the
program, and nothing else runs any file. -/
structure Host.Runs (host : Host σ) (view : host.toSystem.FileView) (path : Bytes) where
  ran : σ → List Bytes
  started : ∀ l s pid, (host.spawn l s).1 = .ok pid →
    ∃ file, Search.target (view.files s) path l.program = some file ∧
      ran (host.spawn l s).2 = ran s ++ [file]
  refused : ∀ l s e, (host.spawn l s).1 = .error e → ran (host.spawn l s).2 = ran s
  write : ∀ bytes s, ran (host.write bytes s).2 = ran s
  flush : ∀ s, ran (host.flush s).2 = ran s
  facts : ∀ p s, ran (host.facts p s).2 = ran s
  poll : ∀ pid s, ran (host.poll pid s).2 = ran s
  kill : ∀ pid s, ran (host.kill pid s).2 = ran s
  reap : ∀ pid s, ran (host.reap pid s).2 = ran s
  now : ∀ s, ran (host.now s).2 = ran s
  sleep : ∀ d s, ran (host.sleep d s) = ran s
  log : ∀ r s, ran (host.log r s) = ran s

def Event.isStart : Event → Bool
  | call (.spawn _ (.ok _)) => true
  | _ => false

def starts (events : List Event) : Nat := events.countP Event.isStart

@[simp] theorem starts_append (xs ys : List Event) : starts (xs ++ ys) = starts xs + starts ys :=
  List.countP_append

@[simp] theorem starts_nil : starts [] = 0 := rfl

@[simp] theorem starts_cons (e : Event) (es : List Event) :
    starts (e :: es) = e.isStart.toNat + starts es := by
  cases h : e.isStart <;> simp [starts, h, Nat.add_comm]

theorem starts_eq_zero_iff {calls : List Call} :
    starts (calls.map .call) = 0 ↔ ∀ l pid, .spawn l (.ok pid) ∉ calls := by
  rw [starts, List.countP_map, List.countP_eq_zero]
  constructor
  · intro none l pid known
    exact none _ known rfl
  · intro none c known
    rcases c with _ | ⟨l, _ | pid⟩ | _ | _ | _ | _ | _ <;> try exact Bool.false_ne_true
    exact absurd known (none l pid)

theorem starts_supervised {calls : List Call} (h : Supervised calls) :
    starts (calls.map .call) ≤ 1 := by
  cases h with
  | unasked => exact Nat.zero_le 1
  | refused l e => exact Nat.zero_le 1
  | watched l pid started rounds ending =>
    have quiet : starts ((rounds.flatMap (Round.calls pid) ++ ending.calls pid).map .call) = 0 := by
      refine starts_eq_zero_iff.mpr fun l' pid' known => ?_
      rcases List.mem_append.mp known with inside | last
      · obtain ⟨r, -, known⟩ := List.mem_flatMap.mp inside
        simp [Round.calls] at known
      · cases ending <;> simp [Ending.calls] at last
    simp only [List.map_cons, starts_cons, quiet]
    exact Nat.le_refl 1

namespace Host.Runs

variable {host : Host σ} {view : host.toSystem.FileView} {path : Bytes}
  (runs : host.Runs view path)

def Idle (j j' : Journal σ) : Prop :=
  starts j'.events = starts j.events ∧ runs.ran j'.world = runs.ran j.world

def RunsOnly (file? : Option Bytes) (j j' : Journal σ) : Prop :=
  runs.Idle j j' ∨ ∃ file, file? = some file ∧ starts j'.events = starts j.events + 1 ∧
    runs.ran j'.world = runs.ran j.world ++ [file]

variable {runs}

theorem RunsOnly.after_idle {file? : Option Bytes} {j j₁ j' : Journal σ}
    (h : runs.RunsOnly file? j₁ j') (first : runs.Idle j j₁) : runs.RunsOnly file? j j' := by
  rcases h with idle | ⟨file, known, count, ran⟩
  · exact .inl ⟨idle.1.trans first.1, idle.2.trans first.2⟩
  · exact .inr ⟨file, known, by rw [count, first.1], by rw [ran, first.2]⟩

theorem RunsOnly.before_idle {file? : Option Bytes} {j j₁ j' : Journal σ}
    (h : runs.RunsOnly file? j j₁) (last : runs.Idle j₁ j') : runs.RunsOnly file? j j' := by
  rcases h with idle | ⟨file, known, count, ran⟩
  · exact .inl ⟨last.1.trans idle.1, last.2.trans idle.2⟩
  · exact .inr ⟨file, known, last.1.trans count, last.2.trans ran⟩

variable (runs)

/-- What is no call to start anything, or to look for it, is idle. -/
theorem carries : host.journaled.Carries runs.Idle where
  refl j := ⟨rfl, rfl⟩
  trans first second := ⟨second.1.trans first.1, second.2.trans first.2⟩
  write b rest j := by simp [Idle, Host.journaled, Journal.note, Event.isStart, runs.write]
  flush j := by simp [Idle, Host.journaled, Journal.note, Event.isStart, runs.flush]
  log r j := by simp [Idle, Host.journaled, runs.log]

theorem program_idle (path? : Option Bytes) (name : Bytes) (j : Journal σ) :
    runs.Idle j (Search.program host.journaled.toSystem path? name j).2 ∧
      view.files (Search.program host.journaled.toSystem path? name j).2.world =
        view.files j.world := by
  refine Search.program_rests
    (P := fun i : Journal σ => runs.Idle j i ∧ view.files i.world = view.files j.world)
    ?_ path? name ⟨⟨rfl, rfl⟩, rfl⟩
  rintro p i ⟨⟨count, ran⟩, files⟩
  refine ⟨⟨?_, (runs.facts p i.world).trans ran⟩, (view.still p i.world).trans files⟩
  simpa [Host.journaled, Journal.note, Event.isStart] using count

def Since (n : Nat) (files : List Bytes) (j : Journal σ) : Prop :=
  n ≤ starts j.events ∧ (starts j.events = n → runs.ran j.world = files)

theorem since_keeps (n : Nat) (files : List Bytes) :
    host.journaled.toSystem.Keeps (runs.Since n files) where
  facts p j h := by simpa [Since, Host.journaled, Journal.note, Event.isStart, runs.facts] using h
  spawn l j h := by
    rcases made : (host.spawn l j.world).1 with e | pid
    · simpa [Since, Host.journaled, Journal.note, Event.isStart, made,
        runs.refused l j.world e made] using h
    · have more : n ≤ starts j.events := h.1
      refine ⟨?_, fun same => ?_⟩
      · simp [Host.journaled, Journal.note]
        omega
      · -- A start that was not there before is one too many.
        simp [Host.journaled, Journal.note, Event.isStart, made] at same
        omega
  poll pid j h := by simpa [Since, Host.journaled, Journal.note, Event.isStart, runs.poll] using h
  kill pid j h := by simpa [Since, Host.journaled, Journal.note, Event.isStart, runs.kill] using h
  reap pid j h := by simpa [Since, Host.journaled, Journal.note, Event.isStart, runs.reap] using h
  now j h := by simpa [Since, Host.journaled, Journal.note, Event.isStart, runs.now] using h
  sleep d j h := by simpa [Since, Host.journaled, Journal.note, Event.isStart, runs.sleep] using h
  log r j h := by simpa [Since, Host.journaled, Journal.note, Event.isStart, runs.log] using h

/-- With one start at most, a supervision runs nothing but the target of its program. -/
theorem supervise_runs (limits : Limits) (l : Launch) (j : Journal σ)
    (few : starts (supervise host.journaled.toSystem limits l j).2.events ≤ starts j.events + 1) :
    runs.RunsOnly (Search.target (view.files j.world) path l.program) j
      (supervise host.journaled.toSystem limits l j).2 := by
  by_cases nul : l.hasNul
  · have still : (supervise host.journaled.toSystem limits l j).2 = j := by
      simp [supervise, Handle.spawn, nul]
    rw [still]
    exact .inl ⟨rfl, rfl⟩
  · let j₁ := (host.journaled.spawn l j).2
    rcases made : (host.spawn l j.world).1 with e | pid
    · have asked : (supervise host.journaled.toSystem limits l j).2 = j₁ := by
        simp [supervise, Handle.spawn, nul, Host.journaled, Journal.note, made, j₁]
      rw [asked]
      refine .inl ⟨?_, runs.refused l j.world e made⟩
      simp [j₁, Host.journaled, Journal.note, made, Event.isStart]
    · obtain ⟨file, known, ran⟩ := runs.started l j.world pid made
      have begun : runs.Since (starts j.events + 1) (runs.ran j.world ++ [file]) j₁ := by
        simp [Since, j₁, Host.journaled, Journal.note, made, Event.isStart, ran]
      have asked : host.journaled.spawn l j = (.ok pid, j₁) := by
        simp [Host.journaled, Journal.note, made, j₁]
      -- The wait may start no more, so the record stays as the start has left it.
      have kept : runs.Since (starts j.events + 1) (runs.ran j.world ++ [file])
          (supervise host.journaled.toSystem limits l j).2 := by
        have keeps := runs.since_keeps (starts j.events + 1) (runs.ran j.world ++ [file])
        simp only [supervise, Handle.spawn, nul, asked]
        exact Handle.wait_keeps keeps limits _ (keeps.now _ (keeps.log _ _ begun))
      have once : starts (supervise host.journaled.toSystem limits l j).2.events =
          starts j.events + 1 :=
        Nat.le_antisymm few kept.1
      exact .inr ⟨file, known, once, kept.2 once⟩

variable {env : Environment} (captured : ∀ p, env.searchPath? = some p → p = path)
  (name : String) (args : List String) (j : Journal σ)
include captured

theorem start_runs :
    runs.RunsOnly (Search.program host.toSystem env.searchPath? (Utf8.encode name) j.world).1 j
      (External.start host.journaled env name args j).2 := by
  obtain ⟨looks, calls, looked, events, launched⟩ := start_launched host env name args j
  -- That there is one start at most is known from the calls, which say nothing of the record.
  have few : starts (External.start host.journaled env name args j).2.events ≤
      starts j.events + 1 := by
    have one : starts (calls.map .call) ≤ 1 := starts_supervised launched.calls_supervised
    have none : starts (looks.map .call) = 0 :=
      starts_eq_zero_iff.mpr (External.not_started_of_looks looked)
    rw [events, List.map_append, starts_append, starts_append, none]
    omega
  have found := Search.program_fst view.journaled env.searchPath? (Utf8.encode name) j
  obtain ⟨idle, still⟩ := runs.program_idle env.searchPath? (Utf8.encode name) j
  rw [Search.program_fst view]
  unfold External.start at few ⊢
  generalize Search.program host.journaled.toSystem env.searchPath? (Utf8.encode name) j =
    searched at *
  rcases searched with ⟨_ | program, j₁⟩
  · exact .inl idle
  · have chosen : Search.choice (view.files j.world) env.searchPath? (Utf8.encode name) =
        some program := found.symm
    rw [← idle.1] at few
    have supervised := runs.supervise_runs env.limits ⟨program, name, args⟩ j₁ few
    rw [still, Search.target_of_choice captured chosen] at supervised
    rw [chosen]
    exact supervised.after_idle idle

/-- The program that a launch starts is the program that it has found. If it has found none, it
starts none. -/
theorem run_runs_found :
    runs.RunsOnly (Search.program host.toSystem env.searchPath? (Utf8.encode name)
      (host.flush j.world).2).1 j
      (External.run host.journaled name args env j).2.2 := by
  have idle := runs.carries.flush j
  rcases flushed : host.journaled.flush j with ⟨e | _, j₁⟩
  · rw [flushed] at idle
    have refused : (External.run host.journaled name args env j).2.2 = j₁ := by
      simp [External.run, Bind.bind, Action.bind, Action.io, flushed]
    rw [refused]
    exact .inl idle
  · rw [flushed] at idle
    have world : j₁.world = (host.flush j.world).2 := (congrArg (·.2.world) flushed).symm
    rw [External.run_of_flush flushed, ← world]
    exact ((runs.start_runs captured name args j₁).after_idle idle).before_idle
      (runs.carries.conclude name _ env _)

end Host.Runs

/-- The rehearsed system over files that never change, with a record of what it runs. -/
structure Ledger where
  rehearsal : Rehearsal
  ran : List Bytes

namespace Ledger

variable (files : Bytes → Option FileFacts) (path : Bytes)

def focus : Focus Ledger Rehearsal :=
  ⟨rehearsal, fun l r => { l with rehearsal := r }, fun _ _ => rfl⟩

def spawn (l : Launch) (s : Ledger) : Except IoError Nat × Ledger :=
  match (Search.target files path l.program).filter (Search.isProgram files) with
  | some file => (.ok 1, { s with ran := s.ran ++ [file] })
  | none => (.error Errno.notFound, s)

def host : Host Ledger where
  write bytes s := (.ok bytes.length, s)
  flush s := (.ok (), s)
  toSystem := { Rehearsal.system.within focus (fun _ s => s) fun _ _ _ => Nat.le_refl _ with
    facts := fun p s => (files p, s)
    spawn := spawn files path }

def view : (host files path).toSystem.FileView where
  files _ := files
  answer _ _ := rfl
  still _ _ := rfl

theorem spawn_cases (l : Launch) (s : Ledger) :
    (∃ file, Search.target files path l.program = some file ∧
        spawn files path l s = (.ok 1, { s with ran := s.ran ++ [file] })) ∨
      spawn files path l s = (.error Errno.notFound, s) := by
  unfold spawn
  split
  · next file known =>
    exact .inl ⟨file, (Option.filter_eq_some_iff.mp known).1, rfl⟩
  · exact .inr rfl

def runs : (host files path).Runs (view files path) path where
  ran := ran
  started l s pid made := by
    obtain ⟨file, known, begun⟩ | refused := spawn_cases files path l s
    · exact ⟨file, known, congrArg (·.2.ran) begun⟩
    · cases (congrArg Prod.fst refused).symm.trans made
  refused l s e made := by
    obtain ⟨file, known, begun⟩ | refused := spawn_cases files path l s
    · cases (congrArg Prod.fst begun).symm.trans made
    · exact congrArg (·.2.ran) refused
  write _ _ := rfl
  flush _ := rfl
  facts _ _ := rfl
  poll _ _ := rfl
  kill _ _ := rfl
  reap _ _ := rfl
  now _ := rfl
  sleep _ _ := rfl
  log _ _ := rfl

end Ledger

/-- A file that may not be run and a directory stand in front, and another program behind. -/
theorem Host.Runs.run_runs_found_here :
    let path := Utf8.encode "a:b::c"
    let files : Bytes → Option FileFacts := fun p =>
      if p = Utf8.encode "a/tool" then some ⟨true, 0o644⟩
      else if p = Utf8.encode "b/tool" then some ⟨false, 0o755⟩
      else if p = Utf8.encode "tool" ∨ p = Utf8.encode "c/tool" then some ⟨true, 0o755⟩
      else none
    let env := Environment.ofSearchPath (some path)
    let j : Journal Ledger := .start ⟨⟨[], .ok (), .ok (.signaled 9 false), ⟨0⟩⟩, []⟩
    let ended := (External.run (Ledger.host files path).journaled "tool" [] env j).2.2
    (∀ p, env.searchPath? = some p → p = path) ∧ starts ended.events = 1 ∧
      ended.world.ran = [Utf8.encode "tool"] := by
  intro path files env j ended
  have captured : ∀ p, env.searchPath? = some p → p = path :=
    fun _ known => (Option.some.inj known).symm
  let runs := Ledger.runs files path
  let host := Ledger.host files path
  have chosen : Search.choice files (some path) (Utf8.encode "tool") = some (Utf8.encode "tool") :=
    by decide
  -- There is a start.
  let j₁ := (host.journaled.flush j).2
  let j₂ := (Search.program host.journaled.toSystem (some path) (Utf8.encode "tool") j₁).2
  let r := External.start host.journaled env "tool" [] j₁
  have found : Search.program host.journaled.toSystem env.searchPath? (Utf8.encode "tool") j₁ =
      (some (Utf8.encode "tool"), j₂) :=
    Prod.ext ((Search.program_fst (Ledger.view files path).journaled (some path) _ j₁).trans
      chosen) rfl
  have made : (host.spawn ⟨Utf8.encode "tool", "tool", []⟩ j₂.world).1 = .ok 1 := by
    have known : (Search.target files path (Utf8.encode "tool")).filter (Search.isProgram files) =
        some (Utf8.encode "tool") := by decide
    simp [host, Ledger.host, Ledger.spawn, known]
  have begun : 0 < starts r.2.events :=
    List.countP_pos_iff.mpr ⟨_, spawn_mem found (by decide) made, rfl⟩
  have later : starts ended.events = starts r.2.events := by
    have concluded : ended = (External.conclude host.journaled "tool" r.1 env r.2).2.2 := by
      rw [← External.run_of_flush rfl]
    rw [concluded, (runs.carries.conclude "tool" r.1 env r.2).1]
  rcases run_runs_found runs captured "tool" [] j with idle | ⟨file, known, count, ran⟩
  · exact absurd (later.symm.trans idle.1) (Nat.ne_of_gt begun)
  · have named := (Search.program_fst (Ledger.view files path) (some path) _ _).symm.trans known
    cases chosen.symm.trans named
    exact ⟨captured, count, ran⟩

end SupervisedShell
