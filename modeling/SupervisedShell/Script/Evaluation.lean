import SupervisedShell.Script.Simple
/-!
What commands do. Every command leaves a status. A command that comes last may take the place of the
script, and one whose status is only tested never ends a strict run.
-/

set_option autoImplicit false

namespace SupervisedShell.Script

namespace Within

/-- What is passed over at the end of a round: nothing more, the loop, or what is around it too. -/
def endRound : Act Skipping := do
  let r ← get
  match r.skipping with
  | .no => return .no
  | .breaking n => do
    set { r with skipping := if n ≤ 1 then .no else .breaking (n - 1) }
    return .breaking n
  | .continuing n => do
    if n ≤ 1 then
      set { r with skipping := .no }
      return .continuing n
    else
      set { r with skipping := .continuing (n - 1) }
      return .breaking n
  | .returning s => return .returning s

def goesOn : Skipping → Bool
  | .no | .continuing _ => true
  | _ => false

def deepen (n : Nat) : Act Unit := modify fun r => { r with loops := n }

def mostRounds : Nat := 1000000000000

def awaitChange (before : Run) (changes : Nat) : Act Unit := do
  let r : Run ← get
  if before.standsLike r then
    Act.await fun t w =>
      if w.changes = changes && !Act.isDisturbed r t w then none else some ((), w)

/-- The rounds of a loop. Where a round has changed nothing, all are the same until
something happens. -/
def rounds (x : Within) (p : Position) (until_ : Bool) (test body : Script) :
    (rounds : Nat) → (status : Nat) → Act Nat
  | 0, status => return status
  | n + 1, status => do
    let before ← get
    let changes ← Act.seen fun _ w => w.changes
    let again (status : Nat) : Act Nat := do
      awaitChange before changes
      x.rounds p until_ test body n status
    x.eval Position.test test
    let code := (← get).status
    match ← endRound with
    | .no => do
      if (code = 0) != until_ then
        x.eval p.inner body
        let status := (← get).status
        if goesOn (← endRound) then again status else return status
      else return status
    | .continuing _ => again status
    | .returning true => return code
    | _ => return status

def loop (x : Within) (p : Position) (until_ : Bool) (test body : Script) : Act Nat := do
  let outer := (← get).loops
  deepen (outer + 1)
  let status ← x.rounds p until_ test body mostRounds 0
  deepen outer
  return status

def eachOf (x : Within) (p : Position) (name : String) (body : Script) (status : Nat) :
    List String → Act Nat
  | [] => return status
  | v :: rest => do
    Act.assign name v false
    x.eval p.inner body
    let status := (← get).status
    if goesOn (← endRound) then x.eachOf p name body status rest else return status

def each (x : Within) (p : Position) (line : Nat) (name : String) (words : List Word)
    (body : Script) :
    Act Nat := do
  modify fun r => { r with line }
  let values ← x.restOf false words
  let outer := (← get).loops
  deepen (outer + 1)
  let status ← x.eachOf p name body 0 values
  deepen outer
  return status

def matchesAny (x : Within) (text : String) : List Word → Act Bool
  | [] => return false
  | w :: rest => do
    if Glob.isMatch (← Expansion.pattern x.capture w) text.toList then return true
    else x.matchesAny text rest

def chosen (x : Within) (text : String) : List (List Word × Script) → Act Script
  | [] => return .nothing
  | (ws, body) :: rest => do if ← x.matchesAny text ws then return body else x.chosen text rest

def choice (x : Within) (p : Position) (line : Nat) (word : Word)
    (cases : List (List Word × Script)) :
    Act Nat := do
  modify fun r => { r with line }
  let text ← Expansion.text x.capture word
  match ← x.chosen text cases with
  | .nothing => return 0
  | body => do
    x.eval p body
    return (← get).status

def checked (p : Position) (status : Nat) : Act Unit := do
  if (← get).isOn 'e' && !p.tested && status ≠ 0 then
    modify fun r => { r with status, exitStatus? := none }
    throw .exit

def status (x : Within) (p : Position) : Script → Act Nat
  | .nothing => return (← get).status
  | .command line assigns words redirects => x.simple p line assigns words redirects
  | .pipeline background stages => x.pipeline p background stages
  | .redirected line body rs => do
    modify fun r => { r with line }
    let ts ← Redirect.targets x.capture rs
    let refused : Act Nat := do
      checked p Act.failureStatus
      return Act.failureStatus
    Redirect.around x.capture ts false refused do
      x.eval p.inner body
      return (← get).status
  | .background line body rs => x.background line body rs
  | .subshell line body rs => x.subshell p line body rs
  | .both a b => do
    x.eval Position.test a
    let r ← get
    if r.status ≠ 0 || r.skipping ≠ .no then return r.status
    x.eval p b
    return (← get).status
  | .either a b => do
    x.eval Position.test a
    let r ← get
    if r.status = 0 || r.skipping ≠ .no then return r.status
    x.eval p b
    return (← get).status
  | .seq a b => do
    x.eval p.inner a
    let r ← get
    if r.skipping ≠ .no then return r.status
    x.eval p b
    return (← get).status
  | .negate a => do
    x.eval Position.test a
    let r ← get
    if r.skipping ≠ .no then return r.status
    return if r.status = 0 then 1 else 0
  | .branch test yes no => do
    x.eval Position.test test
    let r ← get
    if r.skipping ≠ .no then return r.status
    match if r.status = 0 then yes else no with
    | .nothing => return 0
    | body => do
      x.eval p body
      return (← get).status
  | .loop until_ test body => x.loop p until_ test body
  | .each line name words body => x.each p line name words body
  | .choice line word cases => x.choice p line word cases
  | .define name body => do
    modify fun r => { r with functions := put name body r.functions }
    return 0

def isChecked : Script → Bool
  | .command .. | .pipeline .. | .background .. | .subshell .. => true
  | _ => false

def command (x : Within) (p : Position) (s : Script) : Act Unit := do
  if !(← get).isOn 'n' then
    Act.perform (Routine.work 1)
    let status ← x.status p s
    Act.setStatus status
    x.answerSignals
    if isChecked s then checked p status
    if p.final then
      modify fun r => { r with exitStatus? := none }
      throw .exit

end Within

def eval (run : Tool → Program) : (depth : Nat) → Position → Script → Act Unit
  | 0, _, _ => Act.break_ Signal.memory
  | n + 1, p, s => Within.command ⟨run, eval run n⟩ p s

def deepestCall : Nat := 100000

def within (run : Tool → Program) : Within := ⟨run, eval run deepestCall⟩

end SupervisedShell.Script
