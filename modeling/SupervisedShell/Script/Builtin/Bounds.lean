import SupervisedShell.Script.Builtin.Operand

set_option autoImplicit false

namespace SupervisedShell.Script.Builtin

namespace Bound

/-- A resource as it is listed. -/
structure Row where
  letter : Char
  name : String
  resource : Resource
  unit : Nat

def rows : List Row :=
  [⟨'t', "time(seconds)", .time, 1⟩, ⟨'f', "file(blocks)", .fileSize, 512⟩,
    ⟨'d', "data(kbytes)", .data, 1024⟩, ⟨'s', "stack(kbytes)", .stack, 1024⟩,
    ⟨'c', "coredump(blocks)", .core, 512⟩, ⟨'m', "memory(kbytes)", .memory, 1024⟩,
    ⟨'l', "locked memory(kbytes)", .lockedMemory, 1024⟩, ⟨'p', "process", .processes, 1⟩,
    ⟨'n', "nofiles", .files, 1⟩, ⟨'v', "vmemory(kbytes)", .addresses, 1024⟩,
      ⟨'w', "locks", .locks, 1⟩,
    ⟨'r', "rtprio", .priority, 1⟩]

/-- The bound in force, the highest one, or both. -/
structure Side where
  soft : Bool
  hard : Bool

def text (side : Side) (row : Row) (c : Ceiling) : String :=
  match if side.soft then c.soft? else c.hard? with
  | none => "unlimited"
  | some n => toString (n / row.unit)

def rounds : Nat := 18446744073709551616

def value (row : Row) (s : String) : Act (Option Nat) := do
  if s = "unlimited" then return none
  else if !s.toList.all Char.isDigit then Act.fail "bad number"
  else
    let n := s.toList.foldl (fun n c => n * 10 + (c.toNat - '0'.toNat)) 0 * row.unit % rounds
    return if n = rounds - 1 then none else some n

end Bound

def ulimit : Command := fun args => do
  let letters := ['H', 'S', 'a'] ++ Bound.rows.map (·.letter)
  let (given, operands) ← options ⟨letters, []⟩ none args
  let letters := given.map (·.1)
  let side : Bound.Side :=
    match (letters.filter ['H', 'S'].contains).getLast? with
    | some 'H' => ⟨false, true⟩
    | some _ => ⟨true, false⟩
    | none => ⟨true, true⟩
  let all := letters.contains 'a'
  let asked := (letters.filter fun c => c ≠ 'H' && c ≠ 'S' && c ≠ 'a').getLastD 'f'
  let row := (Bound.rows.find? (·.letter = asked)).getD ⟨'f', "", .fileSize, 512⟩
  let ceiling (row : Bound.Row) : Act Ceiling := Act.seen fun t w => w.ceiling t.pid row.resource
  match operands with
  | [] => do
    if all then
      Bound.rows.forM fun row => do
        let padding := String.ofList (List.replicate (20 - row.name.length) ' ')
        Act.say (row.name ++ padding ++ " " ++ Bound.text side row (← ceiling row) ++ "\n")
    else Act.say (Bound.text side row (← ceiling row) ++ "\n")
    return 0
  | s :: rest => do
    if all || !rest.isEmpty then Act.fail "too many arguments"
    let value? ← Bound.value row s
    let old ← ceiling row
    let new : Ceiling :=
      ⟨if side.soft then value? else old.soft?, if side.hard then value? else old.hard?⟩
    match ← Act.call fun t w => w.setCeiling t.pid row.resource new with
    | .ok () => return 0
    | .error e => Act.fail s!"error setting limit ({Program.reason e})"

end SupervisedShell.Script.Builtin
