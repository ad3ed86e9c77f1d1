import SupervisedShell.Regex.Extent
import SupervisedShell.Regex.Matching
import SupervisedShell.Regex.Meaning
import SupervisedShell.Regex.Nesting
import SupervisedShell.Regex.Reader

set_option autoImplicit false

namespace SupervisedShell.Regex

inductive Refusal where
  | fault (f : Fault)
  | tooLarge
  deriving DecidableEq, Repr

def Refusal.report (pattern : String) : Refusal → String
  | .fault f => f.report pattern
  | .tooLarge => s!"Compiled regex exceeds size limit of {mostRoom} bytes."

def Term.ofShallow (text : String) : Except Fault Term := do
  let t ← Term.ofText text
  match t.tooDeep? 0 with
  | some span => throw ⟨.nesting, span, none⟩
  | none => return t

def ofText (text : String) : Except Refusal Regex :=
  match Term.ofShallow text >>= Term.meaning with
  | .error f => .error (.fault f)
  | .ok r => if r.isSmall then .ok r else .error .tooLarge

end SupervisedShell.Regex
