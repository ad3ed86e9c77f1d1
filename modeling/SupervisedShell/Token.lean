
set_option autoImplicit false

namespace SupervisedShell

def isSeparator (c : Char) : Bool :=
  c = ' ' || c = '\t' || c = '\r' || c = '\n' || c = '\x0b' || c = '\x0c'

structure ArgVector where
  tokens : List String
  deriving DecidableEq, Repr

namespace ArgVector

def limit : Nat := 100

def size (v : ArgVector) : Nat := v.tokens.length

def isEmpty (v : ArgVector) : Bool := v.tokens.isEmpty

def command? (v : ArgVector) : Option String := v.tokens.head?

def args (v : ArgVector) : List String := v.tokens.tail

end ArgVector

inductive TokenError where
  | tooMany (limit : Nat)
  deriving DecidableEq, Repr

def TokenError.message : TokenError → String
  | .tooMany limit => s!"too many arguments (limit is {limit})"

def TokenError.pieces : TokenError → List String
  | .tooMany limit => ["too many arguments (limit is ", toString limit, ")"]

@[simp] theorem TokenError.join_pieces (e : TokenError) : String.join e.pieces = e.message := by
  cases e
  rw [pieces, String.join_cons, String.join_cons, String.join_cons, String.join_nil,
    String.append_empty]
  exact String.append_assoc.symm

def words (line : List Char) : List (List Char) :=
  (line.splitOnP isSeparator).filter (fun w => !w.isEmpty)

def tokenize (line : String) : Except TokenError ArgVector :=
  let tokens := (words line.toList).map String.ofList
  if tokens.length ≤ ArgVector.limit then .ok ⟨tokens⟩ else .error (.tooMany ArgVector.limit)

end SupervisedShell
