import Mathlib.Data.List.Pairwise
import SupervisedShell.Options
import SupervisedShell.Proofs.Number.Numeral
/-!
Options in any order. Each option of the shell is a group of arguments, and what the groups set does
not depend on their order, on how numbers are spelled, or on what a prompt looks like. A group that
is left out leaves the standard value.
-/

set_option autoImplicit false

namespace SupervisedShell

namespace Options

/-- A number for an option as it is written. It fits in 64 bits. -/
structure Amount where
  text : String
  value : Nat
  spelled : Decimal.Counts text.toList value
  small : value < 2 ^ 64

theorem Amount.unsigned_eq (n : Amount) :
    Decimal.unsigned Slots.largestNumber n.text = .ok n.value := by
  refine Decimal.unsigned_eq_ok_iff.mpr ⟨n.spelled, ?_⟩
  exact Nat.le_of_lt_succ n.small

inductive Setting where
  | timeout (n : Amount)
  | pollInterval (n : Amount)
  | prompt (text : String)
  | verbose (short : Bool)

namespace Setting

def args : Setting → List String
  | timeout n => ["--timeout-ms", n.text]
  | pollInterval n => ["--poll-interval-ms", n.text]
  | prompt text => ["--prompt", text]
  | verbose short => [if short then "-v" else "--verbose"]

def sameOption : Setting → Setting → Bool
  | timeout _, timeout _ | pollInterval _, pollInterval _ | prompt _, prompt _ | verbose _,
    verbose _ => true
  | _, _ => false

end Setting

namespace Slots

def put (s : Slots) : Setting → Slots
  | .timeout n => { s with timeoutMs := some n.value }
  | .pollInterval n => { s with pollIntervalMs := some n.value }
  | .prompt text => { s with prompt := some text }
  | .verbose _ => { s with verbose := true }

def Takes (s : Slots) : Setting → Prop
  | .timeout _ => s.timeoutMs = none
  | .pollInterval _ => s.pollIntervalMs = none
  | .prompt _ => s.prompt = none
  | .verbose _ => True

theorem Takes.put {s : Slots} {a b : Setting} (apart : a.sameOption b = false) (h : s.Takes b) :
    (s.put a).Takes b := by
  cases a <;> cases b <;> first | exact h | simp [Setting.sameOption] at apart

theorem put_put {a b : Setting} (apart : a.sameOption b = false) (s : Slots) :
    (s.put a).put b = (s.put b).put a := by
  cases a <;> cases b <;> first | rfl | simp [Setting.sameOption] at apart

theorem takes_empty (a : Setting) : empty.Takes a := by cases a <;> trivial

theorem help_put (s : Slots) (a : Setting) : (s.put a).help = s.help := by cases a <;> rfl

theorem help_foldl_put (settings : List Setting) (s : Slots) :
    (settings.foldl put s).help = s.help := by
  induction settings generalizing s with
  | nil => rfl
  | cons a settings ih => rw [List.foldl_cons, ih, help_put]

end Slots

theorem number_eq (n : Amount) : Slots.number none n.text = .ok n.value := by
  simp only [Slots.number, n.unsigned_eq]

theorem plain_of_named {arg : String} {f : Slots.Field} (named : Slots.Field.ofArg? arg = some f) :
    isHelp arg = false ∧ arg ≠ "--" ∧ isOption arg = true ∧ isVerbose arg = false := by
  have spelled : arg = "--timeout-ms" ∨ arg = "--poll-interval-ms" ∨ arg = "--prompt" := by
    by_contra none
    simp_all [Slots.Field.ofArg?]
  rcases spelled with rfl | rfl | rfl <;> decide

theorem read_named {s s' : Slots} {arg value : String} {f : Slots.Field} (helpless : s.help = false)
    (named : Slots.Field.ofArg? arg = some f) (filled : s.fill f value = .ok s')
    (rest : List String) :
    read s (arg :: value :: rest) = read s' rest := by
  obtain ⟨notHelp, notEnd, option, notVerbose⟩ := plain_of_named named
  rw [read.eq_def]
  simp [notHelp, notEnd, option, notVerbose, helpless, named, filled]

theorem read_verbose {s : Slots} {arg : String} (helpless : s.help = false)
    (spelled : arg = "--verbose" ∨ arg = "-v")
    (rest : List String) : read s (arg :: rest) = read { s with verbose := true } rest := by
  have shape : isHelp arg = false ∧ arg ≠ "--" ∧ isOption arg = true ∧
      isVerbose arg = true := by
    rcases spelled with rfl | rfl <;> decide
  obtain ⟨notHelp, notEnd, option, verbose⟩ := shape
  rw [read.eq_def]
  simp [notHelp, notEnd, option, verbose, helpless]

theorem read_setting {s : Slots} {a : Setting} (free : s.Takes a) (helpless : s.help = false)
    (rest : List String) :
    read s (a.args ++ rest) = read (s.put a) rest := by
  cases a with
  | timeout n =>
    have free : s.timeoutMs = none := free
    exact read_named helpless rfl (by simp [Slots.fill, free, number_eq, Slots.put]) rest
  | pollInterval n =>
    have free : s.pollIntervalMs = none := free
    exact read_named helpless rfl (by simp [Slots.fill, free, number_eq, Slots.put]) rest
  | prompt text =>
    have free : s.prompt = none := free
    exact read_named helpless rfl (by simp [Slots.fill, free, Slots.put]) rest
  | verbose short =>
    refine read_verbose helpless ?_ rest
    cases short
    · exact .inl rfl
    · exact .inr rfl

theorem read_settings {s : Slots} {order : List Setting} (free : ∀ a ∈ order, s.Takes a)
    (helpless : s.help = false) (apart : order.Pairwise fun a b => a.sameOption b = false) :
    read s (order.flatMap Setting.args) = .ok (order.foldl Slots.put s) := by
  induction order generalizing s with
  | nil => rfl
  | cons a order ih =>
    obtain ⟨first, others⟩ := List.forall_mem_cons.mp free
    obtain ⟨apart, later⟩ := List.pairwise_cons.mp apart
    have stillFree : ∀ b ∈ order, (s.put a).Takes b :=
      fun b known => (others b known).put (apart b known)
    rw [List.flatMap_cons, read_setting first helpless,
      ih stillFree (by rw [Slots.help_put, helpless]) later, List.foldl_cons]

/-- For each option a value, or none if its group is left out. The switch has two spellings. -/
structure Choice where
  timeout? : Option Amount
  pollInterval? : Option Amount
  prompt? : Option String
  verbose? : Option Bool

namespace Choice

def settings (c : Choice) : List Setting :=
  (c.timeout?.map .timeout).toList ++ (c.pollInterval?.map .pollInterval).toList ++
    (c.prompt?.map .prompt).toList ++ (c.verbose?.map .verbose).toList

def options (c : Choice) : Options where
  timeoutMs := (c.timeout?.map Amount.value).getD 5000
  pollIntervalMs := (c.pollInterval?.map Amount.value).getD 100
  prompt := c.prompt?.getD "sword-shell> "
  verbose := c.verbose?.isSome

theorem settings_apart (c : Choice) : c.settings.Pairwise fun a b => a.sameOption b = false := by
  obtain ⟨t, p, q, v⟩ := c
  cases t <;> cases p <;> cases q <;> cases v <;> simp [settings, Setting.sameOption]

theorem foldl_settings (c : Choice) : (c.settings.foldl Slots.put .empty).options = c.options := by
  obtain ⟨t, p, q, v⟩ := c
  cases t <;> cases p <;> cases q <;> cases v <;> rfl

end Choice

theorem sameOption_comm (a b : Setting) : a.sameOption b = b.sameOption a := by
  cases a <;> cases b <;> rfl

def Setting.Exchange (a b : Setting) : Prop := ∀ s : Slots, (s.put a).put b = (s.put b).put a

instance : Std.Symm Setting.Exchange := ⟨fun _ _ exchange s => (exchange s).symm⟩

theorem foldl_put_perm {order settings : List Setting} (reordered : order.Perm settings)
    (apart : order.Pairwise fun a b => a.sameOption b = false) (s : Slots) :
    order.foldl Slots.put s = settings.foldl Slots.put s := by
  have exchange : order.Pairwise Setting.Exchange := apart.imp fun apart s => Slots.put_put apart s
  have all := exchange.forall_of_forall fun a _ s => rfl
  exact reordered.foldl_eq' (fun a known b known' z => all known known' z) s

theorem limits_eq_ok_iff {o : Options} {limits : Limits} : o.limits = .ok limits ↔
    0 < o.timeoutMs ∧ 0 < o.pollIntervalMs ∧
      limits = ⟨.ofMillis o.timeoutMs, .ofMillis o.pollIntervalMs⟩ := by
  unfold Options.limits
  by_cases noTime : o.timeoutMs = 0
  · simp [noTime]
  · by_cases noPause : o.pollIntervalMs = 0
    · simp [noTime, noPause]
    · have positive : 0 < o.timeoutMs ∧ 0 < o.pollIntervalMs := by omega
      simp [noTime, noPause, positive, eq_comm]

end Options

structure Duration.IsMillis (d : Duration) (ms : Nat) : Prop where
  whole : d.millis = ms
  secs : d.secs = ms / 1000
  rest : d.subsecNanos = ms % 1000 * 10 ^ 6

theorem Duration.isMillis_ofMillis (ms : Nat) : (Duration.ofMillis ms).IsMillis ms := by
  constructor
  all_goals
    simp only [ofMillis, millis, secs, subsecNanos, nanosPerMilli, nanosPerSecond]
    omega

namespace Options

/-- The groups of a choice set its values in whatever order they come. A supervision with these
values has limits if and only if both are positive, and then they are as long as was said. -/
theorem ofArgs_of_settings (c : Choice) {order : List Setting} (reordered : order.Perm c.settings) :
    ofArgs (order.flatMap Setting.args) = .ok c.options ∧
      ((∃ limits, c.options.limits = .ok limits) ↔
        0 < c.options.timeoutMs ∧ 0 < c.options.pollIntervalMs) ∧
      ∀ limits, c.options.limits = .ok limits →
        limits.timeout.IsMillis c.options.timeoutMs ∧
          limits.pollInterval.IsMillis c.options.pollIntervalMs := by
  refine ⟨?_, ?_, fun limits accepted => ?_⟩
  · have apart : order.Pairwise fun a b => a.sameOption b = false := by
      refine (reordered.pairwise_iff fun {a b} apart => ?_).mpr c.settings_apart
      rwa [sameOption_comm]
    have read := read_settings (fun a _ => Slots.takes_empty a) rfl apart
    simp only [ofArgs, read, Slots.help_foldl_put]
    rw [foldl_put_perm reordered apart, ← c.foldl_settings]
    rfl
  · simp only [limits_eq_ok_iff]
    exact ⟨fun ⟨_, time, pause, _⟩ => ⟨time, pause⟩,
      fun ⟨time, pause⟩ => ⟨_, time, pause, rfl⟩⟩
  · obtain ⟨-, -, rfl⟩ := limits_eq_ok_iff.mp accepted
    exact ⟨Duration.isMillis_ofMillis _, Duration.isMillis_ofMillis _⟩

/-- A prompt that looks like an option, a number with a sign and zeros, and no group
for the pause. -/
theorem ofArgs_of_settings_backwards :
    let c : Choice :=
      ⟨some ⟨"+00250", 250, .plus
        (Decimal.digits_iff.mpr ⟨by decide, by decide⟩), by decide⟩, none,
      some "--timeout-ms", some true⟩
    c.settings.reverse.Perm c.settings ∧
      ofArgs ["-v", "--prompt", "--timeout-ms", "--timeout-ms", "+00250"] =
        .ok ⟨250, 100, "--timeout-ms", true⟩ ∧
      ∃ limits, c.options.limits = .ok limits ∧ limits.timeout.IsMillis 250 ∧
        limits.pollInterval.IsMillis 100 := by
  intro c
  have reordered : c.settings.reverse.Perm c.settings := List.reverse_perm _
  obtain ⟨set, accepted, lengths⟩ := ofArgs_of_settings c reordered
  obtain ⟨limits, given⟩ := accepted.mpr ⟨by decide, by decide⟩
  exact ⟨reordered, set, limits, given, lengths limits given⟩

end Options

end SupervisedShell
