/-!
# How a process ended

The word that the system hands to whoever waits for a process, and how it is put into words.

* `WaitStatus` — the raw word.
* `WaitStatus.ending` — exit code, signal, stop or continuation.
* `signalNames` — names of signals.
* `WaitStatus.text` — the words.
-/

namespace LineLint

/-- The raw status word of a process that was waited for. -/
structure WaitStatus where
  raw : Int
  deriving DecidableEq, Repr

/-- What a status word says. -/
inductive Ending where
  | exited (code : Nat)
  | killed (signal : Nat) (coreDumped : Bool)
  | stopped (signal : Nat)
  | continued
  | unrecognised (raw : Int)
  deriving DecidableEq, Repr

namespace WaitStatus

/-- The word as 32 bits. -/
def bits (s : WaitStatus) : Nat := (s.raw % Int.pow 2 32).toNat

/-- What the word says: the low seven bits hold the signal, or zero for an exit and `0x7F` for a
stop; the next byte holds the exit code or the stopping signal. -/
def ending (s : WaitStatus) : Ending :=
  let low := s.bits % 128
  let second := s.bits / 256 % 256
  if low = 0 then .exited second
  else if s.bits % 256 = 0x7F then .stopped second
  else if s.bits = 0xFFFF then .continued
  else if low = 0x7F then .unrecognised s.raw
  else .killed low (128 ≤ s.bits % 256)

/-- Whether the process exited with code zero. -/
def isSuccess (s : WaitStatus) : Bool := s.ending == .exited 0

/-- The word of a process that exited with a code. -/
def ofCode (code : Nat) : WaitStatus := ⟨(code % 256 * 256 : Nat)⟩

/-- The word of a process that a signal killed. -/
def ofSignal (signal : Nat) : WaitStatus := ⟨(signal : Nat)⟩

end WaitStatus

/-- The names of the signals from 1 on. -/
def signalNames : List String :=
  ["SIGHUP", "SIGINT", "SIGQUIT", "SIGILL", "SIGTRAP", "SIGABRT", "SIGBUS", "SIGFPE", "SIGKILL",
   "SIGUSR1", "SIGSEGV", "SIGUSR2", "SIGPIPE", "SIGALRM", "SIGTERM", "SIGSTKFLT", "SIGCHLD",
   "SIGCONT", "SIGSTOP", "SIGTSTP", "SIGTTIN", "SIGTTOU", "SIGURG", "SIGXCPU", "SIGXFSZ",
   "SIGVTALRM", "SIGPROF", "SIGWINCH", "SIGIO", "SIGPWR", "SIGSYS"]

/-- The name of a signal, in brackets after a space, if it has one. -/
def signalLabel (signal : Nat) : String :=
  match signal with
  | 0 => ""
  | n + 1 =>
    match signalNames[n]? with
    | some name => " (" ++ name ++ ")"
    | none => ""

/-- A status in words. -/
def WaitStatus.text (s : WaitStatus) : String :=
  match s.ending with
  | .exited code => s!"exit status: {code}"
  | .killed signal coreDumped =>
    s!"signal: {signal}" ++ signalLabel signal ++ if coreDumped then " (core dumped)" else ""
  | .stopped signal => s!"stopped (not terminated) by signal: {signal}" ++ signalLabel signal
  | .continued => "continued (WIFCONTINUED)"
  | .unrecognised raw => s!"unrecognised wait status: {raw} " ++
      String.ofList (['0', 'x'] ++ Nat.toDigits 16 (raw % Int.pow 2 32).toNat)

end LineLint
