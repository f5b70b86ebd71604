import Reporting.Files.Tree

/-!
Conversion of a rendered report into another document format: what a converter does, what can go
wrong, and the client that takes its output.
-/

namespace Reporting

/-- One who takes bytes as they come. Beyond `room` they are refused, and `blocked` refuses a flush;
both give their reasons. -/
structure Client where
  received : ByteArray
  room : Option (Nat × String)
  blocked : Option String

namespace Client

def new : Client := ⟨.empty, none, none⟩

def refusing (reason : String) : Client := ⟨.empty, some (0, reason), none⟩

def write (c : Client) (bytes : ByteArray) : Except String Unit × Client :=
  -- Where there is no room for all bytes, the first of them are taken nevertheless.
  match c.room with
  | none => (.ok (), { c with received := c.received ++ bytes })
  | some (room, reason) =>
    let left := some (room - bytes.size, reason)
    if bytes.size ≤ room then (.ok (), { c with received := c.received ++ bytes, room := left })
    else (.error reason, { c with received := c.received ++ bytes.extract 0 room, room := left })

def flush (c : Client) : Except String Unit :=
  match c.blocked with
  | none => .ok ()
  | some reason => .error reason

def send (c : Client) (bytes : ByteArray) : Except String Unit × Client :=
  match c.write bytes with
  | (.error reason, c) => (.error reason, c)
  | (.ok (), c) => (c.flush, c)

theorem send_cases (c : Client) (bytes : ByteArray) :
    (c.send bytes).2.received = c.received ++ bytes ∨
      ∃ reason taken, (c.send bytes).1 = .error reason ∧
        (c.send bytes).2.received = c.received ++ bytes.extract 0 taken := by
  unfold send write
  cases c.room with
  | none => exact .inl rfl
  | some room =>
    obtain ⟨room, reason⟩ := room
    by_cases hfits : bytes.size ≤ room
    · left
      simp only [if_pos hfits]
    · right
      refine ⟨reason, room, ?_, ?_⟩ <;> simp only [if_neg hfits]

theorem received_of_send {c c' : Client} {bytes : ByteArray} (h : c.send bytes = (.ok (), c')) :
    c'.received = c.received ++ bytes := by
  have hcases := c.send_cases bytes
  rw [h] at hcases
  rcases hcases with hall | ⟨reason, taken, herror, -⟩
  · exact hall
  · cases herror

theorem exists_received_send (c : Client) (bytes : ByteArray) :
    ∃ taken, (c.send bytes).2.received = c.received ++ bytes.extract 0 taken := by
  rcases c.send_cases bytes with hall | ⟨reason, taken, -, hpart⟩
  · exact ⟨bytes.size, by rw [hall, ByteArray.extract_zero_size]⟩
  · exact ⟨taken, hpart⟩

end Client

inductive Status where
  | exited (code : Nat)
  | killed (signal : Nat)
  deriving DecidableEq, Repr

namespace Status

def signalNames : List (Nat × String) :=
  [(1, "SIGHUP"), (2, "SIGINT"), (3, "SIGQUIT"), (4, "SIGILL"), (5, "SIGTRAP"), (6, "SIGABRT"),
    (7, "SIGBUS"), (8, "SIGFPE"), (9, "SIGKILL"), (10, "SIGUSR1"), (11, "SIGSEGV"), (12, "SIGUSR2"),
    (13, "SIGPIPE"), (14, "SIGALRM"), (15, "SIGTERM"), (16, "SIGSTKFLT"), (17, "SIGCHLD"),
    (18, "SIGCONT"), (19, "SIGSTOP"), (20, "SIGTSTP"), (21, "SIGTTIN"), (22, "SIGTTOU"),
    (23, "SIGURG"), (24, "SIGXCPU"), (25, "SIGXFSZ"), (26, "SIGVTALRM"), (27, "SIGPROF"),
    (28, "SIGWINCH"), (29, "SIGIO"), (30, "SIGPWR"), (31, "SIGSYS")]

def text : Status → String
  | exited code => "exit status: " ++ Text.ofNat code
  | killed signal =>
    let name :=
      match signalNames.lookup signal with
      | some name => " (" ++ name ++ ")"
      | none => ""
    "signal: " ++ Text.ofNat signal ++ name

end Status

inductive ConvertError where
  | files (reason : String)
  | notStarted (command reason : String)
  /-- The program ran but did not succeed; `said` is what it wrote to its error output. -/
  | failed (command : String) (status : Status) (said : String)
  deriving DecidableEq, Repr

def ConvertError.message : ConvertError → String
  | files reason => "I/O error during conversion: " ++ reason
  | notStarted command reason => "Failed to start converter '" ++ command ++ "': " ++ reason
  | failed command status said =>
    "Converter '" ++ command ++ "' exited with " ++ status.text ++ ": " ++ said

/-- Turns rendered text into a document, either as a file in a directory or for a client. -/
structure Converter where
  toFile : String → String → Tree → Except ConvertError (Option String) × Tree
  toClient : String → Client → Tree → Except ConvertError Unit × Client × Tree

end Reporting
