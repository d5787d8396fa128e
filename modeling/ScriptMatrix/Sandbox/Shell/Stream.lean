import ScriptMatrix.Sandbox.Shell.State

/-!
# `ScriptMatrix.Sandbox.Shell.Stream`: reading and writing

Commands read from numbered streams and write to them. Several streams may
lead to the same opened file and then share their place in it. A pipe
keeps what is written to it until it is read.
-/

set_option autoImplicit false

namespace ScriptMatrix.Sandbox.Shell

/-- The numbers of the signals by name, without the first letters that all
names share. -/
def signalNames : List (String × Nat) := [
  ("HUP", 1), ("INT", 2), ("QUIT", 3), ("ILL", 4), ("TRAP", 5), ("ABRT", 6), ("BUS", 7),
  ("FPE", 8), ("KILL", 9), ("USR1", 10), ("SEGV", 11), ("USR2", 12), ("PIPE", 13), ("ALRM", 14),
  ("TERM", 15), ("STKFLT", 16), ("CHLD", 17), ("CONT", 18), ("STOP", 19), ("TSTP", 20),
  ("TTIN", 21), ("TTOU", 22), ("URG", 23), ("XCPU", 24), ("XFSZ", 25), ("VTALRM", 26),
  ("PROF", 27), ("WINCH", 28), ("IO", 29), ("PWR", 30), ("SYS", 31)]

/-- The signal of a pipe that nobody reads. -/
def brokenPipe : Nat := 13

/-- How much a pipe may hold before its writer is stopped. -/
def queueLimit : Nat := 1048576

/-- The reason why a file operation fails, as shells put it. -/
def reasonOf : Fault → String
  | .notFound => "No such file or directory"
  | .permissionDenied => "Permission denied"
  | .exists => "File exists"
  | .notDirectory => "Not a directory"
  | .isDirectory => "Is a directory"
  | .nameTooLong => "File name too long"
  | .nulInName => "Invalid argument"
  | .notUtf8 => "Invalid argument"
  | .other text => text

namespace Queue

/-- Adds text. -/
def add (q : Queue) (cs : Chars) : Queue :=
  if cs.isEmpty then q else { q with back := cs :: q.back, size := q.size + cs.length }

/-- All text at the front. -/
def settled (q : Queue) : Queue :=
  if q.back.isEmpty then q else { q with front := q.front ++ q.back.reverse.flatten, back := [] }

end Queue

namespace Act

/-- What is open behind a stream, by its number. -/
def openNumber? (stream : Nat) : Act (Option Nat) := return (← process).streams.lookup stream

/-- What is open behind a number. -/
def opened? (n : Nat) : Act (Option Opened) := return (← system).opened[n]?

/-- Changes what is open behind a number. -/
def alterOpened (n : Nat) (f : Opened → Opened) : Act Unit :=
  alterSystem fun s => { s with opened := s.opened.modify n f }

/-- Opens something: its number. -/
def addOpened (o : Opened) : Act Nat := do
  let n := (← system).opened.size
  alterSystem fun s => { s with opened := s.opened.push o }
  return n

/-- Makes room to keep text, with some in it: its number. -/
def addQueue (cs : Chars) : Act Nat := do
  let n := (← system).queues.size
  alterSystem fun s => { s with queues := s.queues.push (({} : Queue).add cs) }
  return n

/-- Connects a stream. -/
def connect (stream n : Nat) : Act Unit := alter fun p =>
  { p with streams := (stream, n) :: p.streams.filter (·.1 != stream) }

/-- Closes a stream. -/
def disconnect (stream : Nat) : Act Unit := alter fun p =>
  { p with streams := p.streams.filter (·.1 != stream) }

/-- The bytes of the file at a place. -/
def bytesAt (place : Location) : Act Bytes := do
  match (← system).tree.get? place with
  | some (.file b) => return b
  | _ => return []

/-- Writes text to what is open behind a number; the reason, if that is not
possible. -/
def writeOpened (n : Nat) (cs : Chars) : Act (Option String) := do
  match ← opened? n with
  | none => return some "Bad file descriptor"
  | some o =>
    if !o.writes then return some "Bad file descriptor"
    match o.channel with
    | .shown =>
      if !cs.isEmpty then alterSystem fun s => { s with shown := (s.now, cs) :: s.shown }
      return none
    | .void | .zeros => return none
    | .full => return if cs.isEmpty then none else some "No space left on device"
    | .queue q =>
      match (← system).queues[q]? with
      | none => return none
      | some held =>
        if queueLimit < held.size then throw (.killed brokenPipe)
        alterSystem fun s => { s with queues := s.queues.modify q (·.add cs) }
        return none
    | .file place =>
      let before ← bytesAt place
      let start := if o.appends then before.length else o.offset
      let new := toBytes cs
      let after :=
        if start == before.length then before ++ new
        else before.take start ++ List.replicate (start - before.length) 0 ++ new ++
          before.drop (start + new.length)
      alterSystem fun s => { s with tree := s.tree.put place (.file after) }
      alterOpened n fun o => { o with offset := start + new.length }
      return none

/-- Writes text to a stream; the reason, if that is not possible. -/
def write? (stream : Nat) (cs : Chars) : Act (Option String) := do
  match ← openNumber? stream with
  | none => return some "Bad file descriptor"
  | some n => writeOpened n cs

/-- Writes text to a stream, if that is possible. -/
def write (stream : Nat) (cs : Chars) : Act Unit := do let _ ← write? stream cs

/-- A complaint with the name of the script and the line in front, and in
the plain dialect the name of the command. -/
def complainFor (command message : Chars) : Act Unit := do
  let p ← process
  let front := match p.dialect with
    | .extended =>
      (if p.inside.isEmpty then p.name else p.inside) ++ ": line ".toList ++ digits p.line
    | .plain =>
      p.name ++ ": ".toList ++ digits p.line ++
        (if command.isEmpty then [] else ": ".toList ++ command)
  write 2 (front ++ ": ".toList ++ message ++ ['\n'])

/-- A complaint about what is being done. -/
def complain (message : Chars) : Act Unit := do complainFor (← process).inside message

/-- Gives up what is being done. -/
def giveUp {α : Type} : Act α := do
  status (if ← isExtended then 1 else 2)
  throw (.abandoned false)

/-- Gives up because something has no value, which in the extended dialect
ends the shell. -/
def giveUpShell {α : Type} : Act α := do
  let p ← process
  match p.dialect with
  | .extended => throw (.exited (if p.command && p.level == 0 then 127 else 1))
  | .plain => giveUp

/-- Reads from what is open behind a number up to a limit or a character
that stops it: the text, and that character, which is passed over. -/
def takeOpened (n : Nat) (stops : Char → Bool) (limit : Option Nat) :
    Act (Chars × Option Char) := do
  match ← opened? n with
  | none => return ([], none)
  | some o =>
    if !o.reads then return ([], none)
    let cut := fun (cs : Chars) => match limit with
      | some k => cs.take k
      | none => cs
    let stopped := fun (text : Chars) (next : Option Char) =>
      next.filter fun c => stops c && limit.all (text.length < ·)
    match o.channel with
    | .shown | .void => return ([], none)
    | .full | .zeros => return (List.replicate (limit.getD 4096) '\x00', none)
    | .queue q =>
      match (← system).queues[q]? with
      | none => return ([], none)
      | some held =>
        let held := held.settled
        let text := cut (held.front.takeWhile (!stops ·))
        let after := held.front.drop text.length
        let found := stopped text after.head?
        let after := if found.isSome then after.drop 1 else after
        alterSystem fun s => { s with
          queues := s.queues.modify q fun _ => ⟨after, [], after.length⟩ }
        return (text, found)
    | .file place =>
      let rest := (← bytesAt place).drop o.offset
      let text := cut (ofBytes (rest.takeWhile fun b => !stops (Char.ofNat b.toNat)))
      let next := (rest.drop text.length).head?
      let found := stopped text (next.map fun b => Char.ofNat b.toNat)
      alterOpened n fun o =>
        { o with offset := o.offset + text.length + if found.isSome then 1 else 0 }
      return (text, found)

/-- Whether a stream can be read. -/
def canRead (stream : Nat) : Act Bool := do
  match ← openNumber? stream with
  | none => return false
  | some n => return ((← opened? n).map (·.reads)).getD false

/-- Reads from a stream up to a limit or a character that stops it: the
text, and that character, which is passed over. -/
def takeUntil (stream : Nat) (stops : Char → Bool) (limit : Option Nat) :
    Act (Chars × Option Char) := do
  match ← openNumber? stream with
  | none => return ([], none)
  | some n => takeOpened n stops limit

/-- Reads all that is left of a stream. -/
def takeAll (stream : Nat) : Act Chars :=
  return (← takeUntil stream (fun _ => false) none).1

/-- Puts back what has been read last from a stream, if it leads to a file,
so that it can be read again. -/
def putBack (stream count : Nat) : Act Unit := do
  match ← openNumber? stream with
  | none => return ()
  | some n =>
    match ← opened? n with
    | some { channel := .file _, .. } =>
      alterOpened n fun o => { o with offset := o.offset - count }
    | _ => return ()

/-- A step whose output is kept, and the text of it. What the step changes
stays changed. -/
def capturing {α : Type} (step : Act α) : Act (α × Chars) := do
  let q ← addQueue []
  let n ← addOpened { channel := .queue q, writes := true }
  let before := (← process).streams
  connect 1 n
  let r ← attempt step
  alter fun p => { p with streams := before }
  let text := match (← system).queues[q]? with
    | some held => held.settled.front
    | none => []
  alterSystem fun s => { s with queues := s.queues.modify q fun _ => {} }
  return (← ofResult r, text)

end Act

end ScriptMatrix.Sandbox.Shell
