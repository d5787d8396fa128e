import ScriptMatrix.Sandbox.Shell.Test.Basic

/-!
# `ScriptMatrix.Sandbox.Shell.Redirection`: where streams lead

Redirections are carried out from left to right before a command, and are
undone behind it. One that fails keeps the command from being carried out.
-/

set_option autoImplicit false

namespace ScriptMatrix.Sandbox.Shell

/-- What a file is opened for. -/
structure OpenMode where
  reads : Bool := false
  writes : Bool := false
  appends : Bool := false
  /-- Whether what is there goes away. -/
  truncates : Bool := false
  /-- Whether the file must not be there. -/
  isNew : Bool := false

namespace Act

/-- The stream that a path stands for, if it is one of the shell's own. -/
def streamPath? (cs : Chars) : Option Nat :=
  if cs == "/dev/stdin".toList then some 0
  else if cs == "/dev/stdout".toList then some 1
  else if cs == "/dev/stderr".toList then some 2
  else if "/dev/fd/".toList.isPrefixOf cs then natural? (cs.drop 8)
  else none

/-- Opens a path: the number of what is open then, or the reason why it
cannot be opened. -/
def openPath (cs : Chars) (mode : OpenMode) : Act (Except String Nat) := do
  match streamPath? cs with
  | some stream =>
    match ← openNumber? stream with
    | some n => return .ok n
    | none => return .error "No such file or directory"
  | none =>
    let device := fun (c : Channel) => do
      return .ok (← addOpened { channel := c, reads := true, writes := true })
    if cs == "/dev/zero".toList then return ← device .zeros
    if cs == "/dev/full".toList then return ← device .full
    if cs == "/dev/tty".toList then return .error "No such device or address"
    let t ← tree
    let path := pathOf cs
    match t.walk path with
    | .ok place =>
      match t.get? place with
      | some .directory =>
        if mode.writes then return .error "Is a directory"
        return ← device .void
      | some .void => device .void
      | some (.file _) =>
        if mode.isNew then return .error "cannot overwrite existing file"
        if mode.truncates then setTree (t.put place (.file []))
        return .ok (← addOpened ⟨.file place, 0, mode.reads, mode.writes, mode.appends⟩)
      | none => return .error "No such file or directory"
    | .error fault =>
      if !mode.writes || fault != .notFound then return .error (reasonOf fault)
      match t.write path [] with
      | .error fault => return .error (reasonOf fault)
      | .ok t' =>
        setTree t'
        match t'.walk path with
        | .ok place =>
          return .ok (← addOpened ⟨.file place, 0, mode.reads, mode.writes, mode.appends⟩)
        | .error fault => return .error (reasonOf fault)

/-- The text that the target of a redirection stands for; none if it is not
one text. -/
def targetText (r : Runner) (w : Word) : Act (Option Chars) := do
  if ← isExtended then
    match ← expandWord r w with
    | [cs] => return some cs
    | _ =>
      let written := (literal w)
      complain (written ++ ": ambiguous redirect".toList)
      return none
  else return some (← expandText r w)
where
  /-- A word as it is written, roughly. -/
  literal (w : Word) : Chars := w.flatMap fun
    | .plain cs | .quoted cs => cs
    | .parameter written _ _ _ _ => '$' :: written
    | _ => []

/-- Complains about a file that cannot be opened. -/
def complainOpen (cs : Chars) (reason : String) (creates : Bool) : Act Unit := do
  if ← isExtended then complain (cs ++ ": ".toList ++ reason.toList)
  else
    let reason :=
      if reason == "No such file or directory" then
        if creates then "Directory nonexistent" else "No such file"
      else if reason == "cannot overwrite existing file" then "File exists"
      else reason
    complain ((if creates then "cannot create " else "cannot open ").toList ++ cs ++
      ": ".toList ++ reason.toList)

/-- Makes a stream the same as another one, or closes it. -/
def copyStream (stream : Nat) (cs : Chars) : Act Bool := do
  let copied := fun (from' : Chars) => do
    match natural? from' with
    | none => return false
    | some n =>
      match ← openNumber? n with
      | some o =>
        connect stream o
        return true
      | none => return false
  let refuse := do
    if ← isExtended then complain (cs ++ ": Bad file descriptor".toList)
    else complain (cs ++ ": Bad file descriptor".toList)
    return false
  if cs == ['-'] then
    disconnect stream
    return true
  else if cs.getLast? == some '-' then
    if ← copied cs.dropLast then
      match natural? cs.dropLast with
      | some n => if n != stream then disconnect n
      | none => pure ()
      return true
    else refuse
  else if ← copied cs then return true
  else refuse

/-- A number for a new stream, not below ten. -/
def freeStream : Act Nat := do
  let used := (← process).streams.map (·.1)
  return ((List.range 200).map (10 + ·)).find? (!used.contains ·) |>.getD 210

/-- Carries out a redirection: whether that was possible. -/
def redirect (r : Runner) (redirection : Redirect) : Act Bool := do
  let ⟨stream, named, mode, target⟩ := redirection
  let extended ← isExtended
  let isInput := match mode with
    | .read | .readWrite | .sameInput | .document | .line => true
    | _ => false
  let closes : Bool := match target with
    | [.plain ['-']] => mode == .sameInput || mode == .sameOutput
    | _ => false
  let stream ← match named with
    | none => pure (stream.getD (if isInput then 0 else 1))
    | some name =>
      if closes then pure (((← text? name).bind natural?).getD 0)
      else
        let n ← freeStream
        assignText name false (digits n)
        pure n
  let opening := fun (cs : Chars) (m : OpenMode) => do
    match ← openPath cs m with
    | .ok n => return some n
    | .error reason =>
      complainOpen cs reason m.writes
      return none
  let toFile := fun (m : OpenMode) => do
    match ← targetText r target with
    | none => return false
    | some cs =>
      match ← opening cs m with
      | none => return false
      | some n =>
        connect stream n
        return true
  let bothTo := fun (cs : Chars) (m : OpenMode) => do
    match ← opening cs m with
    | none => return false
    | some n =>
      connect 1 n
      connect 2 n
      return true
  let careful ← isOn "noclobber"
  match mode with
  | .read => toFile { reads := true }
  | .write => toFile { writes := true, truncates := true, isNew := careful }
  | .overwrite => toFile { writes := true, truncates := true }
  | .append => toFile { writes := true, appends := true }
  | .readWrite => toFile { reads := true, writes := true }
  | .document | .line =>
    let text ← expandText r target
    let text := if mode == .line then text ++ ['\n'] else text
    let q ← addQueue text
    connect stream (← addOpened { channel := .queue q, reads := true })
    return true
  | .sameInput =>
    match ← targetText r target with
    | none => return false
    | some cs => copyStream stream cs
  | .sameOutput =>
    match ← targetText r target with
    | none => return false
    | some cs =>
      let isNumber := cs == ['-'] || (natural? cs).isSome ||
        (cs.getLast? == some '-' && (natural? cs.dropLast).isSome)
      if isNumber || !extended then copyStream stream cs
      else if named.isNone && stream == 1 then
        bothTo cs { writes := true, truncates := true, isNew := careful }
      else
        complain (cs ++ ": ambiguous redirect".toList)
        return false
  | .both | .appendBoth =>
    match ← targetText r target with
    | none => return false
    | some cs =>
      if mode == .both then bothTo cs { writes := true, truncates := true, isNew := careful }
      else bothTo cs { writes := true, appends := true }

/-- Carries out redirections up to one that fails: whether none did. -/
def redirectAll (r : Runner) : List Redirect → Act Bool
  | [] => return true
  | x :: rest => do if ← redirect r x then redirectAll r rest else return false

/-- The streams of variables, which stay open behind a command. -/
def namedStreams (rs : List Redirect) : Act (List Nat) :=
  rs.filterMapM fun ⟨_, named, _, _⟩ => match named with
    | some name => return (← text? name).bind natural?
    | none => return none

/-- Carries out a step with redirections, which are undone behind it. If
they fail, `failed` comes in its place. -/
def redirected (r : Runner) (rs : List Redirect) (failed step : Act Unit) : Act Unit := do
  if rs.isEmpty then step
  else
    let before := (← process).streams
    let good ← redirectAll r rs
    let restore := do
      let kept ← namedStreams rs
      alter fun p =>
        let open_ := p.streams.filter fun e => kept.contains e.1
        let closed := before.filter fun e => !kept.contains e.1
        { p with streams := open_ ++ closed }
    let all := if good then step else failed
    if ← isExtended then thenAlways all restore
    else
      let result ← attempt all
      restore
      ofResult result

end Act

end ScriptMatrix.Sandbox.Shell
