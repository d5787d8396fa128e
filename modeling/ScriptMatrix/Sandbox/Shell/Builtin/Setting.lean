import ScriptMatrix.Sandbox.Shell.Builtin.Declare

/-!
# `ScriptMatrix.Sandbox.Shell.Builtin.Setting`: options of the shell

Options are switched on by a letter or a name. The same command sets the
arguments, and without any it shows all variables. Here are as well the
commands for aliases and for the options that a script is given.
-/

set_option autoImplicit false

namespace ScriptMatrix.Sandbox.Shell

/-- The names of all options of a dialect. -/
def optionNames : Dialect → List String
  | .extended => ["allexport", "braceexpand", "emacs", "errexit", "errtrace", "functrace",
      "hashall", "histexpand", "history", "ignoreeof", "interactive-comments", "keyword",
      "monitor", "noclobber", "noexec", "noglob", "nolog", "notify", "nounset", "onecmd",
      "physical", "pipefail", "posix", "privileged", "verbose", "vi", "xtrace"]
  | .plain => ["errexit", "noglob", "ignoreeof", "interactive", "monitor", "noexec", "stdin",
      "xtrace", "verbose", "vi", "emacs", "noclobber", "allexport", "notify", "nounset",
      "nolog", "debug"]

/-- The letters of the options of the plain dialect. -/
def plainLetters : Chars := "efIimnsxvVECabu".toList

/-- The names of the other options that the extended dialect knows. -/
def extraNames : List String := [
  "assoc_expand_once", "autocd", "cdable_vars", "cdspell", "checkhash",
  "checkjobs", "checkwinsize", "cmdhist", "compat31", "compat32", "compat40", "compat41",
  "compat42", "compat43", "compat44", "complete_fullquote", "direxpand", "dirspell", "dotglob",
  "execfail", "expand_aliases", "extdebug", "extglob", "extquote", "failglob", "force_fignore",
  "globasciiranges", "globskipdots", "globstar", "gnu_errfmt", "histappend", "histreedit",
  "histverify", "hostcomplete", "huponexit", "inherit_errexit", "interactive_comments",
  "lastpipe", "lithist", "localvar_inherit", "localvar_unset", "login_shell", "mailwarn",
  "no_empty_cmd_completion", "nocaseglob", "nocasematch", "noexpand_translation", "nullglob",
  "patsub_replacement", "progcomp", "progcomp_alias", "promptvars", "restricted_shell",
  "shift_verbose", "sourcepath", "varredir_close", "xpg_echo"]

/-- The other options that are on from the start. -/
def defaultExtras : List String := ["checkwinsize", "cmdhist", "complete_fullquote", "extquote",
  "force_fignore", "globasciiranges", "globskipdots", "hostcomplete", "interactive_comments",
  "patsub_replacement", "progcomp", "promptvars", "sourcepath"]

namespace Act

/-- Shows the options, as a table or as the commands that set them. -/
def showOptions (asCommands : Bool) : Act Unit := do
  let p ← process
  for name in optionNames p.dialect do
    let on := p.options.contains name
    if asCommands then
      write 1 ((if on then "set -o " else "set +o ").toList ++ name.toList ++ ['\n'])
    else
      let width := if p.dialect == .extended then 15 else 15
      let gap := List.replicate (width - name.length) ' '
      let middle : Chars := if p.dialect == .extended then ['\t'] else [' ']
      write 1 (name.toList ++ gap ++ middle ++ (if on then "on\n" else "off\n").toList)

/-- Complains about an option of `set`: the status. -/
def complainSetting (sign : Char) (option : Chars) (isName : Bool) : Act Nat := do
  if ← isExtended then
    if isName then complainOf "set".toList (option ++ ": invalid option name".toList)
    else complainOf "set".toList ([sign] ++ option ++ ": invalid option".toList)
    return 2
  else
    complainOf "set".toList ("Illegal option ".toList ++ [sign] ++
      (if isName then "o ".toList else []) ++ option)
    giveUp

/-- Goes through the arguments of `set`: the status, and the new arguments
of the script, if there are any. -/
def setFrom : Nat → List Chars → Act (Nat × Option (List Chars))
  | 0, _ => return (0, none)
  | fuel + 1, args => do
    let d := (← process).dialect
    match args with
    | [] => return (0, none)
    | ['-', '-'] :: rest => return (0, some rest)
    | ['-'] :: rest =>
      switch "verbose" false
      switch "xtrace" false
      return (0, if rest.isEmpty then none else some rest)
    | (sign :: c :: cs) :: rest =>
      if sign == '-' || sign == '+' then
        let on := sign == '-'
        let mut rest := rest
        for letter in c :: cs do
          if letter == 'o' then
            match rest with
            | name :: more =>
              let name := String.ofList name
              if (optionNames d).contains name then
                switch name on
                rest := more
              else return (← complainSetting sign name.toList true, none)
            | [] => showOptions (!on)
          else
            let known := match d with
              | .extended => true
              | .plain => plainLetters.contains letter
            match if known then optionLetters.lookup letter else none with
            | some name => switch name on
            | none =>
              if known && d == .plain then pure ()
              else return (← complainSetting sign [letter] false, none)
        setFrom fuel rest
      else return (0, some args)
    | _ => return (0, some args)

/-- Sets options and arguments. -/
def set_ (args : List Chars) : Act Nat := do
  if args.isEmpty then
    for (name, v) in ← sortedVisible do
      let value : Option Chars ← match v.content with
        | some (.text cs) => do
          if ← isExtended then pure (some (quoteIfNeeded cs)) else pure (some (quoteSingle cs))
        | some (.indexed es) => pure (some (elementsText (es.map fun e => (digits e.1, e.2)) false))
        | some (.keyed es) => pure (some (elementsText es true))
        | none => pure none
      match value with
      | some cs => write 1 (name ++ ['='] ++ cs ++ ['\n'])
      | none => pure ()
    return 0
  let (status, arguments) ← setFrom (args.length + 1) args
  match arguments with
  | some as => alter fun p => { p with arguments := as }
  | none => pure ()
  return status

/-- Switches other options on or off, or asks for them. -/
def shopt (args : List Chars) : Act Nat := do
  match Options.read "opqsu" "" args with
  | .error e => complainOptions "shopt".toList e
  | .ok o =>
    if o.has 'o' then
      let mut status := 0
      for name in o.arguments do
        let name := String.ofList name
        if !(optionNames .extended).contains name then status := 1
        else if o.has 's' then switch name true
        else if o.has 'u' then switch name false
        else if !(← isOn name) then status := 1
      return status
    let names := if o.arguments.isEmpty then extraNames else o.arguments.map String.ofList
    let mut status := 0
    for name in names do
      if !extraNames.contains name then
        complainOf "shopt".toList (name.toList ++ ": invalid shell option name".toList)
        status := 1
      else if (o.has 's' || o.has 'u') && !o.arguments.isEmpty then
        alter fun p =>
          let others := p.extras.filter (· != name)
          { p with extras := if o.has 's' then name :: others else others }
      else
        let on ← hasExtra name
        if !on && !o.arguments.isEmpty then status := 1
        let shown := if o.has 's' then on else if o.has 'u' then !on else true
        if !o.has 'q' && shown then
          if o.has 'p' then
            write 1 ((if on then "shopt -s " else "shopt -u ").toList ++ name.toList ++ ['\n'])
          else
            let gap := List.replicate (20 - name.length) ' '
            write 1 (name.toList ++ gap ++ ['\t'] ++ (if on then "on\n" else "off\n").toList)
    return status

/-- Whether a command of the extended dialect can be given a name. -/
def isAliasName (cs : Chars) : Bool :=
  !cs.isEmpty && cs.all fun c =>
    !isSpace c && !("()<>;&|\\\x60\x27\"$/".toList).contains c

/-- Gives commands other names, or shows those. -/
def alias_ (args : List Chars) : Act Nat := do
  let command := "alias".toList
  let extended ← isExtended
  match if extended then Options.read "p" "" args else .ok ⟨[], args⟩ with
  | .error e => complainOptions command e
  | .ok o =>
    let shown := fun (name text : Chars) =>
      (if extended then "alias ".toList else []) ++ name ++ ['='] ++ quoteSingle text ++ ['\n']
    if o.arguments.isEmpty then
      let all := (← process).aliases
      for name in inOrder (all.map (·.1)) do
        write 1 (shown name ((all.lookup name).getD []))
      return 0
    let mut status := 0
    for a in o.arguments do
      let name := a.takeWhile (· != '=')
      if name.length < a.length && !name.isEmpty then
        if extended && !isAliasName name then
          complainOf command (Char.ofNat 96 :: name ++ "': invalid alias name".toList)
          status := 1
        else alter fun p => { p with
          aliases := (name, a.drop (name.length + 1)) :: p.aliases.filter (·.1 != name) }
      else
        match (← process).aliases.lookup a with
        | some text => write 1 (shown a text)
        | none =>
          complainOf command (a ++ ": not found".toList)
          status := 1
    return status

/-- Takes other names away. -/
def unalias (args : List Chars) : Act Nat := do
  let command := "unalias".toList
  match Options.read "a" "" args with
  | .error e => complainOptions command e
  | .ok o =>
    if o.has 'a' then
      alter fun p => { p with aliases := [] }
      return 0
    if o.arguments.isEmpty && (← isExtended) then
      complain "unalias: usage: unalias [-a] name [name ...]".toList
      return 2
    let mut status := 0
    for a in o.arguments do
      if (← process).aliases.any (·.1 == a) then
        alter fun p => { p with aliases := p.aliases.filter (·.1 != a) }
      else
        complainOf command (a ++ ": not found".toList)
        status := 1
    return status

/-- Takes the next option from the arguments of the script. -/
def getopts (args : List Chars) : Act Nat := do
  match args with
  | known :: name :: given =>
    let p ← process
    let arguments := if given.isEmpty then p.arguments else given
    let silent := known.head? == some ':'
    let index := match (← text? "OPTIND".toList).bind natural? with
      | some (n + 1) => n
      | _ => 0
    let finish := fun (index place : Nat) (status : Nat) => do
      assignText "OPTIND".toList false (digits (index + 1))
      alter fun p => { p with optionPlace := place }
      return status
    let ending := fun (index : Nat) => do
      assignText name false ['?']
      finish index 0 1
    match arguments[index]? with
    | none => ending index
    | some a =>
      let place := if p.optionPlace == 0 then 1 else p.optionPlace
      if a == ['-', '-'] && place == 1 then ending (index + 1)
      else if a.head? != some '-' || a.length < 2 then ending index
      else
        match a[place]? with
        | none => ending (index + 1)
        | some c =>
          let isLast := a.length ≤ place + 1
          let next : Nat × Nat := if isLast then (index + 1, 0) else (index, place + 1)
          let at' := known.findIdx? (· == c)
          match if c == ':' then none else at' with
          | none =>
            assignText name false ['?']
            if silent then assignText "OPTARG".toList false [c]
            else
              forget "OPTARG".toList
              if ← isExtended then complain ("illegal option -- ".toList ++ [c])
              else write 2 ("Illegal option -".toList ++ [c, '\n'])
            finish next.1 next.2 0
          | some i =>
            if known[i + 1]? == some ':' then
              if !isLast then
                assignText name false [c]
                assignText "OPTARG".toList false (a.drop (place + 1))
                finish (index + 1) 0 0
              else
                match arguments[index + 1]? with
                | some value =>
                  assignText name false [c]
                  assignText "OPTARG".toList false value
                  finish (index + 2) 0 0
                | none =>
                  if silent then
                    assignText name false [':']
                    assignText "OPTARG".toList false [c]
                  else
                    assignText name false ['?']
                    forget "OPTARG".toList
                    if ← isExtended then
                      complain ("option requires an argument -- ".toList ++ [c])
                    else write 2 ("No arg for -".toList ++ [c] ++ " option\n".toList)
                  finish (index + 1) 0 0
            else
              assignText name false [c]
              if ← isExtended then forget "OPTARG".toList else assignText "OPTARG".toList false []
              finish next.1 next.2 0
  | _ =>
    complainOf "getopts".toList "usage: getopts optstring name [arg ...]".toList
    return 2

end Act

end ScriptMatrix.Sandbox.Shell
