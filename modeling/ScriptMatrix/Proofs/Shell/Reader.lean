import ScriptMatrix.Proofs.Text.Utf8
import ScriptMatrix.Shell.Name

/-!
# `ScriptMatrix.Proofs.Shell.Reader`: how a shell reads simple lines

What a shell makes of comments, empty lines, assignments and `echo` lines,
byte by byte. `readWord` takes one word apart by the rules of quoting:
everything between two single quotes is literal, and outside of quotes a
backslash makes the next byte literal. A word that needs more of the shell
than that is refused, so a word that is read is read as any shell reads it.

`readHeader` reads lines up to the first `echo`: the assignments in their
order, the word that is echoed, and the bytes behind that line.
`Header.environment` is what the assignments leave in the variables.
-/

set_option autoImplicit false

namespace ScriptMatrix.Shell

open Text (byteOf)

/-- How the next byte of a word is read: bare, between two single quotes, or behind a
backslash. -/
inductive Quoting where
  | bare
  /-- Between two single quotes. -/
  | single
  /-- Behind a backslash. -/
  | escaped
  deriving Repr, DecidableEq

/-- A byte that ends a word outside of quotes. A newline ends the line too. -/
def endsWord (b : UInt8) : Bool :=
  b == byteOf ' ' || b == byteOf '\t' || b == byteOf '\n'

/-- A byte that means more than itself outside of quotes. Some of them do so only at the
start of a word; they are refused everywhere. -/
def isSpecial (b : UInt8) : Bool := ("|&;<>()$`\"*?[#~=%".toList.map byteOf).contains b

/-- Puts bytes in front of a word that has been read. -/
def prepend (bs : Bytes) (read : Bytes × Bytes) : Bytes × Bytes := (bs ++ read.1, read.2)

/-- Reads the rest of a word: what it stands for, and the bytes behind it. Without a closing
quote there is no word. -/
def readWord : Quoting → Bytes → Option (Bytes × Bytes)
  | .bare, [] => some ([], [])
  | .bare, c :: rest =>
    if c = byteOf '\'' then readWord .single rest
    else if c = byteOf '\\' then readWord .escaped rest
    else if endsWord c then some ([], c :: rest)
    else if isSpecial c then none
    else (readWord .bare rest).map (prepend [c])
  | .single, [] => none
  | .single, c :: rest =>
    if c = byteOf '\'' then readWord .bare rest
    else (readWord .single rest).map (prepend [c])
  | .escaped, [] => none
  | .escaped, c :: rest =>
    if c = byteOf '\n' then none
    else (readWord .bare rest).map (prepend [c])

/-- Reads a word that is the last of its line, and the end of the line. -/
def readLastWord (bs : Bytes) : Option (Bytes × Bytes) :=
  match readWord .bare bs with
  | none => none
  | some (word, []) => some (word, [])
  | some (word, c :: rest) => if c = byteOf '\n' then some (word, rest) else none

/-- The character that a byte below 128 stands for. Names are looked for with it. -/
def charOf (b : UInt8) : Char := Char.ofNat b.toNat

/-- What a line does. -/
inductive Line where
  /-- A comment or an empty line. -/
  | nothing
  | assignment (name value : Bytes)
  | echo (word : Bytes)
  deriving Repr, DecidableEq

/-- Reads a line that begins with a name: an assignment, or `echo` and a word. An `echo` of
nothing, or of more than one word, is refused. -/
def readCommand (bs : Bytes) : Option (Line × Bytes) :=
  let name := bs.takeWhile fun b => isNameChar (charOf b)
  match bs.dropWhile fun b => isNameChar (charOf b) with
  | [] => none
  | c :: rest =>
    if c = byteOf '=' then
      if isName (name.map charOf) then
        (readLastWord rest).map fun (value, behind) => (.assignment name value, behind)
      else none
    else if c = byteOf ' ' && name = Text.encode "echo" && !rest.head?.all endsWord then
      (readLastWord rest).map fun (word, behind) => (.echo word, behind)
    else none

/-- Reads a line, with its end. A comment goes to the next newline, or to the end of the
text. -/
def readLine : Bytes → Option (Line × Bytes)
  | [] => none
  | c :: rest =>
    if c = byteOf '\n' then some (.nothing, rest)
    else if c = byteOf '#' then
      some (.nothing, (rest.dropWhile (· != byteOf '\n')).drop 1)
    else readCommand (c :: rest)

/-! ### Reading gets on -/

/-- A word leaves no more bytes than there were, however it begins. -/
theorem length_readWord {q : Quoting} {bs : Bytes} {read : Bytes × Bytes}
    (h : readWord q bs = some read) : read.2.length ≤ bs.length := by
  fun_induction readWord q bs generalizing read with
  | case1 | case4 =>
    -- The word ends here.
    cases h
    exact Nat.le_refl _
  | case2 | case3 | case8 =>
    -- The byte changes how the next one is read.
    rename_i ih
    exact Nat.le_succ_of_le (ih h)
  | case6 | case9 | case12 =>
    -- The byte is literal.
    rename_i ih
    obtain ⟨read', hread', rfl⟩ := Option.map_eq_some_iff.mp h
    have hle := ih hread'
    exact Nat.le_succ_of_le hle
  | case5 | case7 | case10 | case11 => cases h

/-- The last word of a line leaves no more bytes than there were. -/
theorem length_readLastWord {bs word rest : Bytes} (h : readLastWord bs = some (word, rest)) :
    rest.length ≤ bs.length := by
  unfold readLastWord at h
  split at h
  · cases h
  · cases h
    exact Nat.zero_le _
  · rename_i hread
    split at h
    · cases h
      exact Nat.le_of_succ_le (length_readWord hread)
    · cases h

/-- A command takes at least one byte, that behind its name. -/
theorem length_readCommand {bs rest : Bytes} {line : Line}
    (h : readCommand bs = some (line, rest)) : rest.length < bs.length := by
  unfold readCommand at h
  have hdrop : (bs.dropWhile fun b => isNameChar (charOf b)).length ≤ bs.length :=
    (List.dropWhile_sublist _).length_le
  generalize bs.dropWhile (fun b => isNameChar (charOf b)) = behind at h hdrop
  cases behind with
  | nil => cases h
  | cons c after =>
    have hword : ∀ (f : Bytes → Line),
        (readLastWord after).map (fun read => (f read.1, read.2)) = some (line, rest) →
        rest.length < bs.length := fun f hmap => by
      obtain ⟨read, hread, heq⟩ := Option.map_eq_some_iff.mp hmap
      cases heq
      exact Nat.lt_of_le_of_lt (length_readLastWord hread) hdrop
    dsimp only at h
    split at h
    · split at h
      · exact hword _ h
      · cases h
    · split at h
      · exact hword _ h
      · cases h

/-- A line takes at least one byte. The recursion of `readHeader` ends by this. -/
theorem length_readLine {bs rest : Bytes} {line : Line} (h : readLine bs = some (line, rest)) :
    rest.length < bs.length := by
  cases bs with
  | nil => cases h
  | cons c behind =>
    rw [readLine] at h
    split at h
    · cases h
      exact Nat.lt_succ_self _
    · split at h
      · cases h
        rw [List.length_drop]
        have hdrop : (behind.dropWhile (· != byteOf '\n')).length ≤ behind.length :=
          (List.dropWhile_sublist _).length_le
        exact Nat.lt_succ_of_le (Nat.le_trans (Nat.sub_le _ _) hdrop)
      · exact length_readCommand h

/-! ### The header -/

/-- What stands in front of the body: the assignments in their order and
the word of the first `echo`, with the bytes that are left behind it. -/
structure Header where
  assignments : List (Bytes × Bytes)
  echoed : Bytes
  rest : Bytes
  deriving Repr, DecidableEq

/-- Puts assignments in front of those of a header. -/
def Header.prepend (entries : List (Bytes × Bytes)) (h : Header) : Header :=
  { h with assignments := entries ++ h.assignments }

/-- Reads lines up to the first `echo`. A line that is refused leaves no header at all. -/
def readHeader (bs : Bytes) : Option Header :=
  match _h : readLine bs with
  | none => none
  | some (.nothing, rest) => readHeader rest
  | some (.assignment name value, rest) => (readHeader rest).map (.prepend [(name, value)])
  | some (.echo word, rest) => some ⟨[], word, rest⟩
termination_by bs.length
decreasing_by
  all_goals exact length_readLine _h

/-- The equation of `readHeader` without the facts that its recursion ends by. -/
theorem readHeader_eq (bs : Bytes) :
    readHeader bs = match readLine bs with
      | none => none
      | some (.nothing, rest) => readHeader rest
      | some (.assignment name value, rest) => (readHeader rest).map (.prepend [(name, value)])
      | some (.echo word, rest) => some ⟨[], word, rest⟩ := by
  rw [readHeader]
  split <;> rename_i hline <;> rw [hline]

/-- The values of variables. A variable that is not set has none. -/
abbrev Environment := Bytes → Option Bytes

/-- Gives a variable a value, in place of the one it may have. -/
def Environment.assign (env : Environment) (e : Bytes × Bytes) : Environment :=
  fun name => if name = e.1 then some e.2 else env name

/-- The variables behind the assignments of a header, where they had other
values before. -/
def Header.environment (h : Header) (before : Environment) : Environment :=
  h.assignments.foldl Environment.assign before

end ScriptMatrix.Shell
