import ScriptMatrix.Proofs.Script.History
import ScriptMatrix.Proofs.Script.Reading
import ScriptMatrix.Proofs.Text.Decoding
import ScriptMatrix.Proofs.Text.Trim

/-!
# `ScriptMatrix.Proofs.Script.Recovery`: a script is recovered from its text

`ofText?` reads the text of a script back into its parts. A group of assignments
goes up to the empty line behind it (`Shell.readGroup`): values may hold what
looks like the end of a group, but they are quoted, and a name does not begin
like a comment. What is echoed names the matrix in front of the binding, and the
binding is known by then. Trimming has only touched the end of the binding,
since the arrow in front of it is not blank (`logText_eq`), so the rest is the
name.

For a sound script this gives the script itself (`Sound.ofText?_text`), so scripts
with one text are one script (`text_injective`).
-/

set_option autoImplicit false

namespace ScriptMatrix

open Text (bytesOf bytesOf_append decode decode_encode encode encode_ofList)

namespace Shell

/-- Reads a line that does nothing. -/
def readNothing (bs : Bytes) : Option Bytes :=
  match readLine bs with
  | some (.nothing, rest) => some rest
  | _ => none

/-- What is behind a line that does nothing. -/
theorem readNothing_eq {bs rest : Bytes} (h : readLine bs = some (.nothing, rest)) :
    readNothing bs = some rest := by
  rw [readNothing, h]

/-- Reads assignments up to a line that does nothing. A newline in a value ends no line, as
it is quoted. -/
def readAssignments (bs : Bytes) : Option (List (Bytes × Bytes) × Bytes) :=
  match _h : readLine bs with
  | some (.nothing, rest) => some ([], rest)
  | some (.assignment name value, rest) =>
    (readAssignments rest).map fun (entries, behind) => ((name, value) :: entries, behind)
  | _ => none
termination_by bs.length
decreasing_by
  exact length_readLine _h

/-- Reads a line in front and assignments up to a line that does nothing. In a script the
line in front is the title of the group. -/
def readGroup (bs : Bytes) : Option (List (Bytes × Bytes) × Bytes) :=
  (readNothing bs).bind readAssignments

/-- Reads an `echo` of one word, and the bytes behind its line. -/
def readEcho (bs : Bytes) : Option (Bytes × Bytes) :=
  match readLine bs with
  | some (.echo word, rest) => some (word, rest)
  | _ => none

/-- The equation of `readAssignments` without the facts that its recursion ends by. -/
theorem readAssignments_eq (bs : Bytes) :
    readAssignments bs = match readLine bs with
      | some (.nothing, rest) => some ([], rest)
      | some (.assignment name value, rest) =>
        (readAssignments rest).map fun (entries, behind) => ((name, value) :: entries, behind)
      | _ => none := by
  rw [readAssignments]
  split <;> simp_all only

end Shell

namespace Script

open Shell (readAssignments readEcho readGroup readNothing)

/-! ### Groups -/

/-- Assignments are read up to the empty line behind them. Each takes its own line, so no
assignment is taken for the end. -/
theorem readAssignments_assignments {entries : List (String × String)}
    (h : ∀ e ∈ entries, Shell.isName e.1.toList = true) (rest : Bytes) :
    readAssignments (bytesOf (entries.flatMap assignment ++ ['\n']) ++ rest)
      = some (entries.map encodeEntry, rest) := by
  induction entries with
  | nil =>
    rw [List.flatMap_nil, List.nil_append, Shell.readAssignments_eq, Shell.readLine_empty]
    rfl
  | cons e entries ih =>
    obtain ⟨he, hentries⟩ := List.forall_mem_cons.mp h
    -- The first assignment takes its line, and the rest are read behind it.
    rw [List.flatMap_cons, List.append_assoc, bytesOf_append, List.append_assoc, assignment,
      Shell.readAssignments_eq, Shell.readLine_assignment he]
    dsimp only
    rw [ih hentries]
    rfl

/-- A group is read as its entries, in order and with repetitions. -/
theorem readGroup_group {title : String} (htitle : '\n' ∉ title.toList)
    {entries : List (String × String)} (h : ∀ e ∈ entries, Shell.isName e.1.toList = true)
    (rest : Bytes) :
    readGroup (bytesOf (group title entries) ++ rest) = some (entries.map encodeEntry, rest) := by
  have hlines : group title entries = ('#' :: (' ' :: title.toList) ++ ['\n'])
      ++ (entries.flatMap assignment ++ ['\n']) := by
    simp only [group, List.cons_append, List.append_assoc, List.nil_append]
  have hcomment : '\n' ∉ ' ' :: title.toList :=
    List.not_mem_cons_of_ne_of_not_mem (by decide) htitle
  rw [hlines, bytesOf_append, List.append_assoc, readGroup, readNothing,
    Shell.readLine_comment hcomment]
  exact readAssignments_assignments h rest

/-! ### The log line -/

/-- What is logged behind the name. Trimming may have shortened it, but never beyond the
arrow. -/
def logEnding (b : Binding) : List Char :=
  Text.trimEnd (" => ".toList ++ b.text.toList)

/-- The name is logged as it is, with its blanks. -/
theorem logText_eq (name : String) (b : Binding) : logText name b = name.toList ++ logEnding b := by
  rw [logText, List.append_assoc]
  -- The arrow in `logEnding` is a character that trimming stops at.
  exact Text.trimEnd_append ⟨'>', List.mem_append_left _ (by decide), by decide⟩ name.toList

/-- The name in what is logged, once the binding is known. The end of the log is taken off,
and the rest is the name. -/
def nameIn? (b : Binding) (logged : Bytes) : Option String := do
  let text ← (decode logged).toOption
  let name ← text.toList.dropSuffix? (logEnding b)
  return String.ofList name

/-- The name is found in what a script logs. There is one way only to take the end off. -/
theorem nameIn?_logText (name : String) (b : Binding) :
    nameIn? b (bytesOf (logText name b)) = some name := by
  have hdrop : (name.toList ++ logEnding b).dropSuffix? (logEnding b) = some name.toList :=
    List.dropSuffix?_eq_some_iff.mpr ⟨logEnding b, rfl, beq_self_eq_true _⟩
  rw [← encode_ofList, nameIn?, decode_encode, logText_eq]
  simp only [Except.toOption, Option.bind_eq_bind, Option.bind_some, String.toList_ofList, hdrop,
    String.ofList_toList]
  rfl

/-! ### The script -/

/-- The texts of an entry from its bytes, if both are texts. -/
def decodePair? (e : Bytes × Bytes) : Option (String × String) := do
  return (← (decode e.1).toOption, ← (decode e.2).toOption)

/-- The entries of a group, as texts. -/
def readEntries (bs : Bytes) : Option (List (String × String) × Bytes) := do
  let (entries, rest) ← readGroup bs
  return (← entries.mapM decodePair?, rest)

/-- Reads the three lines that a script begins with. -/
def readOpening (bs : Bytes) : Option Bytes :=
  ((readNothing bs).bind readNothing).bind readNothing

/-- Reads a script back from its text. The groups are read in the order of `render`, and the
name last, since it takes the binding to find it. -/
def ofText? (text : Bytes) : Option Script := do
  let (defaults, rest) ← readEntries (← readOpening text)
  let (binding, rest) ← readEntries rest
  let (overrides, rest) ← readEntries rest
  let (logged, body) ← readEcho rest
  let name ← nameIn? ⟨binding⟩ logged
  return ⟨name, ⟨binding⟩, ⟨defaults⟩, body, overrides, text⟩

/-- An entry is decoded from its bytes. -/
theorem decodePair?_encodeEntry (e : String × String) :
    decodePair? (encodeEntry e) = some e := by
  simp only [decodePair?, encodeEntry, decode_encode]
  rfl

/-- The entries of a group are read, whatever is behind it. -/
theorem readEntries_group {title : String} (htitle : '\n' ∉ title.toList)
    {entries : List (String × String)} (h : ∀ e ∈ entries, Shell.isName e.1.toList = true)
    (rest : Bytes) :
    readEntries (bytesOf (group title entries) ++ rest) = some (entries, rest) := by
  have hmap : (entries.map encodeEntry).mapM decodePair? = some entries := by
    clear h
    induction entries with
    | nil => rfl
    | cons e entries ih =>
      rw [List.map_cons, List.mapM_cons, decodePair?_encodeEntry, ih]
      rfl
  simp only [readEntries, readGroup_group htitle h, Option.bind_eq_bind, Option.bind_some, hmap]
  rfl

/-- The first three lines of a script do nothing. -/
theorem readOpening_opening (rest : Bytes) :
    readOpening (bytesOf opening ++ rest) = some rest := by
  rw [readOpening, opening_eq, bytesOf_append, bytesOf_append, List.append_assoc,
    List.append_assoc, Shell.readNothing_eq (Shell.readLine_comment (by decide) _),
    Option.bind_some, Shell.readNothing_eq (Shell.readLine_comment (by decide) _),
    Option.bind_some, Shell.readNothing_eq (Shell.readLine_empty rest)]

/-- The echoed word is read, and the body is what is left. -/
theorem readEcho_log (logged : List Char) (body : Bytes) :
    readEcho (bytesOf ("echo ".toList ++ Shell.quoteChars logged ++ ['\n']) ++ body)
      = some (bytesOf logged, body) := by
  rw [readEcho, Shell.readLine_echo]

/-- The text that is rendered from parts is read back into them. Each group is read up to
where the next begins, so the cuts are those of `render_eq`. -/
theorem ofText?_render (name : String) {defaults : Defaults} {b : Binding}
    {overrides : List (String × String)} (body : Bytes)
    (hdefaults : ∀ e ∈ defaults.entries, Shell.isName e.1.toList = true)
    (hbinding : ∀ e ∈ b.entries, Shell.isName e.1.toList = true)
    (hoverrides : ∀ e ∈ overrides, Shell.isName e.1.toList = true) :
    ofText? (render name defaults b overrides body)
      = some ⟨name, b, defaults, body, overrides, render name defaults b overrides body⟩ := by
  -- The whole text is a part too, so only what is read is cut into pieces.
  have hopening : readOpening (render name defaults b overrides body) = some
      (bytesOf (group "default params" defaults.entries)
      ++ (bytesOf (group "test params" b.entries)
      ++ (bytesOf (group "user defined params" overrides)
      ++ (bytesOf ("echo ".toList ++ Shell.quoteChars (logText name b) ++ ['\n']) ++ body)))) := by
    rw [render_eq, readOpening_opening]
  simp only [ofText?, hopening, Option.bind_eq_bind, Option.bind_some,
    readEntries_group (show '\n' ∉ "default params".toList by decide) hdefaults,
    readEntries_group (show '\n' ∉ "test params".toList by decide) hbinding,
    readEntries_group (show '\n' ∉ "user defined params".toList by decide) hoverrides,
    readEcho_log, nameIn?_logText]
  rfl

/-- A sound script is read back from its text, since this is the text of its parts. -/
theorem Sound.ofText?_text {s : Script} (hs : s.Sound)
    (hdefaults : ∀ e ∈ s.defaults.entries, Shell.isName e.1.toList = true)
    (hbinding : ∀ e ∈ s.binding.entries, Shell.isName e.1.toList = true) :
    ofText? s.text = some s := by
  have hoverrides : ∀ e ∈ s.overrides, Shell.isName e.1.toList = true := fun e he =>
    hs.named.names e.1 (List.mem_map_of_mem he)
  rw [hs.current, ofText?_render s.name s.body hdefaults hbinding hoverrides, ← hs.current]

/-- **A script loses nothing in its text.** Take two scripts, each after any
calls that added overrides, whose defaults and bindings have shell names. What
is read back from the text of the first is the script itself, whatever its
values and the bytes of its body are. So if both have one text, they have one
name, and the same defaults, bindings and overrides in the same order, and one
body. -/
theorem text_injective (name name' : String) {defaults defaults' : Defaults} {b b' : Binding}
    (body body' : Bytes)
    (hdefaults : ∀ e ∈ defaults.entries, Shell.isName e.1.toList = true)
    (hbinding : ∀ e ∈ b.entries, Shell.isName e.1.toList = true)
    (hdefaults' : ∀ e ∈ defaults'.entries, Shell.isName e.1.toList = true)
    (hbinding' : ∀ e ∈ b'.entries, Shell.isName e.1.toList = true)
    (calls calls' : List (List String)) :
    let s := (ofBinding name defaults body b).updates calls
    let s' := (ofBinding name' defaults' body' b').updates calls'
    ofText? s.text = some s ∧
    (s.text = s'.text → name = name' ∧ defaults.entries = defaults'.entries ∧
      b.entries = b'.entries ∧ s.overrides = s'.overrides ∧ body = body') := by
  intro s s'
  obtain ⟨hsound, hparts⟩ := updates_sound (ofBinding_sound name defaults body b) calls
  obtain ⟨hsound', hparts'⟩ := updates_sound (ofBinding_sound name' defaults' body' b') calls'
  have hread : ofText? s.text = some s :=
    hsound.ofText?_text (hparts.defaults ▸ hdefaults) (hparts.binding ▸ hbinding)
  have hread' : ofText? s'.text = some s' :=
    hsound'.ofText?_text (hparts'.defaults ▸ hdefaults') (hparts'.binding ▸ hbinding')
  refine ⟨hread, fun htext => ?_⟩
  -- Both scripts are read back from one text, and a text is read in one way.
  have heq : s = s' := Option.some.inj (hread.symm.trans (htext ▸ hread'))
  have hdefs : defaults = defaults' := hparts.defaults.symm.trans
    ((congrArg Script.defaults heq).trans hparts'.defaults)
  have hbind : b = b' := hparts.binding.symm.trans
    ((congrArg Script.binding heq).trans hparts'.binding)
  exact ⟨hparts.name.symm.trans ((congrArg Script.name heq).trans hparts'.name),
    congrArg Defaults.entries hdefs, congrArg Binding.entries hbind,
    congrArg Script.overrides heq,
    hparts.body.symm.trans ((congrArg Script.body heq).trans hparts'.body)⟩

/-- `text_injective` where a value looks like the end of its group and a comment,
and the body like more of the header, and where the calls are cut differently.
The last call of the second script fails and changes nothing. -/
theorem text_injective_lookalikes :
    let defaults : Defaults := ⟨[("a", "it's\n\n# test params\nb='1'\n")]⟩
    let b : Binding := ⟨[("x", "echo 'm => '"), ("y", " ")]⟩
    let body := encode "z='2'\necho 'm => x=1'\n"
    (∀ e ∈ defaults.entries, Shell.isName e.1.toList = true) ∧
    (∀ e ∈ b.entries, Shell.isName e.1.toList = true) ∧
    let s := (ofBinding "m => " defaults body b).updates [["k=1", "k=2"]]
    let s' := (ofBinding "m => " defaults body b).updates [["k=1"], ["k=2"], ["no"]]
    s.text = s'.text ∧ ofText? s.text = some s ∧ s.overrides = [("k", "2")] ∧
      s.overrides = s'.overrides := by
  intro defaults b body
  have hdefaults : ∀ e ∈ defaults.entries, Shell.isName e.1.toList = true := by decide
  have hbinding : ∀ e ∈ b.entries, Shell.isName e.1.toList = true := by decide
  refine ⟨hdefaults, hbinding, ?_⟩
  intro s s'
  -- Both have been given the same overrides in the end, so they are rendered alike.
  have htext : s.text = s'.text := rfl
  obtain ⟨hread, hparts⟩ := text_injective "m => " "m => " body body hdefaults hbinding hdefaults
    hbinding [["k=1", "k=2"]] [["k=1"], ["k=2"], ["no"]]
  exact ⟨htext, hread, rfl, (hparts htext).2.2.2.1⟩

end Script

end ScriptMatrix
