import ScriptMatrix.Proofs.Script.Overrides
import ScriptMatrix.Proofs.Shell.Lines

/-!
# `ScriptMatrix.Proofs.Script.Reading`: what a shell reads in a script

The header of a script goes through `Shell.readHeader` piece by piece: the
opening does nothing (`readHeader_opening`), a group assigns its entries in
order (`readHeader_group`), and the log line is the `echo` that the header
ends with (`readHeader_log`). What is left is the body.

Of the assignments to a variable the last one counts
(`foldl_assign_encode`), so overrides go before the binding and the binding
before the defaults.
-/

set_option autoImplicit false

namespace ScriptMatrix

open Text (bytesOf bytesOf_append encode)
open Shell (Environment Header readHeader readHeader_eq)

/-- The bytes of an entry, which is what a shell has of it. -/
def encodeEntry (e : String × String) : Bytes × Bytes := (encode e.1, encode e.2)

namespace Script

/-- Lines that do nothing are passed over. The comments and empty lines of a script are such
lines. -/
theorem readHeader_nothing {bs rest : Bytes} (h : Shell.readLine bs = some (.nothing, rest)) :
    readHeader bs = readHeader rest := by
  rw [readHeader_eq, h]

/-- A script opens with two comments and an empty line, written here as the lines that
`readLine_comment` and `readLine_empty` are about. -/
theorem opening_eq : opening = ('#' :: "!/bin/bash".toList ++ ['\n'])
    ++ ('#' :: " test script auto generated by matrix-shell".toList ++ ['\n']) ++ ['\n'] := by
  decide

/-- The first lines of a script do nothing. -/
theorem readHeader_opening (rest : Bytes) :
    readHeader (bytesOf opening ++ rest) = readHeader rest := by
  rw [opening_eq, bytesOf_append, bytesOf_append, List.append_assoc, List.append_assoc,
    readHeader_nothing (Shell.readLine_comment (by decide) _),
    readHeader_nothing (Shell.readLine_comment (by decide) _),
    readHeader_nothing (Shell.readLine_empty rest)]

/-- What is put in front twice is put in front as a whole. Groups come before groups, and
`readHeader_assignments` puts entry before entry. -/
theorem map_header_prepend (before after : List (Bytes × Bytes)) (h : Option Header) :
    (h.map (Header.prepend after)).map (Header.prepend before)
      = h.map (Header.prepend (before ++ after)) := by
  rw [Option.map_map]
  congr 1
  funext header
  simp only [Function.comp_apply, Header.prepend, List.append_assoc]

/-- A group assigns its entries in their order, whatever comes behind it. -/
theorem readHeader_assignments {entries : List (String × String)}
    (h : ∀ e ∈ entries, Shell.isName e.1.toList = true) (rest : Bytes) :
    readHeader (bytesOf (entries.flatMap assignment) ++ rest)
      = (readHeader rest).map (.prepend (entries.map encodeEntry)) := by
  induction entries with
  | nil =>
    show readHeader rest = _
    cases readHeader rest <;> rfl
  | cons e entries ih =>
    obtain ⟨he, hentries⟩ := List.forall_mem_cons.mp h
    -- The first line is one assignment, and the group goes on behind it.
    rw [List.flatMap_cons, bytesOf_append, List.append_assoc, assignment, readHeader_eq,
      Shell.readLine_assignment he]
    dsimp only
    rw [ih hentries, map_header_prepend]
    rfl

/-- A group does what its assignments do, since its title is a comment and its end an empty
line. Titles are without newlines, and so stay comments. -/
theorem readHeader_group {title : String} (htitle : '\n' ∉ title.toList)
    {entries : List (String × String)} (h : ∀ e ∈ entries, Shell.isName e.1.toList = true)
    (rest : Bytes) :
    readHeader (bytesOf (group title entries) ++ rest)
      = (readHeader rest).map (.prepend (entries.map encodeEntry)) := by
  have hlines : group title entries = ('#' :: (' ' :: title.toList) ++ ['\n'])
      ++ entries.flatMap assignment ++ ['\n'] := by
    simp only [group, List.cons_append, List.append_assoc, List.nil_append]
  have hcomment : '\n' ∉ ' ' :: title.toList :=
    List.not_mem_cons_of_ne_of_not_mem (by decide) htitle
  rw [hlines, bytesOf_append, bytesOf_append, List.append_assoc, List.append_assoc,
    readHeader_nothing (Shell.readLine_comment hcomment _), readHeader_assignments h,
    readHeader_nothing (Shell.readLine_empty rest)]

/-- The log line ends the header. Its text is quoted as a whole, and echoed as one word. -/
theorem readHeader_log (name : String) (b : Binding) (rest : Bytes) :
    readHeader (bytesOf ("echo ".toList ++ Shell.quoteChars (logText name b) ++ ['\n']) ++ rest)
      = some ⟨[], bytesOf (logText name b), rest⟩ := by
  rw [readHeader_eq, Shell.readLine_echo]

/-- The pieces of the text of a script, as bytes. `Recovery` cuts a text at the same places. -/
theorem render_eq (name : String) (defaults : Defaults) (b : Binding)
    (overrides : List (String × String)) (body : Bytes) :
    render name defaults b overrides body = bytesOf opening
      ++ (bytesOf (group "default params" defaults.entries)
      ++ (bytesOf (group "test params" b.entries)
      ++ (bytesOf (group "user defined params" overrides)
      ++ (bytesOf ("echo ".toList ++ Shell.quoteChars (logText name b) ++ ['\n']) ++ body)))) := by
  simp only [render, header, Text.encode_ofList, bytesOf_append, List.append_assoc]

/-- What a shell reads in the text of a script. Only the names have to be shell names;
values and body may be anything. -/
theorem readHeader_render (name : String) {defaults : Defaults} {b : Binding}
    {overrides : List (String × String)} (body : Bytes)
    (hdefaults : ∀ e ∈ defaults.entries, Shell.isName e.1.toList = true)
    (hbinding : ∀ e ∈ b.entries, Shell.isName e.1.toList = true)
    (hoverrides : ∀ e ∈ overrides, Shell.isName e.1.toList = true) :
    readHeader (render name defaults b overrides body)
      = some ⟨(defaults.entries ++ b.entries ++ overrides).map encodeEntry,
          bytesOf (logText name b), body⟩ := by
  rw [render_eq, readHeader_opening, readHeader_group (by decide) hdefaults,
    readHeader_group (by decide) hbinding, readHeader_group (by decide) hoverrides,
    readHeader_log, Option.map_some, Option.map_some, Option.map_some]
  simp only [Header.prepend, List.map_append, List.append_nil, List.append_assoc]

/-! ### The variables -/

/-- Of the assignments to a variable the last one counts. Where there is none, the variable
keeps what it had before. -/
theorem foldl_assign_encode (entries : List (String × String)) (before : Environment)
    (var : String) :
    (entries.map encodeEntry).foldl Environment.assign before (encode var)
      = ((entries.reverse.lookup var).map encode).or (before (encode var)) := by
  -- The induction is over the variables that the first assignment leaves.
  induction entries generalizing before with
  | nil => rfl
  | cons e entries ih =>
    rw [List.map_cons, List.foldl_cons, ih, List.reverse_cons, List.lookup_append,
      List.lookup_singleton]
    by_cases hvar : var = e.1
    · have hassign : before.assign (encodeEntry e) (encode var) = some (encode e.2) :=
        if_pos (congrArg encode hvar)
      rw [hassign, if_pos (by simpa using hvar)]
      cases entries.reverse.lookup var <;> rfl
    · have hassign : before.assign (encodeEntry e) (encode var) = before (encode var) :=
        if_neg fun heq => hvar (Text.encode_injective heq)
      rw [hassign, if_neg (by simpa using hvar), Option.or_none]

/-- Where no name comes twice, the first entry of a name is the last. So overrides can be
looked up from the front. -/
theorem lookup_reverse {entries : List (String × String)} (h : (entries.map (·.1)).Nodup)
    (var : String) : entries.reverse.lookup var = entries.lookup var := by
  induction entries with
  | nil => rfl
  | cons e entries ih =>
    obtain ⟨he, hentries⟩ := List.nodup_cons.mp h
    rw [List.reverse_cons, List.lookup_append, List.lookup_singleton, ih hentries]
    by_cases hvar : var = e.1
    · -- No later entry has the name, so the first is the only one.
      have hnone : entries.lookup var = none := List.lookup_eq_none_iff.mpr fun e' he' => by
        have hne : var ≠ e'.1 := fun heq =>
          he (List.mem_map.mpr ⟨e', he', by rw [← heq, hvar]⟩)
        simpa using hne
      have hsame : (var == e.1) = true := beq_iff_eq.mpr hvar
      rw [hnone, List.lookup_cons, hsame]
      rfl
    · have hother : (var == e.1) = false := beq_eq_false_iff_ne.mpr hvar
      rw [List.lookup_cons, hother, if_neg Bool.false_ne_true, Option.or_none]

/-- **A shell reads in a script what its parts say.** However overrides
have been added to it, the text of a script assigns the defaults, the
binding and the overrides, each in order, echoes the log line as one word,
and leaves the body. A variable then has its override, else the last value
of the binding, else the last default, else the value it had before. -/
theorem readHeader_text {name : String} {defaults : Defaults} {body : Bytes} {b : Binding}
    {calls : List (List String)} {s : Script}
    (hdefaults : ∀ e ∈ defaults.entries, Shell.isName e.1.toList = true)
    (hbinding : ∀ e ∈ b.entries, Shell.isName e.1.toList = true)
    (hcalls : calls.foldlM append (ofBinding name defaults body b) = .ok s) :
    ∃ h : Header, readHeader s.text = some h ∧
      h.assignments = (defaults.entries ++ b.entries ++ s.overrides).map encodeEntry ∧
      h.echoed = encode (String.ofList (Text.trimEnd (name ++ " => " ++
        " ".intercalate (b.entries.map fun e => e.1 ++ "=" ++ e.2)).toList)) ∧
      h.rest = body ∧
      (s.overrides.map (·.1)).Nodup ∧
      ∀ (before : Environment) (var : String), h.environment before (encode var)
        = (((s.overrides.lookup var).or ((b.entries.reverse.lookup var).or
            (defaults.entries.reverse.lookup var))).map encode).or (before (encode var)) := by
  obtain ⟨hsound, hparts⟩ := appends_sound (ofBinding_sound name defaults body b) hcalls
  have hoverrides : ∀ e ∈ s.overrides, Shell.isName e.1.toList = true := fun e he =>
    hsound.named.names e.1 (List.mem_map_of_mem he)
  -- The text is the one that is rendered from the parts, and these are those of the
  -- beginning but for the overrides.
  have htext : s.text = render name defaults b s.overrides body := by
    rw [hsound.current, hparts.name, hparts.defaults, hparts.binding, hparts.body]
    rfl
  have hlog : bytesOf (logText name b) = encode (String.ofList (Text.trimEnd (name ++ " => " ++
      " ".intercalate (b.entries.map fun e => e.1 ++ "=" ++ e.2)).toList)) := by
    rw [Text.encode_ofList, logText, String.toList_append, String.toList_append, Binding.text]
  refine ⟨_, htext ▸ readHeader_render name body hdefaults hbinding hoverrides, rfl, hlog, rfl,
    hsound.named.distinct, fun before var => ?_⟩
  -- The last assignment of a variable is looked for from behind, so the overrides come
  -- first.
  rw [Header.environment, foldl_assign_encode, List.reverse_append, List.reverse_append,
    List.lookup_append, List.lookup_append, lookup_reverse hsound.named.distinct]

/-- `readHeader_text` where a variable is a default, bound and overridden
by a value with a quote in it. -/
theorem readHeader_text_override :
    let defaults : Defaults := ⟨[("env", "dev"), ("size", "8")]⟩
    let b : Binding := ⟨[("env", "prod")]⟩
    let s := (ofBinding "net" defaults [0x0a] b).withOverrides [("env", "it's")]
    (∀ e ∈ defaults.entries, Shell.isName e.1.toList = true) ∧
    (∀ e ∈ b.entries, Shell.isName e.1.toList = true) ∧
    [["env=it's"]].foldlM append (ofBinding "net" defaults [0x0a] b) = .ok s ∧
    ∃ h : Header, readHeader s.text = some h ∧ h.rest = [0x0a] ∧
      ∀ before : Environment, h.environment before (encode "env") = some (encode "it's") ∧
        h.environment before (encode "size") = some (encode "8") := by
  intro defaults b s
  have hdefaults : ∀ e ∈ defaults.entries, Shell.isName e.1.toList = true := by decide
  have hbinding : ∀ e ∈ b.entries, Shell.isName e.1.toList = true := by decide
  have hcalls : [["env=it's"]].foldlM append (ofBinding "net" defaults [0x0a] b) = .ok s := rfl
  obtain ⟨h, hread, _, _, hrest, _, henvironment⟩ := readHeader_text hdefaults hbinding hcalls
  refine ⟨hdefaults, hbinding, hcalls, h, hread, hrest, fun before => ⟨?_, ?_⟩⟩
  · rw [henvironment before "env"]
    rfl
  · rw [henvironment before "size"]
    rfl

end Script

end ScriptMatrix
