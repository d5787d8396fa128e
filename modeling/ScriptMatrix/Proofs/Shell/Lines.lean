import ScriptMatrix.Proofs.Shell.Quote

/-!
# `ScriptMatrix.Proofs.Shell.Lines`: the lines that scripts begin with

What a shell reads in a comment, in an assignment of a quoted value to a
shell name, and in an `echo` of a quoted value, whatever stands behind the
line.
-/

set_option autoImplicit false

namespace ScriptMatrix.Shell

open Text (byteOf bytesOf bytesOf_append bytesOf_ascii bytesOf_cons_ascii notMem_bytesOf
  toNat_byteOf)

/-- The characters of names are ASCII, so a name has a byte for each. -/
theorem isNameChar_ascii {c : Char} (h : isNameChar c = true) : c.toNat < 128 := by
  simp only [isNameChar, isNameStart, Bool.or_eq_true, Bool.and_eq_true, beq_iff_eq,
    decide_eq_true_eq, Char.le_def, UInt32.le_iff_toNat_le] at h
  rcases h with ((rfl | ⟨_, hz⟩) | ⟨_, hz⟩) | ⟨_, hz⟩
  · decide
  · exact Nat.lt_of_le_of_lt hz (by decide)
  · exact Nat.lt_of_le_of_lt hz (by decide)
  · exact Nat.lt_of_le_of_lt hz (by decide)

/-- A name is made of the characters of names. The first one may be fewer of them. -/
theorem isNameChar_of_isName {name : List Char} (h : isName name = true) :
    ∀ c ∈ name, isNameChar c = true := by
  cases name with
  | nil => cases h
  | cons c cs =>
    rw [isName, Bool.and_eq_true, List.all_eq_true] at h
    exact List.forall_mem_cons.mpr ⟨by rw [isNameChar, h.1, Bool.true_or], h.2⟩

/-- A byte of an ASCII character stands for it. -/
theorem charOf_byteOf {c : Char} (h : c.toNat < 128) : charOf (byteOf c) = c := by
  rw [charOf, toNat_byteOf h, Char.ofNat_toNat]

section
variable {name : List Char}

/-- The bytes of a name are those of its characters. -/
theorem bytesOf_name (h : isName name = true) : bytesOf name = name.map byteOf :=
  bytesOf_ascii fun c hc => isNameChar_ascii (isNameChar_of_isName h c hc)

/-- The bytes of a name stand for it. By this `readCommand` finds the name that was written. -/
theorem map_charOf_name (h : isName name = true) : (bytesOf name).map charOf = name := by
  rw [bytesOf_name h, List.map_map]
  conv => rhs; rw [← List.map_id name]
  exact List.map_congr_left fun c hc =>
    charOf_byteOf (isNameChar_ascii (isNameChar_of_isName h c hc))

/-- Every byte of a name is one that names are made of. -/
theorem isNameChar_bytesOf (h : isName name = true) :
    ∀ b ∈ bytesOf name, isNameChar (charOf b) = true := by
  intro b hb
  have hmem : charOf b ∈ (bytesOf name).map charOf := List.mem_map_of_mem hb
  rw [map_charOf_name h] at hmem
  exact isNameChar_of_isName h _ hmem

/-- A line that begins with a name is a command, because a name begins with neither a
newline nor a number sign. -/
theorem readLine_name (h : isName name = true) (rest : Bytes) :
    readLine (bytesOf name ++ rest) = readCommand (bytesOf name ++ rest) := by
  have hbytes := isNameChar_bytesOf h
  cases hname : bytesOf name with
  | nil =>
    -- A name is not empty.
    have hlength := congrArg List.length (map_charOf_name h)
    rw [hname] at hlength
    rw [List.eq_nil_of_length_eq_zero hlength.symm] at h
    cases h
  | cons b bs =>
    have hb : isNameChar (charOf b) = true := hbytes b (by rw [hname]; exact List.mem_cons_self)
    have hline : b ≠ byteOf '\n' := fun heq => absurd hb (by rw [heq]; decide)
    have hcomment : b ≠ byteOf '#' := fun heq => absurd hb (by rw [heq]; decide)
    rw [List.cons_append, readLine, if_neg hline, if_neg hcomment]

/-- What a command is, is decided by the byte behind its name. The name ends there, as the
byte is none of a name. -/
theorem readCommand_name (h : isName name = true) {c : UInt8} (hc : isNameChar (charOf c) = false)
    (rest : Bytes) :
    readCommand (bytesOf name ++ c :: rest)
      = if c = byteOf '=' then
          (readLastWord rest).map fun (value, behind) => (.assignment (bytesOf name) value, behind)
        else if c = byteOf ' ' && bytesOf name = Text.encode "echo"
            && !rest.head?.all endsWord then
          (readLastWord rest).map fun (word, behind) => (.echo word, behind)
        else none := by
  have htake : (bytesOf name ++ c :: rest).takeWhile (fun b => isNameChar (charOf b))
      = bytesOf name := by
    rw [List.takeWhile_append_of_pos (isNameChar_bytesOf h),
      List.takeWhile_cons_of_neg (by rw [hc]; exact Bool.false_ne_true), List.append_nil]
  have hdrop : (bytesOf name ++ c :: rest).dropWhile (fun b => isNameChar (charOf b))
      = c :: rest := by
    rw [List.dropWhile_append_of_pos (isNameChar_bytesOf h),
      List.dropWhile_cons_of_neg (by rw [hc]; exact Bool.false_ne_true)]
  rw [readCommand, htake, hdrop, map_charOf_name h, h]
  rfl

/-- An assignment of a quoted value assigns the value, whatever it is and whatever is on the
next line. -/
theorem readLine_assignment (h : isName name = true) (value : List Char) (rest : Bytes) :
    readLine (bytesOf (name ++ '=' :: quoteChars value ++ ['\n']) ++ rest)
      = some (.assignment (bytesOf name) (bytesOf value), rest) := by
  have hbytes : bytesOf (name ++ '=' :: quoteChars value ++ ['\n']) ++ rest
      = bytesOf name ++ byteOf '=' :: (bytesOf (quoteChars value) ++ byteOf '\n' :: rest) := by
    rw [bytesOf_append, bytesOf_append, bytesOf_cons_ascii (by decide),
      bytesOf_cons_ascii (by decide), List.append_assoc, List.append_assoc, List.cons_append]
    rfl
  rw [hbytes, readLine_name h, readCommand_name h (by decide), if_pos rfl,
    readLastWord_quoteChars, Option.map_some]

end

/-- An `echo` of a quoted value echoes the value as one word, even if it is empty. -/
theorem readLine_echo (value : List Char) (rest : Bytes) :
    readLine (bytesOf ("echo ".toList ++ quoteChars value ++ ['\n']) ++ rest)
      = some (.echo (bytesOf value), rest) := by
  have hname : isName "echo".toList = true := by decide
  have hecho : bytesOf "echo ".toList = bytesOf "echo".toList ++ [byteOf ' '] := by decide
  have hbytes : bytesOf ("echo ".toList ++ quoteChars value ++ ['\n']) ++ rest
      = bytesOf "echo".toList ++ byteOf ' ' ::
          (bytesOf (quoteChars value) ++ byteOf '\n' :: rest) := by
    rw [bytesOf_append, bytesOf_append, hecho, bytesOf_cons_ascii (by decide)]
    simp only [List.append_assoc, List.cons_append]
    rfl
  -- The word is there, since it begins with a quote.
  have hword : (byteOf ' ' = byteOf ' ' && bytesOf "echo".toList = Text.encode "echo" &&
      !(bytesOf (quoteChars value) ++ byteOf '\n' :: rest).head?.all endsWord) = true := by
    rw [bytesOf_quoteChars, List.cons_append, List.head?_cons, Option.all_some]
    decide
  rw [hbytes, readLine_name hname, readCommand_name hname (by decide), if_neg (by decide),
    if_pos hword, readLastWord_quoteChars, Option.map_some]

/-- A comment does nothing. It goes to its newline, where `text` has none. -/
theorem readLine_comment {text : List Char} (h : '\n' ∉ text) (rest : Bytes) :
    readLine (bytesOf ('#' :: text ++ ['\n']) ++ rest) = some (.nothing, rest) := by
  have hbytes : bytesOf ('#' :: text ++ ['\n']) ++ rest
      = byteOf '#' :: (bytesOf text ++ byteOf '\n' :: rest) := by
    rw [List.cons_append, bytesOf_cons_ascii (by decide), bytesOf_append,
      bytesOf_cons_ascii (by decide), List.cons_append, List.append_assoc]
    rfl
  have hinside : ∀ b ∈ bytesOf text, (b != byteOf '\n') = true := fun b hb =>
    bne_iff_ne.mpr fun heq => notMem_bytesOf (by decide) h (heq ▸ hb)
  rw [hbytes, readLine, if_neg (by decide), if_pos rfl, List.dropWhile_append_of_pos hinside,
    List.dropWhile_cons_of_neg (by simp), List.drop_one, List.tail_cons]

/-- An empty line does nothing. -/
theorem readLine_empty (rest : Bytes) :
    readLine (bytesOf ['\n'] ++ rest) = some (.nothing, rest) := by
  rw [bytesOf_cons_ascii (by decide), List.cons_append, readLine, if_pos rfl]
  rfl

end ScriptMatrix.Shell
