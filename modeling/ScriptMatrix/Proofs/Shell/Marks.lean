import ScriptMatrix.Proofs.Shell.Reader

/-!
# `ScriptMatrix.Proofs.Shell.Marks`: how a shell comes to the bytes of a word

A word alone does not say how its bytes were read. `readMarked` reads as
`readWord` does, and marks each byte with how it was read: bare, between two
quotes or behind a backslash. Without the marks it is `readWord`
(`readWord_eq_map_unmark`).

What stands inside quotes is taken up to the next quote
(`readMarked_literal`), and an escaped quote between two quoted parts is one
quote of the word (`readMarked_escapedQuote`).
-/

set_option autoImplicit false

namespace ScriptMatrix.Shell

open Text (byteOf bytesOf)

/-- A byte of a word with how it was read. -/
structure Mark where
  byte : UInt8
  quoting : Quoting
  deriving Repr, DecidableEq

/-- Puts marked bytes in front of a word that has been read. -/
def prependMarks (marks : List Mark) (read : List Mark × Bytes) : List Mark × Bytes :=
  (marks ++ read.1, read.2)

/-- Reads the rest of a word: its bytes with their marks, and the bytes
behind it. -/
def readMarked : Quoting → Bytes → Option (List Mark × Bytes)
  | .bare, [] => some ([], [])
  | .bare, c :: rest =>
    if c = byteOf '\'' then readMarked .single rest
    else if c = byteOf '\\' then readMarked .escaped rest
    else if endsWord c then some ([], c :: rest)
    else if isSpecial c then none
    else (readMarked .bare rest).map (prependMarks [⟨c, .bare⟩])
  | .single, [] => none
  | .single, c :: rest =>
    if c = byteOf '\'' then readMarked .bare rest
    else (readMarked .single rest).map (prependMarks [⟨c, .single⟩])
  | .escaped, [] => none
  | .escaped, c :: rest =>
    if c = byteOf '\n' then none
    else (readMarked .bare rest).map (prependMarks [⟨c, .escaped⟩])

/-- A word without its marks, as `readWord` gives it. -/
def unmark (read : List Mark × Bytes) : Bytes × Bytes := (read.1.map (·.byte), read.2)

/-- Marks can be dropped before bytes are put in front, or behind that. -/
theorem map_unmark_prependMarks (marks : List Mark) (read : Option (List Mark × Bytes)) :
    (read.map (prependMarks marks)).map unmark
      = (read.map unmark).map (prepend (marks.map (·.byte))) := by
  rw [Option.map_map, Option.map_map]
  congr 1
  funext r
  simp only [Function.comp_apply, prependMarks, unmark, prepend, List.map_append]

/-- The marks are all that is added to the word. So what is proved of `readMarked` holds of
`readWord`, and the two agree on what is refused. -/
theorem readWord_eq_map_unmark (q : Quoting) (bs : Bytes) :
    readWord q bs = (readMarked q bs).map unmark := by
  -- The twelve cases of `readWord` are those of `readMarked`; each goes by the same tests.
  fun_induction readWord q bs with
  | case1 | case7 | case10 => rfl
  | case2 rest ih => rw [readMarked, if_pos rfl, ih]
  | case3 rest hquote ih => rw [readMarked, if_neg hquote, if_pos rfl, ih]
  | case4 c rest hquote hslash hends =>
    rw [readMarked, if_neg hquote, if_neg hslash, if_pos hends]
    rfl
  | case5 c rest hquote hslash hends hspecial =>
    rw [readMarked, if_neg hquote, if_neg hslash, if_neg hends, if_pos hspecial]
    rfl
  | case6 c rest hquote hslash hends hspecial ih =>
    rw [readMarked, if_neg hquote, if_neg hslash, if_neg hends, if_neg hspecial,
      map_unmark_prependMarks, ih]
    rfl
  | case8 rest ih => rw [readMarked, if_pos rfl, ih]
  | case9 c rest hquote ih =>
    rw [readMarked, if_neg hquote, map_unmark_prependMarks, ih]
    rfl
  | case11 rest => rw [readMarked, if_pos rfl]; rfl
  | case12 c rest hend ih =>
    rw [readMarked, if_neg hend, map_unmark_prependMarks, ih]
    rfl

/-- What is put in front twice is put in front as a whole. -/
theorem map_prependMarks_prependMarks (ms ns : List Mark) (read : Option (List Mark × Bytes)) :
    (read.map (prependMarks ns)).map (prependMarks ms) = read.map (prependMarks (ms ++ ns)) := by
  rw [Option.map_map]
  congr 1
  funext r
  simp only [Function.comp_apply, prependMarks, List.append_assoc]

/-- Where no bytes are put in front, a word stays as it is. -/
theorem map_prependMarks_nil (read : Option (List Mark × Bytes)) :
    read.map (prependMarks []) = read := by
  cases read <;> rfl

/-- Bytes without a quote are literal inside quotes, all of them, and reading is still
inside quotes behind them. -/
theorem readMarked_literal {bs : Bytes} (h : byteOf '\'' ∉ bs) (rest : Bytes) :
    readMarked .single (bs ++ rest)
      = (readMarked .single rest).map (prependMarks (bs.map (⟨·, .single⟩))) := by
  induction bs with
  | nil => exact (map_prependMarks_nil _).symm
  | cons b bs ih =>
    -- The byte is no quote, so it is marked as quoted and the others follow in the same
    -- way.
    have hb : b ≠ byteOf '\'' := Ne.symm (List.ne_of_not_mem_cons h)
    have hbs : byteOf '\'' ∉ bs := List.not_mem_of_not_mem_cons h
    rw [List.cons_append, readMarked, if_neg hb, ih hbs, map_prependMarks_prependMarks,
      List.singleton_append, List.map_cons]

/-- A quote that stands escaped between two quoted parts is one quote of the word. The four
bytes leave the quotes, escape one, and are back in quotes. -/
theorem readMarked_escapedQuote (rest : Bytes) :
    readMarked .single (bytesOf ['\'', '\\', '\'', '\''] ++ rest)
      = (readMarked .single rest).map (prependMarks [⟨byteOf '\'', .escaped⟩]) := by
  have hbytes : bytesOf ['\'', '\\', '\'', '\'']
      = [byteOf '\'', byteOf '\\', byteOf '\'', byteOf '\''] := by decide
  -- Byte by byte: the quoted part ends, the next byte is escaped, it is taken, and a quoted
  -- part begins.
  calc readMarked .single (bytesOf ['\'', '\\', '\'', '\''] ++ rest)
      = readMarked .bare (byteOf '\\' :: byteOf '\'' :: byteOf '\'' :: rest) := by
        rw [hbytes, List.cons_append, readMarked, if_pos rfl]
        rfl
    _ = readMarked .escaped (byteOf '\'' :: byteOf '\'' :: rest) := by
        rw [readMarked, if_neg (by decide), if_pos rfl]
    _ = (readMarked .bare (byteOf '\'' :: rest)).map (prependMarks [⟨byteOf '\'', .escaped⟩]) :=
        if_neg (by decide)
    _ = (readMarked .single rest).map (prependMarks [⟨byteOf '\'', .escaped⟩]) := by
        rw [readMarked, if_pos rfl]

end ScriptMatrix.Shell
