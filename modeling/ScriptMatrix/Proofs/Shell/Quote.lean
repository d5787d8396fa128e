import ScriptMatrix.Proofs.Shell.Marks
import ScriptMatrix.Shell.Quote

/-!
# `ScriptMatrix.Proofs.Shell.Quote`: a shell undoes the quoting

A quoted value is read literally from quote to quote; at each of its own
quotes the reader leaves the quoted part, takes one escaped quote, and is back
in a quoted part. `quotedMarks` says this of each character, and
`readMarked_quotedBody` carries it through a value. So a quoted value in front
of anything is read as the value itself, and reading goes on behind it
(`readWord_quoteChars`).

`quote_read_back` is the whole of it for a quoted value that ends its line.
-/

set_option autoImplicit false

namespace ScriptMatrix.Shell

open Text (byteOf bytesOf bytesOf_cons bytesOf_cons_ascii bytesOf_append encode notMem_bytesOf)

/-! ### From quote to quote -/

/-- How a character of a quoted value is read: a quote behind a backslash, everything else
between quotes. A character may have several bytes, which are all read in one way. -/
def quotedMarks (c : Char) : List Mark :=
  (String.utf8EncodeChar c).map (⟨·, if c = '\'' then .escaped else .single⟩)

/-- Inside quotes, the text between the outer quotes is read as the value. The induction is
on the characters, and after each of them reading is inside quotes again. -/
theorem readMarked_quotedBody (value : List Char) (rest : Bytes) :
    readMarked .single (bytesOf (quotedBody value) ++ rest)
      = (readMarked .single rest).map (prependMarks (value.flatMap quotedMarks)) := by
  induction value with
  | nil => exact (map_prependMarks_nil _).symm
  | cons c cs ih =>
    rw [List.flatMap_cons, ← map_prependMarks_prependMarks, ← ih]
    -- A quote is written as four bytes, and any other character as its own, none of which
    -- is a quote.
    by_cases hc : c = '\''
    · have hbody : quotedBody (c :: cs) = ['\'', '\\', '\'', '\''] ++ quotedBody cs := by
        rw [quotedBody, if_pos (by simp [hc])]
      have hmarks : quotedMarks c = [⟨byteOf '\'', .escaped⟩] := by
        rw [hc]
        decide
      rw [hbody, bytesOf_append, List.append_assoc, readMarked_escapedQuote, hmarks]
    · have hbody : quotedBody (c :: cs) = c :: quotedBody cs := by
        rw [quotedBody, if_neg (by simpa using hc)]
      have hquote : byteOf '\'' ∉ String.utf8EncodeChar c := by
        have hmem : byteOf '\'' ∉ bytesOf [c] :=
          notMem_bytesOf (by decide) (by simpa using Ne.symm hc)
        rwa [bytesOf_cons, Text.bytesOf_nil, List.append_nil] at hmem
      rw [hbody, bytesOf_cons, List.append_assoc, readMarked_literal hquote, quotedMarks,
        if_neg hc]

/-- A quoted value stands between two quotes. -/
theorem bytesOf_quoteChars (value : List Char) :
    bytesOf (quoteChars value) = byteOf '\'' :: (bytesOf (quotedBody value) ++ [byteOf '\'']) := by
  rw [quoteChars, bytesOf_append, bytesOf_cons_ascii (by decide), bytesOf_cons_ascii (by decide)]
  rfl

/-- A quoted value is read as the value, with its marks, and reading goes on bare behind it. -/
theorem readMarked_quoteChars (value : List Char) (rest : Bytes) :
    readMarked .bare (bytesOf (quoteChars value) ++ rest)
      = (readMarked .bare rest).map (prependMarks (value.flatMap quotedMarks)) := by
  rw [bytesOf_quoteChars, List.cons_append, readMarked, if_pos rfl, List.append_assoc,
    readMarked_quotedBody, List.singleton_append, readMarked, if_pos rfl]

/-! ### Words -/

/-- Without their marks, the characters of a value are its bytes. -/
theorem bytes_quotedMarks (value : List Char) :
    (value.flatMap quotedMarks).map (·.byte) = bytesOf value := by
  rw [List.map_flatMap, bytesOf]
  congr 1
  funext c
  rw [quotedMarks, List.map_map]
  exact List.map_id _

/-- A quoted value is read as the value, and reading goes on behind it. -/
theorem readWord_quoteChars (value : List Char) (rest : Bytes) :
    readWord .bare (bytesOf (quoteChars value) ++ rest)
      = (readWord .bare rest).map (prepend (bytesOf value)) := by
  rw [readWord_eq_map_unmark, readWord_eq_map_unmark, readMarked_quoteChars,
    map_unmark_prependMarks, bytes_quotedMarks]

/-- A quoted value at the end of a line is read as the value. This is how assignments and
the log line have it. -/
theorem readLastWord_quoteChars (value : List Char) (rest : Bytes) :
    readLastWord (bytesOf (quoteChars value) ++ byteOf '\n' :: rest)
      = some (bytesOf value, rest) := by
  have hend : readWord .bare (byteOf '\n' :: rest) = some ([], byteOf '\n' :: rest) := by
    rw [readWord, if_neg (by decide), if_neg (by decide), if_pos (by decide)]
  rw [readLastWord, readWord_quoteChars, hend]
  simp only [Option.map_some, prepend, List.append_nil, if_true]

/-! ### Texts -/

/-- The bytes of a quoted text and what stands behind it. -/
theorem encode_quote_append (value rest : String) :
    encode (quote value ++ rest) = bytesOf (quoteChars value.toList) ++ encode rest := by
  rw [encode, String.toList_append, quote, String.toList_ofList, List.flatMap_append, encode,
    bytesOf]

/-- The end of the text and the end of a line end a word. Anything else behind a quoted text
could go on with it. -/
theorem readMarked_lineEnd {rest : String} (h : rest = "" ∨ ∃ behind, rest = "\n" ++ behind) :
    readMarked .bare (encode rest) = some ([], encode rest) := by
  rcases h with rfl | ⟨behind, rfl⟩
  · rfl
  · have hbytes : encode ("\n" ++ behind) = byteOf '\n' :: encode behind := by
      rw [encode, String.toList_append, List.flatMap_append, encode]
      rfl
    rw [hbytes, readMarked, if_neg (by decide), if_neg (by decide), if_pos (by decide)]

/-- A quoted text that ends its line is read with these marks. -/
theorem readMarked_quote (value : String) {rest : String}
    (h : rest = "" ∨ ∃ behind, rest = "\n" ++ behind) :
    readMarked .bare (encode (quote value ++ rest))
      = some (value.toList.flatMap quotedMarks, encode rest) := by
  rw [encode_quote_append, readMarked_quoteChars, readMarked_lineEnd h, Option.map_some,
    prependMarks, List.append_nil]

/-- A quoted text that ends its line is read as the text. -/
theorem readWord_quote (value : String) {rest : String}
    (h : rest = "" ∨ ∃ behind, rest = "\n" ++ behind) :
    readWord .bare (encode (quote value ++ rest)) = some (encode value, encode rest) := by
  rw [readWord_eq_map_unmark, readMarked_quote value h, Option.map_some, unmark,
    bytes_quotedMarks]
  rfl

/-- No character of a value is read bare, and only a quote behind a backslash. -/
theorem quoting_of_mem_quotedMarks {c : Char} {m : Mark} (h : m ∈ quotedMarks c) :
    m.quoting = .single ∨ m.quoting = .escaped ∧ m.byte = byteOf '\'' := by
  obtain ⟨b, hb, rfl⟩ := List.mem_map.mp h
  by_cases hc : c = '\''
  · rw [hc, Text.utf8EncodeChar_ascii (by decide), List.mem_singleton] at hb
    exact .inr ⟨if_pos hc, hb⟩
  · exact .inl (if_neg hc)

/-- **A shell undoes the quoting.** Where a quoted value ends its line, a shell reads
exactly the value and leaves exactly what stands behind it. Each character of the value
was between quotes when it was read, except that its quotes were behind a backslash; none
was bare. So no two values look alike when they are quoted. -/
theorem quote_read_back (value rest : String)
    (hrest : rest = "" ∨ ∃ behind, rest = "\n" ++ behind) :
    readWord .bare (encode (quote value ++ rest)) = some (encode value, encode rest) ∧
    readMarked .bare (encode (quote value ++ rest))
      = some (value.toList.flatMap quotedMarks, encode rest) ∧
    (∀ m ∈ value.toList.flatMap quotedMarks,
      m.quoting = .single ∨ m.quoting = .escaped ∧ m.byte = byteOf '\'') ∧
    Function.Injective quote := by
  refine ⟨readWord_quote value hrest, readMarked_quote value hrest, fun m hm => ?_,
    fun v w heq => ?_⟩
  · obtain ⟨c, -, hmark⟩ := List.mem_flatMap.mp hm
    exact quoting_of_mem_quotedMarks hmark
  · -- Both are what is read from the one quoted text.
    have hread : ∀ u, readWord .bare (encode (quote u ++ "")) = some (encode u, encode "") :=
      fun u => readWord_quote u (.inl rfl)
    -- The word that is read is the value, so equal texts have equal values.
    have hsame := (hread v).symm.trans (heq ▸ hread w)
    exact Text.encode_injective (congrArg Prod.fst (Option.some.inj hsame))

/-- `quote_read_back` for a value of quotes, a backslash in front of one, and a line end,
with a further line behind it that looks like the rest of the value. -/
theorem quote_read_back_lookalike :
    let value := "'it\\'s\n''"
    let rest := "\n's\n''\n"
    (rest = "" ∨ ∃ behind, rest = "\n" ++ behind) ∧
      quote value = "''\\''it\\'\\''s\n'\\'''\\'''" ∧
      readWord .bare (encode (quote value ++ rest)) = some (encode value, encode rest) := by
  intro value rest
  have hrest : rest = "" ∨ ∃ behind, rest = "\n" ++ behind := .inr ⟨"'s\n''\n", by decide⟩
  exact ⟨hrest, by decide, (quote_read_back value rest hrest).1⟩

end ScriptMatrix.Shell
