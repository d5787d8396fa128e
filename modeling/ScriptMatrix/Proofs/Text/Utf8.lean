import ScriptMatrix.Text.Utf8

/-!
# `ScriptMatrix.Proofs.Text.Utf8`: how text stands in bytes

UTF-8 writes an ASCII character as the one byte of its number and every
other character in bytes from 128 on. So what a byte-wise reader looks for
in ASCII is found where the text has it, and nowhere else
(`notMem_bytesOf`). Texts with the same bytes are the same
(`encode_injective`).
-/

set_option autoImplicit false

namespace ScriptMatrix.Text

/-- The byte of an ASCII character. For other characters it says nothing. -/
def byteOf (c : Char) : UInt8 := UInt8.ofNat c.toNat

/-- The byte of an ASCII character has its number. -/
theorem toNat_byteOf {c : Char} (h : c.toNat < 128) : (byteOf c).toNat = c.toNat := by
  rw [byteOf, UInt8.toNat_ofNat', Nat.mod_eq_of_lt (by omega)]

/-- The bytes of some characters. This is `encode` for lists, which proofs take apart. -/
def bytesOf (cs : List Char) : Bytes := cs.flatMap String.utf8EncodeChar

@[simp] theorem bytesOf_nil : bytesOf [] = [] := rfl

@[simp] theorem bytesOf_append (cs ds : List Char) :
    bytesOf (cs ++ ds) = bytesOf cs ++ bytesOf ds :=
  List.flatMap_append

theorem bytesOf_cons (c : Char) (cs : List Char) :
    bytesOf (c :: cs) = String.utf8EncodeChar c ++ bytesOf cs :=
  List.flatMap_cons

theorem encode_ofList (cs : List Char) : encode (String.ofList cs) = bytesOf cs := by
  rw [encode, String.toList_ofList, bytesOf]

/-- An ASCII character is the byte of its number. -/
theorem utf8EncodeChar_ascii {c : Char} (h : c.toNat < 128) :
    String.utf8EncodeChar c = [byteOf c] := by
  have hle : c.val.toNat ≤ 127 := Nat.le_of_lt_succ h
  rw [String.utf8EncodeChar, if_pos hle]
  rfl

theorem bytesOf_cons_ascii {c : Char} (h : c.toNat < 128) (cs : List Char) :
    bytesOf (c :: cs) = byteOf c :: bytesOf cs := by
  rw [bytesOf_cons, utf8EncodeChar_ascii h, List.singleton_append]

/-- The bytes of ASCII characters are theirs one by one. -/
theorem bytesOf_ascii {cs : List Char} (h : ∀ c ∈ cs, c.toNat < 128) :
    bytesOf cs = cs.map byteOf := by
  induction cs with
  | nil => rfl
  | cons c cs ih =>
    obtain ⟨hc, hcs⟩ := List.forall_mem_cons.mp h
    rw [bytesOf_cons_ascii hc, ih hcs, List.map_cons]

/-- The bytes of any other character are no ASCII. So no part of a character can be taken
for a newline, a quote or a sign. -/
theorem utf8EncodeChar_high {c : Char} (h : 128 ≤ c.toNat) :
    ∀ b ∈ String.utf8EncodeChar c, 128 ≤ b.toNat := by
  have hlow : ¬c.val.toNat ≤ 127 := Nat.not_le_of_lt h
  rw [String.utf8EncodeChar, if_neg hlow]
  -- Each byte of the two, three or four is a remainder and a lead of its own.
  split
  · simp
    omega
  · split
    · simp
      omega
    · simp
      omega

/-- What some characters do not have, their bytes do not have either. A reader that looks
for ASCII bytes finds characters by this. -/
theorem notMem_bytesOf {c : Char} (hc : c.toNat < 128) {cs : List Char} (h : c ∉ cs) :
    byteOf c ∉ bytesOf cs := by
  intro hmem
  obtain ⟨d, hd, hbyte⟩ := List.mem_flatMap.mp hmem
  -- The byte comes from some character: an ASCII one is `c` itself, any other has no such
  -- byte.
  by_cases hascii : d.toNat < 128
  · rw [utf8EncodeChar_ascii hascii, List.mem_singleton] at hbyte
    have hsame : c.toNat = d.toNat := by rw [← toNat_byteOf hc, hbyte, toNat_byteOf hascii]
    exact h (Char.toNat_inj.mp hsame ▸ hd)
  · have hhigh := utf8EncodeChar_high (by omega) _ hbyte
    rw [toNat_byteOf hc] at hhigh
    omega

/-- Texts with the same bytes are the same. -/
theorem encode_injective {s t : String} (h : encode s = encode t) : s = t := by
  -- Strings are told apart by their byte arrays, and `encode` lists the bytes.
  have hbytes : ∀ u : String, u.toByteArray = (encode u).toByteArray := fun u => by
    conv => lhs; rw [← String.ofList_toList (s := u)]
    rw [String.toByteArray_ofList]
    rfl
  exact String.toByteArray_inj.mp (by rw [hbytes, hbytes, h])

end ScriptMatrix.Text
