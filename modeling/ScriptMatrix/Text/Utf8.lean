/-!
# `ScriptMatrix.Text.Utf8`: bytes and the text they encode

Documents and scripts are byte strings; only some of their parts have to
be text. `decode` reads well-formed UTF-8 (Unicode's table 3-7) and tells
where and how the first ill-formed sequence breaks off, `decodeLossy`
puts U+FFFD in place of every ill-formed sequence, and `encode` writes.
-/

set_option autoImplicit false

namespace ScriptMatrix

/-- The content of a file, a script or a line. -/
abbrev Bytes := List UInt8

namespace Text

/-- The bytes of a text in UTF-8. -/
def encode (s : String) : Bytes := s.toList.flatMap String.utf8EncodeChar

/-- What is wrong with bytes that are not UTF-8, and where. -/
inductive Utf8Fault where
  /-- The `length` bytes from `index` on begin no well-formed sequence. -/
  | invalid (length index : Nat)
  /-- The bytes end inside the sequence that starts at `index`. -/
  | incomplete (index : Nat)
  deriving Repr, DecidableEq

/-- The fault in words. -/
def Utf8Fault.message : Utf8Fault → String
  | .invalid length index =>
    "invalid utf-8 sequence of " ++ toString length ++ " bytes from index " ++ toString index
  | .incomplete index => "incomplete utf-8 byte sequence from index " ++ toString index

/-- What the front of a byte string holds. -/
inductive Utf8Front where
  /-- A character, and how many bytes it takes. -/
  | scalar (c : Char) (width : Nat)
  /-- So many bytes that begin no well-formed sequence. -/
  | invalid (length : Nat)
  /-- The beginning of a sequence that the end of the bytes cuts off. -/
  | incomplete
  deriving Repr, DecidableEq

/-- A byte that may follow the second one of a sequence. -/
def isContinuation (b : UInt8) : Bool := 0x80 ≤ b && b ≤ 0xbf

/-- The second byte that a sequence of three or four bytes may have after
its first byte `b₀`: the limits keep out overlong forms, surrogates and
values above U+10FFFF. -/
def secondByteAllowed (b₀ b₁ : UInt8) : Bool :=
  let low : UInt8 := if b₀ == 0xe0 then 0xa0 else if b₀ == 0xf0 then 0x90 else 0x80
  let high : UInt8 := if b₀ == 0xed then 0x9f else if b₀ == 0xf4 then 0x8f else 0xbf
  low ≤ b₁ && b₁ ≤ high

/-- The payload bits of a continuation byte. -/
def payload (b : UInt8) : Nat := b.toNat % 64

/-- Reads the front of the bytes `b₀ :: rest`. -/
def utf8Front (b₀ : UInt8) (rest : Bytes) : Utf8Front :=
  if b₀ < 0x80 then .scalar (Char.ofNat b₀.toNat) 1
  else if b₀ < 0xc2 || 0xf4 < b₀ then .invalid 1
  else if b₀ < 0xe0 then
    match rest with
    | [] => .incomplete
    | b₁ :: _ =>
      if isContinuation b₁ then
        .scalar (Char.ofNat ((b₀.toNat - 0xc0) * 64 + payload b₁)) 2
      else .invalid 1
  else
    match rest with
    | [] => .incomplete
    | b₁ :: rest₂ =>
      if !secondByteAllowed b₀ b₁ then .invalid 1
      else
        match rest₂ with
        | [] => .incomplete
        | b₂ :: rest₃ =>
          if !isContinuation b₂ then .invalid 2
          else if b₀ < 0xf0 then
            .scalar (Char.ofNat (((b₀.toNat - 0xe0) * 64 + payload b₁) * 64 + payload b₂)) 3
          else
            match rest₃ with
            | [] => .incomplete
            | b₃ :: _ =>
              if !isContinuation b₃ then .invalid 3
              else
                .scalar (Char.ofNat
                  ((((b₀.toNat - 0xf0) * 64 + payload b₁) * 64 + payload b₂) * 64
                    + payload b₃)) 4

/-- `decode` of the bytes that stand at `index`. -/
def decodeFrom (index : Nat) : Bytes → Except Utf8Fault (List Char)
  | [] => .ok []
  | b :: rest =>
    match utf8Front b rest with
    | .scalar c width => do
      let cs ← decodeFrom (index + width) (rest.drop (width - 1))
      return c :: cs
    | .invalid length => .error (.invalid length index)
    | .incomplete => .error (.incomplete index)
termination_by bs => bs.length
decreasing_by
  simp only [List.length_drop, List.length_cons]
  omega

/-- The text that the bytes encode, or the first fault. -/
def decode (bs : Bytes) : Except Utf8Fault String := (decodeFrom 0 bs).map String.ofList

/-- The text of the bytes with U+FFFD for every ill-formed sequence, and
for an incomplete one at the end. -/
def decodeLossyChars : Bytes → List Char
  | [] => []
  | b :: rest =>
    match utf8Front b rest with
    | .scalar c width => c :: decodeLossyChars (rest.drop (width - 1))
    | .invalid length => Char.ofNat 0xfffd :: decodeLossyChars (rest.drop (length - 1))
    | .incomplete => [Char.ofNat 0xfffd]
termination_by bs => bs.length
decreasing_by all_goals
  simp only [List.length_drop, List.length_cons]
  omega

/-- `decodeLossyChars` as a string. -/
def decodeLossy (bs : Bytes) : String := String.ofList (decodeLossyChars bs)

end Text

end ScriptMatrix
