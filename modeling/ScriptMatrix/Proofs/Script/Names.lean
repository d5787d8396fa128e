import ScriptMatrix.Matrix
import ScriptMatrix.Proofs.Axis.Enumeration
import ScriptMatrix.Proofs.Script.Reading

/-!
# `ScriptMatrix.Proofs.Script.Names`: names that a shell takes as names

Values are quoted and overrides have shell names, but the names of axes and
of default parameters stand in a script as the document has them. A shell
that reads the header of a script finds one assignment for every entry just
if all these names are names of shell variables: `readHeader_iff_names`.
Any other name is taken for something else, which may be a command
(`readHeader_command_in_name`).

One direction is what a shell reads in a script (`readHeader_render`). The
other holds of any text: whatever is read as an assignment has the name of
a variable (`Shell.isName_of_readHeader`), and a name with the bytes of one
is one (`Shell.isName_of_encode`).
-/

set_option autoImplicit false

namespace ScriptMatrix

namespace Shell

open Text (bytesOf_ascii encode byteOf toNat_byteOf)

/-- A command that assigns has the name of a variable. `readCommand` asks for one before it
reads the value. -/
theorem isName_of_readCommand {bs name value rest : Bytes}
    (h : readCommand bs = some (.assignment name value, rest)) :
    isName (name.map charOf) = true := by
  unfold readCommand at h
  dsimp only at h
  split at h
  · cases h
  · split at h
    · split at h
      · rename_i hname
        obtain ⟨read, -, heq⟩ := Option.map_eq_some_iff.mp h
        cases heq
        exact hname
      · cases h
    · split at h
      · obtain ⟨read, -, heq⟩ := Option.map_eq_some_iff.mp h
        cases heq
      · cases h

/-- A line that assigns has the name of a variable, as it is a command. -/
theorem isName_of_readLine {bs name value rest : Bytes}
    (h : readLine bs = some (.assignment name value, rest)) :
    isName (name.map charOf) = true := by
  cases bs with
  | nil => cases h
  | cons c behind =>
    rw [readLine] at h
    split at h
    · cases h
    · split at h
      · cases h
      · exact isName_of_readCommand h

/-- Whatever a header assigns has the name of a variable. The induction is on the lines that
`readHeader` goes through. -/
theorem isName_of_readHeader {bs : Bytes} {h : Header} (hread : readHeader bs = some h) :
    ∀ a ∈ h.assignments, isName (a.1.map charOf) = true := by
  fun_induction readHeader bs generalizing h with
  | case1 => cases hread
  | case2 bs rest hline ih => exact ih hread
  | case3 bs name value rest hline ih =>
    obtain ⟨below, hbelow, rfl⟩ := Option.map_eq_some_iff.mp hread
    exact List.forall_mem_cons.mpr ⟨isName_of_readLine hline, ih hbelow⟩
  | case4 bs word rest hline =>
    cases hread
    exact fun a ha => absurd ha List.not_mem_nil

/-- A byte that stands for a character of names is ASCII. -/
theorem toNat_lt_of_isNameChar {b : UInt8} (h : isNameChar (charOf b) = true) : b.toNat < 128 := by
  have hvalid : b.toNat.isValidChar := .inl (Nat.lt_trans b.toNat_lt (by decide))
  have hsame : (charOf b).toNat = b.toNat := by
    rw [charOf, Char.ofNat, dif_pos hvalid]
    rfl
  exact hsame ▸ isNameChar_ascii h

/-- A text with the bytes of a name is a name. This takes a header, which is in bytes, back
to the texts of the entries. -/
theorem isName_of_encode {name : String} (h : isName ((encode name).map charOf) = true) :
    isName name.toList = true := by
  -- A name is ASCII, and so are its bytes.
  have hbytes : ∀ b ∈ encode name, b.toNat < 128 := fun b hb =>
    toNat_lt_of_isNameChar (isNameChar_of_isName h _ (List.mem_map_of_mem hb))
  -- Any character beyond ASCII would have left a byte beyond it.
  have hascii : ∀ c ∈ name.toList, c.toNat < 128 := fun c hc => by
    by_contra hhigh
    have hfirst : ∃ b, b ∈ String.utf8EncodeChar c :=
      List.exists_mem_of_ne_nil _ (String.utf8EncodeChar_ne_nil)
    obtain ⟨b, hb⟩ := hfirst
    have hlow := hbytes b (List.mem_flatMap.mpr ⟨c, hc, hb⟩)
    have hlarge := Text.utf8EncodeChar_high (Nat.le_of_not_lt hhigh) b hb
    omega
  have hchars : (encode name).map charOf = name.toList := by
    rw [show encode name = name.toList.map byteOf from bytesOf_ascii hascii, List.map_map]
    conv => rhs; rw [← List.map_id name.toList]
    exact List.map_congr_left fun c hc => charOf_byteOf (hascii c hc)
  exact hchars ▸ h

end Shell

/-- The names of a binding are those of its axes, in order. A binding of `emit` has one
entry for each axis. -/
theorem names_of_mem_emit {axes : List Axis} {entries : List (String × String)}
    (h : entries ∈ emit axes) : entries.map (·.1) = axes.map (·.name) := by
  induction axes generalizing entries with
  | nil =>
    rw [emit, List.mem_singleton] at h
    rw [h]
    rfl
  | cons a axes ih =>
    obtain ⟨v, -, hmem⟩ := List.mem_flatMap.mp h
    obtain ⟨behind, hbehind, rfl⟩ := List.mem_map.mp hmem
    rw [List.map_cons, List.map_cons, ih hbehind]

/-- A binding that an odometer gives is one of its axes, at whatever call. -/
theorem Odometer.mem_emit_of_answer {s : AxisSet} {k : Nat} {b : Binding}
    (h : Odometer.answer s k = some b) : b.entries ∈ emit s.axes := by
  rw [Odometer.answer, (Odometer.after_stands s k).next.1] at h
  obtain ⟨entries, hentries, rfl⟩ := Option.map_eq_some_iff.mp h
  exact List.mem_of_getElem? hentries

/-- The names of a binding that an odometer gives are those of its axes. -/
theorem Odometer.names_of_answer {s : AxisSet} {k : Nat} {b : Binding}
    (h : Odometer.answer s k = some b) : b.entries.map (·.1) = s.axes.map (·.name) :=
  names_of_mem_emit (mem_emit_of_answer h)

namespace Script

open Text (bytesOf encode)
open Shell (Header readHeader)

/-- However overrides have been added to a script, its text is rendered from its parts, and
its overrides have shell names. Nothing is asked of the names of the document. -/
theorem text_of_appends {name : String} {defaults : Defaults} {body : Bytes} {b : Binding}
    {calls : List (List String)} {s : Script}
    (h : calls.foldlM append (ofBinding name defaults body b) = .ok s) :
    s.text = render name defaults b s.overrides body ∧
      ∀ e ∈ s.overrides, Shell.isName e.1.toList = true := by
  obtain ⟨hsound, hparts⟩ := appends_sound (ofBinding_sound name defaults body b) h
  refine ⟨?_, fun e he => hsound.named.names e.1 (List.mem_map_of_mem he)⟩
  rw [hsound.current, hparts.name, hparts.defaults, hparts.binding, hparts.body]
  rfl

/-- The entries that a header assigns have shell names. This is the direction of
`readHeader_iff_names` that holds of any text. -/
theorem isName_of_assignments {entries : List (String × String)} {bs : Bytes} {h : Header}
    (hread : readHeader bs = some h) (hassign : h.assignments = entries.map encodeEntry) :
    ∀ e ∈ entries, Shell.isName e.1.toList = true := fun e he => by
  have hmem : encodeEntry e ∈ h.assignments := hassign ▸ List.mem_map_of_mem he
  exact Shell.isName_of_encode (Shell.isName_of_readHeader hread _ hmem)

/-- **A header is what it should be just if the names are.** Take a script
that a matrix yields, with any overrides that were accepted. What a shell
reads in front of the body is comments, empty lines, one assignment for
each default, each entry of the binding and each override, in this order,
and the `echo` of the log line, if and only if every default and every axis
of the matrix has the name of a shell variable. -/
theorem readHeader_iff_names {m : Matrix} {k : Nat} {b : Binding} {calls : List (List String)}
    {s : Script} (hb : Odometer.answer m.axes k = some b)
    (hcalls : calls.foldlM append (m.script b) = .ok s) :
    (∃ h : Header, readHeader s.text = some h ∧
      h.assignments = (m.defaults.entries ++ b.entries ++ s.overrides).map encodeEntry ∧
      h.echoed = bytesOf (logText m.name b) ∧ h.rest = m.body) ↔
    (∀ e ∈ m.defaults.entries, Shell.isName e.1.toList = true) ∧
      ∀ a ∈ m.axes.axes, Shell.isName a.name.toList = true := by
  obtain ⟨htext, hoverrides⟩ := text_of_appends hcalls
  -- The binding has the names of the axes.
  have hnames : (∀ e ∈ b.entries, Shell.isName e.1.toList = true) ↔
      ∀ a ∈ m.axes.axes, Shell.isName a.name.toList = true := by
    have hall : ∀ {names : List String}, names = b.entries.map (·.1) →
        ((∀ e ∈ b.entries, Shell.isName e.1.toList = true) ↔
          ∀ name ∈ names, Shell.isName name.toList = true) := fun heq => by
      rw [heq, List.forall_mem_map]
    rw [hall (Odometer.names_of_answer hb).symm, List.forall_mem_map]
  rw [← hnames]
  constructor
  · -- What is read as an assignment has a shell name, and all entries are assigned.
    rintro ⟨h, hread, hassign, -, -⟩
    have hall := isName_of_assignments hread hassign
    rw [List.append_assoc] at hall
    obtain ⟨hdefaults, hbehind⟩ := List.forall_mem_append.mp hall
    exact ⟨hdefaults, (List.forall_mem_append.mp hbehind).1⟩
  · rintro ⟨hdefaults, hbinding⟩
    exact ⟨_, htext ▸ readHeader_render m.name m.body hdefaults hbinding hoverrides, rfl, rfl, rfl⟩

/-- `readHeader_iff_names` where names are shell names and values hold what
would be a command outside of quotes. -/
theorem readHeader_iff_names_quoted :
    let m : Matrix := ⟨"net", ⟨"net.ms"⟩, ⟨[⟨"mode", ["tcp", "'; id; '"]⟩]⟩, ⟨[("size", "$(id)")]⟩,
      encode "run\n"⟩
    let b : Binding := ⟨[("mode", "'; id; '")]⟩
    let s := (m.script b).withOverrides [("size", "8\nid")]
    Odometer.answer m.axes 1 = some b ∧ [["size=8\nid"]].foldlM append (m.script b) = .ok s ∧
      (∀ e ∈ m.defaults.entries, Shell.isName e.1.toList = true) ∧
      (∀ a ∈ m.axes.axes, Shell.isName a.name.toList = true) ∧
      ∃ h : Header, readHeader s.text = some h ∧
        h.assignments = (m.defaults.entries ++ b.entries ++ s.overrides).map encodeEntry ∧
        h.echoed = bytesOf (logText m.name b) ∧ h.rest = m.body := by
  intro m b s
  have hb : Odometer.answer m.axes 1 = some b := by decide
  have hcalls : [["size=8\nid"]].foldlM append (m.script b) = .ok s := rfl
  have hdefaults : ∀ e ∈ m.defaults.entries, Shell.isName e.1.toList = true := by decide
  have haxes : ∀ a ∈ m.axes.axes, Shell.isName a.name.toList = true := by decide
  exact ⟨hb, hcalls, hdefaults, haxes, (readHeader_iff_names hb hcalls).mpr ⟨hdefaults, haxes⟩⟩

deriving instance DecidableEq for Matrix

/-- A document can name a default parameter so that a command stands in the
header of its script. The document is read without an error, and a shell
finds no header to read. -/
theorem readHeader_command_in_name :
    let fs : Files := ⟨[.bytes (encode "default_params:\n\"x; id; y\": 1\nend\n")],
      fun p => if p = ⟨"root.ms"⟩ then some 0 else none⟩
    let m : Matrix := ⟨"root", ⟨"root.ms"⟩, .empty, ⟨[("x; id; y", "1")]⟩, []⟩
    Matrix.read fs ⟨"root.ms"⟩ = .ok m ∧ Odometer.answer m.axes 0 = some ⟨[]⟩ ∧
      group "default params" m.defaults.entries = "# default params\nx; id; y='1'\n\n".toList ∧
      readHeader (m.script ⟨[]⟩).text = none := by
  refine ⟨?_, ?_, ?_, ?_⟩ <;> decide +kernel

end Script

end ScriptMatrix
