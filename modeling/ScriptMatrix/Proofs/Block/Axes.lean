import ScriptMatrix.Proofs.Block.Reading
import ScriptMatrix.Proofs.Yaml.Equality

/-!
# `ScriptMatrix.Proofs.Block.Axes`: which data declares axes

Axes are declared by null, which declares none, and by a mapping from scalars to lists of
scalars, which declares one axis for each entry, in order. Everything else has a fault,
and of several faults the first in the order of the data counts: the value itself, else in
the first entry that does not fit its name, else the kind of its values, else the first of
them that is no scalar.

`reads_valueOf`, `reads_ofEntry` and `reads_ofValue` say this of items, entries and values,
each by the one before. `parse_shape` says it of the text of a block.
-/

set_option autoImplicit false

namespace ScriptMatrix

open Yaml (Value)
open Yaml.Value (IsScalar HasText scalarText?_eq_some_iff scalarText?_eq_none_iff
  exists_hasText_iff)

/-! ### Entries -/

namespace Axis

/-- A value on an axis that is no scalar. The fault names the axis and says what kind of
value it is. -/
def FaultyItem (name : String) (v : Value) (fault : AxisFault) : Prop :=
  ¬v.IsScalar ∧ fault = .valueNotScalar name v.kind

/-- An entry that is an axis: a scalar with a list of scalars. The list may be empty, and
then the axis has no values. -/
structure FitsEntry (e : Value × Value) : Prop where
  name : e.1.IsScalar
  values : ∃ items, e.2 = .list items ∧ ∀ i ∈ items, i.IsScalar

/-- The axis of an entry has the text of its key and the texts of its values, in order. -/
structure DeclaredBy (e : Value × Value) (a : Axis) : Prop where
  name : e.1.HasText a.name
  values : ∃ items, e.2 = .list items ∧ List.Forall₂ HasText items a.values

/-- What keeps an entry from being an axis. The constructors are in the order in which an
entry is looked at: a later one says that what comes before is in order. -/
inductive FaultyEntry : Value × Value → AxisFault → Prop
  | name {key value : Value} (hkey : ¬key.IsScalar) :
      FaultyEntry (key, value) (.nameNotScalar key.kind)
  | values {key value : Value} {name : String} (hname : key.HasText name)
      (hvalue : value.kind ≠ .list) :
      FaultyEntry (key, value) (.valuesNotList name value.kind)
  | item {key : Value} {name : String} {items : List Value} {fault : AxisFault}
      (hname : key.HasText name) (hitem : FirstFault IsScalar (FaultyItem name) items fault) :
      FaultyEntry (key, .list items) fault

/-- A value on an axis is its text, as `Reads` says it. The name of the axis only comes into
the fault. -/
theorem reads_valueOf (name : String) :
    Reads (valueOf name) IsScalar HasText (FaultyItem name) := by
  refine .of_covers (fun v => exists_hasText_iff) ?_ ?_ fun v => ?_
  · intro v text htext
    rw [valueOf, scalarText?_eq_some_iff.mpr htext]
  · rintro v fault ⟨hscalar, rfl⟩
    rw [valueOf, scalarText?_eq_none_iff.mpr hscalar]
  · by_cases hscalar : v.IsScalar
    · exact .inl (exists_hasText_iff.mpr hscalar)
    · exact .inr ⟨_, hscalar, rfl⟩

/-- An entry with a name and a list is read item by item. Both the axis and the fault of
such an entry are those of `List.mapM`. -/
theorem ofEntry_list {key : Value} {name : String} (hname : key.HasText name)
    (items : List Value) :
    ofEntry key (.list items) = do return ⟨name, ← items.mapM (valueOf name)⟩ := by
  rw [ofEntry, scalarText?_eq_some_iff.mpr hname]

/-- An entry that is an axis declares one, and nothing else does. The text of its key is
there since it is a scalar, and the texts of its values by `Reads.mapM`. -/
theorem exists_declaredBy_iff (e : Value × Value) : (∃ a, DeclaredBy e a) ↔ FitsEntry e := by
  constructor
  · rintro ⟨a, hname, items, hitems, htexts⟩
    refine ⟨exists_hasText_iff.mp ⟨_, hname⟩, items, hitems, ?_⟩
    exact ((reads_valueOf a.name).mapM.exists_declares_iff items).mp ⟨_, htexts⟩
  · rintro ⟨hscalar, items, hitems, hscalars⟩
    obtain ⟨name, hname⟩ := exists_hasText_iff.mpr hscalar
    obtain ⟨texts, htexts⟩ := ((reads_valueOf name).mapM.exists_declares_iff items).mpr hscalars
    exact ⟨⟨name, texts⟩, hname, items, hitems, htexts⟩

/-- An entry is read as the axis that it declares: `ofEntry` finds both the name and the
list. -/
theorem ofEntry_of_declaredBy {e : Value × Value} {a : Axis} (h : DeclaredBy e a) :
    ofEntry e.1 e.2 = .ok a := by
  obtain ⟨hname, items, hitems, htexts⟩ := h
  rw [hitems, ofEntry_list hname, ((reads_valueOf a.name).mapM.ok_iff _ _).mpr htexts]
  rfl

/-- The fault of an entry is found, one case for each thing that `ofEntry` looks at. -/
theorem ofEntry_of_faulty {e : Value × Value} {fault : AxisFault} (h : FaultyEntry e fault) :
    ofEntry e.1 e.2 = .error fault := by
  cases h with
  | name hkey => rw [ofEntry, scalarText?_eq_none_iff.mpr hkey]
  | @values key value name hname hvalue =>
    rw [ofEntry, scalarText?_eq_some_iff.mpr hname]
    cases value with
    | list items => exact absurd rfl hvalue
    | null | bool _ | number _ | string _ | mapping _ | tagged _ _ => rfl
  | @item key name items fault hname hitem =>
    rw [ofEntry_list hname, ((reads_valueOf name).mapM.error_iff _ _).mpr hitem]
    rfl

/-- An entry declares an axis or has a fault, by the things that `ofEntry` looks at in their
order. -/
theorem entry_covers (e : Value × Value) :
    (∃ a, DeclaredBy e a) ∨ ∃ fault, FaultyEntry e fault := by
  obtain ⟨key, value⟩ := e
  by_cases hscalar : key.IsScalar
  · obtain ⟨name, hname⟩ := exists_hasText_iff.mpr hscalar
    cases value with
    | list items =>
      -- The items have their texts, or one of them is the first without.
      rcases (reads_valueOf name).mapM.covers items with ⟨texts, htexts⟩ | ⟨fault, hitem⟩
      · exact .inl ⟨⟨name, texts⟩, hname, items, rfl, htexts⟩
      · exact .inr ⟨fault, .item hname hitem⟩
    | null | bool _ | number _ | string _ | mapping _ | tagged _ _ =>
      exact .inr ⟨_, .values hname (by simp [Value.kind])⟩
  · exact .inr ⟨_, .name hscalar⟩

/-- An entry is its axis. `Reads.of_covers` puts the four lemmas above together. -/
theorem reads_ofEntry : Reads (fun e => ofEntry e.1 e.2) FitsEntry DeclaredBy FaultyEntry :=
  .of_covers exists_declaredBy_iff (fun _ _ => ofEntry_of_declaredBy)
    (fun _ _ => ofEntry_of_faulty) entry_covers

end Axis

/-! ### Values -/

namespace AxisSet

/-- Data that declares axes: null, or a mapping whose entries are axes. -/
def Fits : Value → Prop
  | .null => True
  | .mapping entries => ∀ e ∈ entries, Axis.FitsEntry e
  | _ => False

/-- The axes that data declares, one for each entry in order. Equal names are not merged. -/
inductive Declared : Value → AxisSet → Prop
  | null : Declared .null ⟨[]⟩
  | mapping {entries : List (Value × Value)} {axes : List Axis}
      (haxes : List.Forall₂ Axis.DeclaredBy entries axes) : Declared (.mapping entries) ⟨axes⟩

/-- The fault of data that declares no axes. -/
inductive Faulty : Value → AxisFault → Prop
  | kind {v : Value} (hnull : v.kind ≠ .null) (hmapping : v.kind ≠ .mapping) :
      Faulty v (.notMapping v.kind)
  | entry {entries : List (Value × Value)} {fault : AxisFault}
      (hentry : FirstFault Axis.FitsEntry Axis.FaultyEntry entries fault) :
      Faulty (.mapping entries) fault

/-- Data that fits declares axes, and nothing else does. A mapping goes entry by entry, and
data of any other kind than null neither fits nor declares. -/
theorem exists_declared_iff (v : Value) : (∃ s, Declared v s) ↔ Fits v := by
  cases v with
  | null => exact iff_of_true ⟨_, .null⟩ trivial
  | mapping entries =>
    refine Iff.trans ⟨fun ⟨_, h⟩ => ?_, fun ⟨axes, haxes⟩ => ⟨⟨axes⟩, .mapping haxes⟩⟩
      (Axis.reads_ofEntry.mapM.exists_declares_iff entries)
    cases h with
    | mapping haxes => exact ⟨_, haxes⟩
  | bool _ | number _ | string _ | list _ | tagged _ _ =>
    exact iff_of_false (fun ⟨_, h⟩ => (by cases h)) id

/-- Data is read as the axes that it declares. -/
theorem ofValue_of_declared {v : Value} {s : AxisSet} (h : Declared v s) : ofValue v = .ok s := by
  cases h with
  | null => rfl
  | mapping haxes =>
    rw [ofValue, (Axis.reads_ofEntry.mapM.ok_iff _ _).mpr haxes]
    rfl

/-- The fault of data is found: its kind, or the first fault among its entries. -/
theorem ofValue_of_faulty {v : Value} {fault : AxisFault} (h : Faulty v fault) :
    ofValue v = .error fault := by
  cases h with
  | kind hnull hmapping =>
    cases v with
    | null => exact absurd rfl hnull
    | mapping _ => exact absurd rfl hmapping
    | bool _ | number _ | string _ | list _ | tagged _ _ => rfl
  | entry hentry =>
    rw [ofValue, (Axis.reads_ofEntry.mapM.error_iff _ _).mpr hentry]
    rfl

/-- Data declares axes or has a fault, by its kind and the entries of a mapping. -/
theorem value_covers (v : Value) : (∃ s, Declared v s) ∨ ∃ fault, Faulty v fault := by
  cases v with
  | null => exact .inl ⟨_, .null⟩
  | mapping entries =>
    rcases Axis.reads_ofEntry.mapM.covers entries with ⟨axes, haxes⟩ | ⟨fault, hentry⟩
    · exact .inl ⟨_, .mapping haxes⟩
    · exact .inr ⟨fault, .entry hentry⟩
  | bool _ | number _ | string _ | list _ | tagged _ _ =>
    exact .inr ⟨_, .kind (by simp [Value.kind]) (by simp [Value.kind])⟩

/-- Data is the axes that it declares, for every value that there is, whether or not a text
describes it. `parse_shape` and `texts_of_ofValue` take from here all that they say. -/
theorem reads_ofValue : Reads ofValue Fits Declared Faulty :=
  .of_covers exists_declared_iff (fun _ _ => ofValue_of_declared)
    (fun _ _ => ofValue_of_faulty) value_covers

/-- **Which blocks declare axes.** Take a text and the data it describes. The text is parsed
just if the data is null or a mapping from scalars to lists of scalars, and the axes are
then one for each entry, in order, with the text of its key and those of its values.
Otherwise the error is the first fault, and says so: the kind of the data itself, else of
the first entry that is no axis the name, else the kind of its values, else the first of
them that is no scalar. -/
theorem parse_shape {text : String} {v : Value} (h : Yaml.read text = .ok v) :
    ((∃ s, parse text = .ok s) ↔ Fits v) ∧
    (∀ s, parse text = .ok s ↔ Declared v s) ∧
    ∀ e, parse text = .error e ↔ ∃ fault, Faulty v fault ∧
      e = .malformedAxes (.shape fault) none ∧
      e.message = "Malformed params block: " ++ fault.message := by
  obtain ⟨hfits, hok, herror⟩ := reads_ofValue.block (fun f => .malformedAxes f none) h
  refine ⟨hfits, hok, fun e => (herror e).trans ?_⟩
  -- The error has the fault in it, and its message is the one of the fault, with no place
  -- behind it.
  refine exists_congr fun fault => and_congr_right fun _ => ⟨fun he => ⟨he, ?_⟩, And.left⟩
  rw [he]
  exact String.append_empty

/-- `parse_shape` for an entry that is an axis, with null among its values, in front of one
that is none because of its second value and one that has no name. -/
theorem parse_shape_second_value :
    let text := "a: [x, ~, x]\nb: [x, []]\n? []\n: c\n"
    let v : Value := .mapping [(.string "a", .list [.string "x", .null, .string "x"]),
      (.string "b", .list [.string "x", .list []]), (.list [], .string "c")]
    Yaml.read text = .ok v ∧ ¬Fits v ∧
      parse text = .error (.malformedAxes (.shape (.valueNotScalar "b" .list)) none) := by
  intro text v
  have hread : Yaml.read text = .ok v := by decide +kernel
  obtain ⟨hfits, -, herror⟩ := parse_shape hread
  have hfirst : Axis.FitsEntry (.string "a", .list [.string "x", .null, .string "x"]) :=
    ⟨by decide, [.string "x", .null, .string "x"], rfl, by decide⟩
  have hitem : FirstFault IsScalar (Axis.FaultyItem "b") [.string "x", .list []]
      (.valueNotScalar "b" .list) :=
    ⟨[.string "x"], .list [], [], rfl, by decide, by decide, rfl⟩
  have hfault : Faulty v (.valueNotScalar "b" .list) :=
    .entry ⟨[(.string "a", .list [.string "x", .null, .string "x"])],
      (.string "b", .list [.string "x", .list []]), [(.list [], .string "c")], rfl,
      List.forall_mem_singleton.mpr hfirst, .item (.string "b") hitem⟩
  have hparse := (herror _).mpr ⟨_, hfault, rfl, rfl⟩
  refine ⟨hread, fun h => ?_, hparse⟩
  obtain ⟨s, hs⟩ := hfits.mpr h
  cases hparse.symm.trans hs

end AxisSet

end ScriptMatrix
