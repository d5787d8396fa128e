import ScriptMatrix.Proofs.Block.Axes
import ScriptMatrix.Proofs.Script.Names
import ScriptMatrix.Proofs.Script.Recovery
import ScriptMatrix.Proofs.Yaml.Keys

/-!
# `ScriptMatrix.Proofs.Axis.Names`: when the names of axes are distinct

The names of axes are the texts of the keys of a block (`AxisSet.texts_of_ofValue`).
The keys differ as values, but a string key can spell a null, a boolean or a number key,
and only then two axes get one name (`AxisSet.names_distinct_iff`).

With distinct names a binding has each name once, with a value of its axis
(`exists_value_of_mem_emit`). Looking a name up from the front then gives the value that
the section of the binding leaves a shell with (`Script.sectionLeaves_of_lookup`). Where
a name comes twice, the two can differ.
-/

set_option autoImplicit false

namespace ScriptMatrix

open Text (bytesOf encode)
open Yaml (Value)

/-! ### The names of axes -/

namespace AxisSet

/-- The names of the axes, in order and as often as they come. -/
def names (s : AxisSet) : List String := s.axes.map (·.name)

/-- The axes are named by the texts of the keys, in order. So two axes have one name just if
two keys have one text, and the question is about keys (`Yaml.Value.nodup_texts_iff`). -/
theorem texts_of_ofValue {v : Value} {s : AxisSet} (h : ofValue v = .ok s) :
    v.keys.map Value.scalarText? = s.names.map some := by
  cases (reads_ofValue.ok_iff v s).mp h with
  | null => rfl
  | mapping haxes =>
    rw [names, Value.keys, List.map_map, List.map_map, ← List.forall₂_eq_eq_eq,
      List.forall₂_map_left_iff, List.forall₂_map_right_iff]
    -- Both lists go along the entries, so one entry and its axis are left to look at.
    exact haxes.imp fun _ _ ha => Value.scalarText?_eq_some_iff.mpr ha.name

/-- Parsed axes come from data that was read: `parse` is `Yaml.read` and then `ofValue`, and
both have succeeded. What holds of all data that is read, `Yaml.sound_of_read`, so holds of
it. -/
theorem read_of_parse {text : String} {s : AxisSet} (h : parse text = .ok s) :
    ∃ v, Yaml.read text = .ok v ∧ ofValue v = .ok s := by
  have hblock : BlockFault.read ofValue text = .ok s := mapError_eq_ok.mp h
  rw [BlockFault.read] at hblock
  split at hblock
  · cases hblock
  · rename_i v hread
    exact ⟨v, hread, mapError_eq_ok.mp hblock⟩

end AxisSet

/-! ### The entries of bindings -/

/-- A binding has a value of each axis under the name of the axis. Where the names are not
distinct there may be another value under it too. -/
theorem exists_value_of_mem_emit {axes : List Axis} {entries : List (String × String)}
    (h : entries ∈ emit axes) : ∀ a ∈ axes, ∃ value ∈ a.values, (a.name, value) ∈ entries := by
  induction axes generalizing entries with
  | nil => exact List.forall_mem_nil _
  | cons a axes ih =>
    -- `emit` puts each value of the first axis in front of all bindings of the others.
    obtain ⟨value, hvalue, hmem⟩ := List.mem_flatMap.mp h
    obtain ⟨behind, hbehind, rfl⟩ := List.mem_map.mp hmem
    refine List.forall_mem_cons.mpr ⟨⟨value, hvalue, List.mem_cons_self⟩, fun a' ha' => ?_⟩
    obtain ⟨value', hvalue', hentry⟩ := ih hbehind a' ha'
    exact ⟨value', hvalue', List.mem_cons_of_mem _ hentry⟩

/-- Where no name comes twice, an entry is found under its name. The one that is found first
is the only one. -/
theorem lookup_of_mem {entries : List (String × String)} (hnodup : (entries.map (·.1)).Nodup)
    {e : String × String} (he : e ∈ entries) : entries.lookup e.1 = some e.2 := by
  obtain ⟨front, behind, rfl⟩ := List.append_of_mem he
  rw [List.map_append, List.map_cons, List.nodup_append] at hnodup
  -- The entries in front have other names, so none of them is found first.
  refine List.lookup_eq_some_iff.mpr ⟨front, behind, rfl, fun e' he' => ?_⟩
  have hne : e'.1 ≠ e.1 := hnodup.2.2 e'.1 (List.mem_map_of_mem he') e.1 List.mem_cons_self
  simpa using hne.symm

namespace Script

/-- The section of a script that assigns the entries of its binding. Every script of the
binding has it, whatever its name, defaults, overrides and body are. -/
def bindingSection (b : Binding) : Bytes := bytesOf (group "test params" b.entries)

/-- In every script of a binding, its section leaves a variable with a value, whatever the
variables were before. The section is read as a shell reads it (`Shell.readGroup`), and what
is read is carried out in order. -/
def SectionLeaves (b : Binding) (var value : String) : Prop :=
  ∀ (name : String) (defaults : Defaults) (overrides : List (String × String)) (body : Bytes),
    ∃ behind assignments,
      render name defaults b overrides body = bytesOf opening
        ++ (bytesOf (group "default params" defaults.entries) ++ (bindingSection b ++ behind)) ∧
      Shell.readGroup (bindingSection b ++ behind) = some (assignments, behind) ∧
      ∀ before, assignments.foldl Shell.Environment.assign before (encode var)
        = some (encode value)

/-- What is found under a name from the back is what the section leaves: of several
assignments to a variable the last counts. -/
theorem sectionLeaves_of_lookup {b : Binding}
    (hnames : ∀ e ∈ b.entries, Shell.isName e.1.toList = true) {var value : String}
    (h : b.entries.reverse.lookup var = some value) : SectionLeaves b var value := by
  intro name defaults overrides body
  refine ⟨_, b.entries.map encodeEntry, render_eq name defaults b overrides body,
    readGroup_group (by decide) hnames _, fun before => ?_⟩
  rw [foldl_assign_encode, h]
  rfl

end Script

namespace AxisSet

/-- **Axes have distinct names unless a string key spells another key.** Take any text
that is parsed. Its axes are named by the texts of the keys in the data that was read,
and these keys differ as values. Then two axes have one name just if one key is a
string, the other is null, a boolean or a number, and both are written alike.

Each binding has the names of the axes, in their order. So if these are distinct, each
name is there once, and the value under it from the front is a value of its axis. It is
also the one that is last assigned in the section of the binding, so that this section
leaves the variable with it if all names are names of variables. -/
theorem names_distinct_iff {text : String} {s : AxisSet} (h : parse text = .ok s) :
    ∃ v, Yaml.read text = .ok v ∧
      v.keys.map Value.scalarText? = s.names.map some ∧
      v.keys.Pairwise (fun k l => k.same l = false) ∧
      (s.names.Nodup ↔ ∀ k ∈ v.keys, ∀ l ∈ v.keys, ¬k.Spells l) ∧
      ∀ n b, Odometer.answer s n = some b →
        b.entries.map (·.1) = s.names ∧
        (s.names.Nodup → ∀ a ∈ s.axes, ∃ value ∈ a.values,
          b.get? a.name = some value ∧
          b.entries.reverse.lookup a.name = some value ∧
          ((∀ a ∈ s.axes, Shell.isName a.name.toList = true) →
            Script.SectionLeaves b a.name value)) := by
  obtain ⟨v, hread, hvalue⟩ := read_of_parse h
  have hsound := Yaml.sound_of_read hread
  have htexts := texts_of_ofValue hvalue
  refine ⟨v, hread, htexts, hsound.distinct,
    Value.nodup_texts_iff htexts hsound.normalKeys hsound.distinct, fun n b hb => ?_⟩
  have hnames : b.entries.map (·.1) = s.names := Odometer.names_of_answer hb
  refine ⟨hnames, fun hnodup a ha => ?_⟩
  obtain ⟨value, hmem, hentry⟩ := exists_value_of_mem_emit (Odometer.mem_emit_of_answer hb) a ha
  have hfirst : b.get? a.name = some value := lookup_of_mem (hnames ▸ hnodup) hentry
  have hlast : b.entries.reverse.lookup a.name = some value :=
    (Script.lookup_reverse (hnames ▸ hnodup) a.name).trans hfirst
  refine ⟨value, hmem, hfirst, hlast,
    fun hshell => Script.sectionLeaves_of_lookup (fun e he => ?_) hlast⟩
  -- An entry has the name of some axis.
  have hname : e.1 ∈ s.names := hnames ▸ List.mem_map_of_mem he
  obtain ⟨a', ha', heq⟩ := List.mem_map.mp hname
  exact heq ▸ hshell a' ha'

/-- `names_distinct_iff` for a boolean and a string, which are the same word in the text
of the block but not in the names of the axes. -/
theorem names_distinct_iff_quoted :
    let text := "True: [a]\n\"True\": [b, it's]\n"
    let s : AxisSet := ⟨[⟨"true", ["a"]⟩, ⟨"True", ["b", "it's"]⟩]⟩
    let b : Binding := ⟨[("true", "a"), ("True", "it's")]⟩
    parse text = .ok s ∧ s.names.Nodup ∧ Odometer.answer s 1 = some b ∧
    ∃ v, Yaml.read text = .ok v ∧ (∀ k ∈ v.keys, ∀ l ∈ v.keys, ¬k.Spells l) ∧
      b.get? "True" = some "it's" ∧ Script.SectionLeaves b "True" "it's" := by
  intro text s b
  have hparse : parse text = .ok s := by decide +kernel
  have hnodup : s.names.Nodup := by decide
  have hb : Odometer.answer s 1 = some b := by decide
  have hget : b.get? "True" = some "it's" := by decide
  obtain ⟨v, hread, -, -, hiff, hbindings⟩ := names_distinct_iff hparse
  refine ⟨hparse, hnodup, hb, v, hread, hiff.mp hnodup, hget, ?_⟩
  obtain ⟨value, -, hfirst, -, hleaves⟩ :=
    (hbindings 1 b hb).2 hnodup ⟨"True", ["b", "it's"]⟩ (by simp [s])
  have hvalue : "it's" = value := Option.some.inj (hget.symm.trans hfirst)
  exact hvalue ▸ hleaves (by decide)

/-- A string key can take the name of a boolean. Both axes are in the binding, whose
value under the name is that of the first axis, but its section of a script leaves the
variable with the value of the second. -/
theorem names_not_distinct_spelled :
    let s : AxisSet := ⟨[⟨"true", ["a"]⟩, ⟨"true", ["b"]⟩]⟩
    let b : Binding := ⟨[("true", "a"), ("true", "b")]⟩
    parse "true: [a]\n\"true\": [b]\n" = .ok s ∧ ¬s.names.Nodup ∧
      Odometer.answer s 0 = some b ∧ b.get? "true" = some "a" ∧
      Script.SectionLeaves b "true" "b" := by
  intro s b
  refine ⟨by decide +kernel, by decide, by decide, by decide, ?_⟩
  exact Script.sectionLeaves_of_lookup (by decide) (by decide)

end AxisSet

end ScriptMatrix
