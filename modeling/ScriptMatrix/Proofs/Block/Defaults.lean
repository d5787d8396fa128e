import ScriptMatrix.Proofs.Block.Reading
import ScriptMatrix.Proofs.Script.History
import ScriptMatrix.Proofs.Yaml.Equality

/-!
# `ScriptMatrix.Proofs.Block.Defaults`: two notations for default parameters

Default parameters are declared by null, by a mapping between scalars, and by a list of
mappings with one entry each. `Single` is such an item. Both notations give the texts of
the pairs in their order; of several faults the first in the order of the data counts, and
the name is looked at before the value.

A pair says the same as an entry of a mapping and as an item of a list
(`entryOfItem_single`). So the two notations of some pairs are read alike, with the same
fault if there is one (`ofValue_notations`). `parse_notations` says which texts of blocks
declare default parameters, and that scripts do not tell the notations apart.
-/

set_option autoImplicit false

namespace ScriptMatrix

open Yaml (Value)
open Yaml.Value (IsScalar HasText scalarText?_eq_some_iff scalarText?_eq_none_iff
  exists_hasText_iff)

namespace Defaults

/-! ### Pairs -/

/-- A pair that is a parameter: a scalar with a scalar. A pair is an entry of a mapping, or
the only entry of an item of a list. -/
structure FitsPair (e : Value × Value) : Prop where
  name : e.1.IsScalar
  value : e.2.IsScalar

/-- The parameter of a pair has the texts of both. -/
structure DeclaredBy (e : Value × Value) (p : String × String) : Prop where
  name : e.1.HasText p.1
  value : e.2.HasText p.2

/-- What keeps a pair from being a parameter. The name is looked at first, so a faulty value
counts only where there is a name, which is part of the fault. -/
inductive FaultyPair : Value × Value → DefaultsFault → Prop
  | name {e : Value × Value} (hname : ¬e.1.IsScalar) : FaultyPair e .nameNotScalar
  | value {e : Value × Value} {name : String} (hname : e.1.HasText name)
      (hvalue : ¬e.2.IsScalar) : FaultyPair e (.valueNotScalar name)

/-- A pair is its parameter, as `Reads` says it. The four parts are that fitting pairs
declare something, that what is declared is read, that faults are found, and that there is
the one or the other. -/
theorem reads_entryOf : Reads (fun e => entryOf e.1 e.2) FitsPair DeclaredBy FaultyPair := by
  refine .of_covers (fun e => ?_) (fun e p hp => ?_) (fun e fault hfault => ?_) fun e => ?_
  · constructor
    · rintro ⟨p, hname, hvalue⟩
      exact ⟨exists_hasText_iff.mp ⟨_, hname⟩, exists_hasText_iff.mp ⟨_, hvalue⟩⟩
    · rintro ⟨hname, hvalue⟩
      obtain ⟨name, hname⟩ := exists_hasText_iff.mpr hname
      obtain ⟨text, hvalue⟩ := exists_hasText_iff.mpr hvalue
      exact ⟨(name, text), hname, hvalue⟩
  · rw [entryOf, scalarText?_eq_some_iff.mpr hp.name, scalarText?_eq_some_iff.mpr hp.value]
  · cases hfault with
    | name hname => rw [entryOf, scalarText?_eq_none_iff.mpr hname]
    | value hname hvalue =>
      rw [entryOf, scalarText?_eq_some_iff.mpr hname, scalarText?_eq_none_iff.mpr hvalue]
  · -- The value is only looked at behind a name, as in `FaultyPair`.
    by_cases hname : e.1.IsScalar
    · obtain ⟨name, hname⟩ := exists_hasText_iff.mpr hname
      by_cases hvalue : e.2.IsScalar
      · obtain ⟨text, hvalue⟩ := exists_hasText_iff.mpr hvalue
        exact .inl ⟨(name, text), hname, hvalue⟩
      · exact .inr ⟨_, .value hname hvalue⟩
    · exact .inr ⟨_, .name hname⟩

/-! ### Items -/

/-- A pair as an item of a list: a mapping with this entry alone. -/
def single (e : Value × Value) : Value := .mapping [e]

/-- An item that is a parameter: a mapping with one entry, which is one. An item with two
entries is none, even if both are. -/
def FitsItem (v : Value) : Prop := ∃ e, v = single e ∧ FitsPair e

/-- The parameter of an item is that of its entry. -/
def ItemDeclares (v : Value) (p : String × String) : Prop := ∃ e, v = single e ∧ DeclaredBy e p

/-- What keeps an item from being a parameter: it is no mapping with one entry, or this
entry has a fault. -/
inductive FaultyItem : Value → DefaultsFault → Prop
  | notSingle {v : Value} (h : ∀ e, v ≠ single e) : FaultyItem v .itemNotSingle
  | pair {e : Value × Value} {fault : DefaultsFault} (h : FaultyPair e fault) :
      FaultyItem (single e) fault

/-- An item with one entry is read as the entry. So whatever is known of pairs holds of such
items, and the two notations agree. -/
theorem entryOfItem_single (e : Value × Value) : entryOfItem (single e) = entryOf e.1 e.2 := rfl

/-- Every other item is at fault, whether it is a mapping of some other length or no
mapping. -/
theorem entryOfItem_of_ne_single {v : Value} (h : ∀ e, v ≠ single e) :
    entryOfItem v = .error .itemNotSingle := by
  unfold entryOfItem
  split
  · -- Only the branch for one entry is no fault, and it would make `v` such an item.
    exact absurd rfl (h _)
  · rfl

/-- An item is its parameter. It is that of its entry, by `reads_entryOf`, if there is a
single one. -/
theorem reads_entryOfItem : Reads entryOfItem FitsItem ItemDeclares FaultyItem := by
  refine .of_covers (fun v => ?_) ?_ (fun v fault hfault => ?_) fun v => ?_
  · constructor
    · rintro ⟨p, e, rfl, hp⟩
      exact ⟨e, rfl, (reads_entryOf.exists_declares_iff e).mp ⟨p, hp⟩⟩
    · rintro ⟨e, rfl, hfits⟩
      obtain ⟨p, hp⟩ := (reads_entryOf.exists_declares_iff e).mpr hfits
      exact ⟨p, e, rfl, hp⟩
  · rintro _ p ⟨e, rfl, hp⟩
    rw [entryOfItem_single]
    exact (reads_entryOf.ok_iff e p).mpr hp
  · cases hfault with
    | notSingle h => exact entryOfItem_of_ne_single h
    | pair h =>
      rw [entryOfItem_single]
      exact (reads_entryOf.error_iff _ fault).mpr h
  · -- Without a single entry the item itself is the fault.
    by_cases hsingle : ∃ e, v = single e
    · obtain ⟨e, rfl⟩ := hsingle
      rcases reads_entryOf.covers e with ⟨p, hp⟩ | ⟨fault, hfault⟩
      · exact .inl ⟨p, e, rfl, hp⟩
      · exact .inr ⟨fault, .pair hfault⟩
    · exact .inr ⟨_, .notSingle fun e heq => hsingle ⟨e, heq⟩⟩

/-! ### Values -/

/-- Data that declares default parameters, in one of the notations. -/
def Fits : Value → Prop
  | .null => True
  | .mapping entries => ∀ e ∈ entries, FitsPair e
  | .list items => ∀ i ∈ items, FitsItem i
  | _ => False

/-- The default parameters that data declares, one for each entry or item in order. A name
may come twice, and both parameters are kept. -/
inductive Declared : Value → Defaults → Prop
  | null : Declared .null ⟨[]⟩
  | mapping {entries : List (Value × Value)} {params : List (String × String)}
      (h : List.Forall₂ DeclaredBy entries params) : Declared (.mapping entries) ⟨params⟩
  | list {items : List Value} {params : List (String × String)}
      (h : List.Forall₂ ItemDeclares items params) : Declared (.list items) ⟨params⟩

/-- The fault of data that declares no default parameters. -/
inductive Faulty : Value → DefaultsFault → Prop
  | kind {v : Value} (h : v.kind ∉ [Yaml.Kind.null, .mapping, .list]) :
      Faulty v .neitherMappingNorList
  | entry {entries : List (Value × Value)} {fault : DefaultsFault}
      (h : FirstFault FitsPair FaultyPair entries fault) : Faulty (.mapping entries) fault
  | item {items : List Value} {fault : DefaultsFault}
      (h : FirstFault FitsItem FaultyItem items fault) : Faulty (.list items) fault

/-- Data that fits declares default parameters, and nothing else does. Both notations go
item by item, with `reads_entryOf` and `reads_entryOfItem`. -/
theorem exists_declared_iff (v : Value) : (∃ d, Declared v d) ↔ Fits v := by
  cases v with
  | null => exact iff_of_true ⟨_, .null⟩ trivial
  | mapping entries =>
    refine Iff.trans ⟨fun ⟨_, h⟩ => ?_, fun ⟨params, h⟩ => ⟨⟨params⟩, .mapping h⟩⟩
      (reads_entryOf.mapM.exists_declares_iff entries)
    cases h with
    | mapping h => exact ⟨_, h⟩
  | list items =>
    refine Iff.trans ⟨fun ⟨_, h⟩ => ?_, fun ⟨params, h⟩ => ⟨⟨params⟩, .list h⟩⟩
      (reads_entryOfItem.mapM.exists_declares_iff items)
    cases h with
    | list h => exact ⟨_, h⟩
  | bool _ | number _ | string _ | tagged _ _ =>
    exact iff_of_false (fun ⟨_, h⟩ => (by cases h)) id

/-- Data is read as the default parameters that it declares, in either notation. -/
theorem ofValue_of_declared {v : Value} {d : Defaults} (h : Declared v d) :
    ofValue v = .ok d := by
  cases h with
  | null => rfl
  | mapping h =>
    rw [ofValue, (reads_entryOf.mapM.ok_iff _ _).mpr h]
    rfl
  | list h =>
    rw [ofValue, (reads_entryOfItem.mapM.ok_iff _ _).mpr h]
    rfl

/-- The fault of data is found: its kind, or the first fault among its entries or items. -/
theorem ofValue_of_faulty {v : Value} {fault : DefaultsFault} (h : Faulty v fault) :
    ofValue v = .error fault := by
  cases h with
  | kind h =>
    cases v with
    | null | mapping _ | list _ => exact absurd (by simp [Value.kind]) h
    | bool _ | number _ | string _ | tagged _ _ => rfl
  | entry h =>
    rw [ofValue, (reads_entryOf.mapM.error_iff _ _).mpr h]
    rfl
  | item h =>
    rw [ofValue, (reads_entryOfItem.mapM.error_iff _ _).mpr h]
    rfl

/-- Data declares default parameters or has a fault, by its kind and the parts of a mapping
or list. -/
theorem value_covers (v : Value) : (∃ d, Declared v d) ∨ ∃ fault, Faulty v fault := by
  cases v with
  | null => exact .inl ⟨_, .null⟩
  | mapping entries =>
    rcases reads_entryOf.mapM.covers entries with ⟨params, h⟩ | ⟨fault, h⟩
    · exact .inl ⟨_, .mapping h⟩
    · exact .inr ⟨fault, .entry h⟩
  | list items =>
    rcases reads_entryOfItem.mapM.covers items with ⟨params, h⟩ | ⟨fault, h⟩
    · exact .inl ⟨_, .list h⟩
    · exact .inr ⟨fault, .item h⟩
  | bool _ | number _ | string _ | tagged _ _ => exact .inr ⟨_, .kind (by simp [Value.kind])⟩

/-- Data is the default parameters that it declares, for every value that there is.
`parse_notations` says the same of texts. -/
theorem reads_ofValue : Reads ofValue Fits Declared Faulty :=
  .of_covers exists_declared_iff (fun _ _ => ofValue_of_declared)
    (fun _ _ => ofValue_of_faulty) value_covers

/-- A list keeps both parameters of one name. -/
example : ofValue (.list [single (.string "a", .null), single (.string "a", .bool true)])
    = .ok ⟨[("a", ""), ("a", "true")]⟩ := rfl

/-! ### Two notations -/

/-- Some pairs are read alike as a mapping and as a list, also if one of them has a fault.
By `entryOfItem_single` the same reader goes over the same pairs. -/
theorem ofValue_notations (entries : List (Value × Value)) :
    ofValue (.list (entries.map single)) = ofValue (.mapping entries) := by
  have hpairs : entryOfItem ∘ single = fun e => entryOf e.1 e.2 := funext entryOfItem_single
  rw [ofValue, ofValue, List.mapM_map, hpairs]

/-- **Which blocks declare default parameters.** Take a text and the data it describes. The
text is parsed just if the data is null, a mapping between scalars, or a list of mappings
with just one entry each, between scalars. The parameters are then the texts of all pairs in
their order, also where a list has a name twice. Otherwise the error is the first fault, and
says so: the kind of the data itself, else of the first entry or item that is no parameter
that an item is no single entry, else the name, else the value.

Any pairs of scalars can stand in a mapping and in a list, and both declare the same. Texts
with the two notations of some pairs are parsed alike, and scripts with the one or the other
have the same text, through any calls that add overrides. -/
theorem parse_notations {text : String} {v : Value} (h : Yaml.read text = .ok v) :
    ((∃ d, parse text = .ok d) ↔ Fits v) ∧
    (∀ d, parse text = .ok d ↔ Declared v d) ∧
    (∀ e, parse text = .error e ↔ ∃ fault, Faulty v fault ∧
      e = .malformedDefaults (.shape fault) none ∧
      e.message = "Malformed default_params block: " ++ fault.message) ∧
    (∀ entries : List (Value × Value), (∀ e ∈ entries, FitsPair e) →
      ∃ d, ofValue (.mapping entries) = .ok d ∧
        ofValue (.list (entries.map single)) = .ok d) ∧
    ∀ entries text', v = .mapping entries →
      Yaml.read text' = .ok (.list (entries.map single)) →
      parse text' = parse text ∧
      ∀ d d', parse text = .ok d → parse text' = .ok d' →
        ∀ name body b calls, ((Script.ofBinding name d body b).updates calls).text
          = ((Script.ofBinding name d' body b).updates calls).text := by
  obtain ⟨hfits, hok, herror⟩ := reads_ofValue.block (fun f => .malformedDefaults f none) h
  refine ⟨hfits, hok, fun e => (herror e).trans ?_, fun entries hentries => ?_, ?_⟩
  · refine exists_congr fun fault => and_congr_right fun _ => ⟨fun he => ⟨he, ?_⟩, And.left⟩
    rw [he]
    exact String.append_empty
  · obtain ⟨d, hd⟩ := (reads_ofValue.fits_iff (.mapping entries)).mpr hentries
    exact ⟨d, hd, (ofValue_notations entries).trans hd⟩
  · rintro entries text' rfl hread
    -- Behind the data, both texts are read by the same steps.
    have hsame : parse text' = parse text := by
      rw [parse, parse, BlockFault.read, BlockFault.read, h, hread]
      dsimp only
      rw [ofValue_notations]
    refine ⟨hsame, fun d d' hd hd' name body b calls => ?_⟩
    rw [Except.ok.inj (hd.symm.trans (hsame.symm.trans hd'))]

/-- `parse_notations` for two parameters, the second one null, in both notations. -/
theorem parse_notations_null :
    let text := "b: x\na: ~\n"
    let text' := "- b: x\n- a: ~\n"
    let entries : List (Value × Value) := [(.string "b", .string "x"), (.string "a", .null)]
    let d : Defaults := ⟨[("b", "x"), ("a", "")]⟩
    Yaml.read text = .ok (.mapping entries) ∧
      Yaml.read text' = .ok (.list (entries.map single)) ∧
      (∀ e ∈ entries, FitsPair e) ∧ parse text = .ok d ∧ parse text' = .ok d := by
  intro text text' entries d
  have hread : Yaml.read text = .ok (.mapping entries) := by decide +kernel
  have hread' : Yaml.read text' = .ok (.list (entries.map single)) := by decide +kernel
  obtain ⟨hfits, hok, -, -, hnotations⟩ := parse_notations hread
  have hd : parse text = .ok d :=
    (hok d).mpr (.mapping (.cons ⟨.string "b", .string "x"⟩ (.cons ⟨.string "a", .null⟩ .nil)))
  exact ⟨hread, hread', hfits.mp ⟨d, hd⟩, hd, (hnotations entries text' rfl hread').1.trans hd⟩

end Defaults

end ScriptMatrix
