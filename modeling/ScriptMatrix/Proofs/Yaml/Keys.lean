import ScriptMatrix.Proofs.Decimal.Normal
import ScriptMatrix.Proofs.Yaml.NumberText
import ScriptMatrix.Yaml.Reading

/-!
# `ScriptMatrix.Proofs.Yaml.Keys`: the keys of data that has been read

A mapping that has been read has no key twice, and its numbers are normal
(`sound_of_read`). `Gives` states what a reading gives where it gives something, and
the parts of the reader are taken one by one: scalars first, then the entries of a
mapping, each compared with those before it, then nodes by induction on the depth
that is left.

Keys are compared as values, but they name things by their texts. Two keys with one
text are the same key unless just one of them is a string
(`same_of_scalarText?_eq`), so only a string key that `Spells` another one can take
its name (`nodup_texts_iff`).
-/

set_option autoImplicit false

namespace ScriptMatrix.Yaml

open ScriptMatrix.Decimal (Binary64)

namespace Value

/-- The numbers among values are normal. Parts of collections are left out, as only keys and
scalars get texts. -/
def Normal : Value → Prop
  | .number n => n.Normal
  | _ => True

/-- The keys of a mapping; other values have none, also when they are marked. -/
def keys : Value → List Value
  | .mapping entries => entries.map (·.1)
  | _ => []

/-- What reading makes sure of: numbers are normal, also as keys, and no key comes twice.
Keys are compared by `Value.same`, as the reader does. -/
structure Sound (v : Value) : Prop where
  normal : v.Normal
  normalKeys : ∀ k ∈ v.keys, k.Normal
  distinct : v.keys.Pairwise fun k l => k.same l = false

/-- Values without keys have only their own number to care for. All values but mappings are
such. -/
theorem sound_of_keys {v : Value} (hkeys : v.keys = []) (hv : v.Normal) : v.Sound := by
  refine ⟨hv, ?_, ?_⟩
  · rw [hkeys]
    exact List.forall_mem_nil _
  · rw [hkeys]
    exact List.Pairwise.nil

end Value

/-! ### Scalars -/

namespace Scalar

/-- Decimals are read as normal numbers, by the rounding of `Binary64.ofDecimal`. -/
theorem finite?_normal {cs : List Char} {n : Number} (h : finite? cs = some n) : n.Normal := by
  obtain ⟨⟨whole, fraction, exponent⟩, -, hrest⟩ := Option.bind_eq_some_iff.mp h
  obtain ⟨x, hx, hn⟩ := Option.bind_eq_some_iff.mp hrest
  cases hn
  exact Binary64.ofDecimal_normal hx

/-- Real numbers are normal, and the words for infinite numbers and for none have nothing to
be normal. -/
theorem real?_normal {s : String} {n : Number} (h : real? s = some n) : n.Normal := by
  rw [real?] at h
  split at h
  · cases h
    trivial
  split at h
  · cases h
    trivial
  split at h
  · cases h
    trivial
  · exact finite?_normal h

/-- A plain scalar is a sound value, whichever kind its text makes it. -/
theorem plain?_sound {s : String} {v : Value} (h : plain? s = some v) : v.Sound := by
  rw [plain?] at h
  split at h
  · cases h
    exact Value.sound_of_keys rfl trivial
  split at h
  · cases h
    exact Value.sound_of_keys rfl trivial
  -- What is no integer of the language is a real number or text.
  have hreal : ∀ n, (if hasIdleZero s.toList then none else real? s) = some n → n.Normal := by
    intro n hn
    split at hn
    · cases hn
    · exact real?_normal hn
  generalize (if hasIdleZero s.toList then none else real? s) = asReal at h hreal
  -- All other scalars are words or integers, and have nothing to be normal.
  have hword : ∀ i, (Value.number (.integer i)).Sound := fun _ => Value.sound_of_keys rfl trivial
  cases asReal with
  | none =>
    have htext : (Value.string s).Sound := Value.sound_of_keys rfl trivial
    grind
  | some n =>
    have hnumber : (Value.number n).Sound := Value.sound_of_keys rfl (hreal n rfl)
    grind

end Scalar

/-! ### Readings -/

namespace Reading

/-- Whatever the reading gives has a property. Nothing is said where it fails, or of the
count of aliases that it carries. -/
def Gives {α : Type} (P : α → Prop) (x : Reading α) : Prop :=
  ∀ followed a followed', x.run followed = .ok (a, followed') → P a

variable {α β : Type} {P : α → Prop} {Q : β → Prop}

/-- What is given at once has the property if it has it. -/
theorem gives_pure {a : α} (h : P a) : Gives P (pure a) := by
  intro followed b followed' heq
  cases heq
  exact h

/-- A failure gives nothing, so it gives what has any property. -/
theorem gives_throw (e : Error) : Gives P (throw e) := by
  intro followed a followed' heq
  cases heq

/-- Any reading gives something that need not be known. -/
theorem gives_true (x : Reading α) : Gives (fun _ => True) x := fun _ _ _ _ => trivial

/-- One reading after another: what the second gives has the property if it does for all
that the first can give. -/
theorem Gives.bind {x : Reading α} {f : α → Reading β} (hx : Gives P x)
    (hf : ∀ a, P a → Gives Q (f a)) : Gives Q (x >>= f) := by
  intro followed b followed' heq
  rw [StateT.run_bind] at heq
  -- A first reading that fails fails the whole, and nothing is given.
  cases hrun : x.run followed with
  | error e =>
    rw [hrun] at heq
    cases heq
  | ok result =>
    rw [hrun] at heq
    exact hf result.1 (hx followed result.1 result.2 hrun) result.2 b followed' heq

/-- What is made of a given value has the property that it is made to have. -/
theorem Gives.map {x : Reading α} {f : α → β} (hx : Gives P x) (hf : ∀ a, P a → Q (f a)) :
    Gives Q (f <$> x) := by
  rw [map_eq_pure_bind]
  exact hx.bind fun a ha => gives_pure (hf a ha)

/-- What is given has the property also where the count of aliases is dropped. -/
theorem Gives.of_run' {x : Reading α} (hx : Gives P x) {followed : Nat} {a : α}
    (h : x.run' followed = .ok a) : P a := by
  have hmap : Except.map (·.1) (x.run followed) = .ok a := h
  cases hrun : x.run followed with
  | error e =>
    rw [hrun] at hmap
    cases hmap
  | ok result =>
    rw [hrun] at hmap
    cases hmap
    exact hx followed result.1 result.2 hrun

/-- Where a scalar is expected, what is given is the one that was found, and `h` says that
it is sound. -/
theorem gives_expect (text expected : String) {found : Option Value}
    (h : ∀ v, found = some v → v.Sound) : Gives Value.Sound (expect text expected found) := by
  cases found with
  | none => exact gives_throw _
  | some v => exact gives_pure (h v rfl)

/-- A scalar without a tag is sound: it is what its text makes it if it is plain, and else a
string. -/
theorem gives_untagged (text : String) (plain : Bool) :
    Gives Value.Sound (untagged text plain) := by
  rw [untagged]
  split
  · exact gives_expect _ _ fun _ => Scalar.plain?_sound
  · exact gives_pure (Value.sound_of_keys rfl trivial)

/-- A scalar with a tag is sound. None of the kinds that tags name has keys, and real
numbers are read as they are without a tag. -/
theorem gives_typed (tag : Bytes) (text : String) (plain : Bool) :
    Gives Value.Sound (typed tag text plain) := by
  rw [typed]
  split
  · refine gives_expect _ _ fun v hv => ?_
    obtain ⟨b, -, rfl⟩ := Option.map_eq_some_iff.mp hv
    exact Value.sound_of_keys rfl trivial
  split
  · refine gives_expect _ _ fun v hv => ?_
    obtain ⟨i, -, hsize⟩ := Option.bind_eq_some_iff.mp hv
    split at hsize
    · cases hsize
      exact Value.sound_of_keys rfl trivial
    · cases hsize
  split
  · -- A real number is read in the same way as without a tag.
    refine gives_expect _ _ fun v hv => ?_
    obtain ⟨n, hn, rfl⟩ := Option.map_eq_some_iff.mp hv
    exact Value.sound_of_keys rfl (Scalar.real?_normal hn)
  split
  · refine gives_expect _ _ fun v hv => ?_
    split at hv
    · cases hv
      exact Value.sound_of_keys rfl trivial
    · cases hv
  split
  · exact gives_untagged text plain
  · exact gives_pure (Value.sound_of_keys rfl trivial)

/-- A mark hides the keys of what is behind it, so a marked value is sound in any case. -/
theorem sound_mark (tag : Option Bytes) {v : Value} (hv : v.Sound) : (mark tag v).Sound := by
  rw [mark]
  split
  · exact Value.sound_of_keys rfl trivial
  · exact hv

/-! ### Mappings and nodes -/

/-- Entries whose keys are normal and differ from each other. This is what `entries` keeps
while it reads. -/
def Keyed (entries : List (Value × Value)) : Prop := (Value.mapping entries).Sound

/-- A key that differs from all others is put behind them. The reader has made that check,
and `hnew` is its result. -/
theorem Keyed.snoc {before : List (Value × Value)} (hbefore : Keyed before) {key value : Value}
    (hkey : key.Normal) (hnew : (before.any fun e => e.1.same key) = false) :
    Keyed (before ++ [(key, value)]) := by
  have hkeys : (Value.mapping (before ++ [(key, value)])).keys
      = (Value.mapping before).keys ++ [key] := List.map_append
  refine ⟨trivial, ?_, ?_⟩
  · rw [hkeys]
    exact List.forall_mem_append.mpr ⟨hbefore.normalKeys, List.forall_mem_singleton.mpr hkey⟩
  · rw [hkeys, List.pairwise_append]
    refine ⟨hbefore.distinct, List.pairwise_singleton _ _, fun k hk l hl => ?_⟩
    obtain ⟨e, he, rfl⟩ := List.mem_map.mp hk
    rw [List.mem_singleton.mp hl]
    exact Bool.eq_false_iff.mpr (List.any_eq_false.mp hnew e he)

/-- The entries of a mapping stay keyed while they are read. Of the values nothing is
needed. -/
theorem gives_entries {part : Node → Reading Value} (hpart : ∀ n, Gives Value.Sound (part n))
    {before : List (Value × Value)} (hbefore : Keyed before) (es : List (Node × Node)) :
    Gives Keyed (entries part before es) := by
  induction es generalizing before with
  | nil => exact gives_pure hbefore
  | cons e es ih =>
    obtain ⟨k, v⟩ := e
    rw [entries]
    refine (hpart k).bind fun key hkey => ?_
    -- A key that is there already ends the reading.
    split
    · exact (gives_throw (P := fun _ => False) _).bind fun _ hfalse => hfalse.elim
    · rename_i hnew
      refine (gives_true (part v)).bind fun value _ => ?_
      exact ih (hbefore.snoc hkey.normal (Bool.eq_false_iff.mpr hnew))

/-- A node is read as a sound value if the parts of collections are. There may be no way to
read parts, where the depth is used up. -/
theorem gives_shape (d : Document) (limit : Nat) {part? : Option (Node → Reading Value)}
    (hpart : ∀ part ∈ part?, ∀ n, Gives Value.Sound (part n)) (n : Node) :
    Gives Value.Sound (shape d limit part? n) := by
  rw [shape]
  refine (gives_true _).bind fun target _ => ?_
  -- An alias leads to no alias, so what is found is a scalar or a collection.
  match target with
  | .alias _ => exact gives_throw _
  | .scalar _ text plain =>
    dsimp only
    split
    · exact gives_typed _ text plain
    · exact (gives_untagged text plain).map fun v hv => sound_mark _ hv
  | .list tag items =>
    cases part? with
    | none => exact gives_throw _
    | some part =>
      refine (gives_true _).bind fun vs _ => gives_pure (sound_mark tag ?_)
      exact Value.sound_of_keys rfl trivial
  | .mapping tag es =>
    cases part? with
    | none => exact gives_throw _
    | some part =>
      have hempty : Keyed [] := Value.sound_of_keys rfl trivial
      exact (gives_entries (hpart part rfl) hempty es).bind fun vs hvs =>
        gives_pure (sound_mark tag hvs)

/-- Nodes are read as sound values, however deep. The induction is on the depth that is
left. -/
theorem gives_value (d : Document) (limit depth : Nat) (n : Node) :
    Gives Value.Sound (value d limit depth n) := by
  induction depth generalizing n with
  | zero => exact gives_shape d limit (by simp) n
  | succ depth ih => exact gives_shape d limit (by simpa using ih) n

end Reading

/-- Data that has been read is sound. A document without a root is null. -/
theorem sound_of_read {text : String} {v : Value} (h : read text = .ok v) : v.Sound := by
  rw [read] at h
  cases hd : Document.read text with
  | error e =>
    rw [hd] at h
    cases h
  | ok d =>
    rw [hd] at h
    have hvalue : d.value = .ok v := h
    rw [Document.value] at hvalue
    split at hvalue
    · cases hvalue
      exact Value.sound_of_keys rfl trivial
    · -- The root is read with all of the depth there is.
      rename_i root hroot
      exact (Reading.gives_value d _ _ root).of_run' hvalue

/-! ### The texts of keys -/

namespace Value

/-- No number is written like null or a boolean. `same_of_scalarText?_eq` needs this for
keys of two kinds. -/
theorem number_text_ne (n : Number) :
    ∀ word ∈ ["true", "false", ""], n.text ≠ word := by
  have hwords : ["true", "false", ""] ⊆ [".inf", "-.inf", ".nan", "true", "false", ""] := by
    decide
  cases n with
  | integer i => exact fun _ h => Number.text_ne_word (Number.numeric_integer i) (hwords h)
  | real s x => exact fun _ h => Number.text_ne_word (Number.numeric_real s x) (hwords h)
  | infinite s => cases s <;> decide
  | undefined => decide

/-- The words for booleans are among those that no number is written like. -/
theorem bool_text_mem (b : Bool) :
    (if b then "true" else "false") ∈ ["true", "false", ""] := by
  cases b <;> decide

/-- Keys with one text are one key, unless just one of them is a string. There is one case
for each kind of key. -/
theorem same_of_scalarText?_eq {k l : Value} (hk : k.Normal) (hl : l.Normal)
    (hkind : k.kind = .string ↔ l.kind = .string) {text : String}
    (hktext : k.scalarText? = some text) (hltext : l.scalarText? = some text) :
    k.same l = true := by
  cases k with
  | null =>
    -- Null is written with no text, and only null is.
    have hempty : l.scalarText? = some "" := hltext.trans hktext.symm
    cases l with
    | null => simp only [same]
    | bool b => revert hempty; cases b <;> decide
    | number n => exact absurd (Option.some.inj hempty) (number_text_ne n "" (by decide))
    | string s => cases hkind.mpr rfl
    | list _ | mapping _ | tagged _ _ => cases hltext
  | bool b =>
    have hword : l.scalarText? = some (if b then "true" else "false") := hltext.trans hktext.symm
    cases l with
    | null => revert hword; cases b <;> decide
    | bool c =>
      have hbc : b = c := by revert hword; cases b <;> cases c <;> decide
      simp only [same, hbc, beq_self_eq_true]
    | number n => exact absurd (Option.some.inj hword) (number_text_ne n _ (bool_text_mem b))
    | string s => cases hkind.mpr rfl
    | list _ | mapping _ | tagged _ _ => cases hltext
  | number n =>
    -- Of numbers it is known which have one text.
    have hnumber : l.scalarText? = some n.text := hltext.trans hktext.symm
    cases l with
    | null => exact absurd (Option.some.inj hnumber).symm (number_text_ne n "" (by decide))
    | bool b => exact absurd (Option.some.inj hnumber).symm (number_text_ne n _ (bool_text_mem b))
    | number m =>
      rw [same]
      exact Number.same_of_text_eq hk hl (Option.some.inj hnumber).symm
    | string s => cases hkind.mpr rfl
    | list _ | mapping _ | tagged _ _ => cases hltext
  | string s =>
    have hs : l.scalarText? = some s := hltext.trans hktext.symm
    cases l with
    | string t => simpa only [same, beq_iff_eq] using (Option.some.inj hs).symm
    | null | bool _ | number _ | list _ | mapping _ | tagged _ _ => cases hkind.mp rfl
  | list _ | mapping _ | tagged _ _ => cases hktext

/-- A string that is written like a value of another kind, such as `"true"` and `true`. -/
def Spells (k l : Value) : Prop :=
  k.kind = .string ∧ l.kind ≠ .string ∧ k.scalarText? = l.scalarText?

/-- Keys that differ as values differ in their texts just if no string key spells another
key. Nothing is asked of where the keys come from. -/
theorem nodup_texts_iff {ks : List Value} {texts : List String}
    (htexts : ks.map scalarText? = texts.map some) (hnormal : ∀ k ∈ ks, k.Normal)
    (hdistinct : ks.Pairwise fun k l => k.same l = false) :
    texts.Nodup ↔ ∀ k ∈ ks, ∀ l ∈ ks, ¬k.Spells l := by
  have hsome : texts.Nodup ↔ (ks.map scalarText?).Nodup := by
    rw [htexts, List.nodup_map_iff (Option.some_injective _)]
  rw [hsome]
  constructor
  · -- A key and one that it spells would be one key, and of two kinds.
    rintro hnodup k hk l hl ⟨hstring, hother, htext⟩
    have heq : k = l := List.inj_on_of_nodup_map hnodup hk hl htext
    exact hother (heq ▸ hstring)
  · intro hspells
    refine List.pairwise_map.mpr (hdistinct.imp_of_mem fun {k l} hk hl hsame heq => ?_)
    obtain ⟨text, -, htext⟩ := List.mem_map.mp (htexts ▸ List.mem_map_of_mem hk)
    have hktext : k.scalarText? = some text := htext.symm
    have hltext : l.scalarText? = some text := heq ▸ hktext
    -- A string on one side only would spell the other side.
    have hkind : k.kind = .string ↔ l.kind = .string := by
      refine ⟨fun hstring => ?_, fun hstring => ?_⟩
      · exact of_not_not fun hother => hspells k hk l hl ⟨hstring, hother, heq⟩
      · exact of_not_not fun hother => hspells l hl k hk ⟨hstring, hother, heq.symm⟩
    have htrue := same_of_scalarText?_eq (hnormal k hk) (hnormal l hl) hkind hktext hltext
    rw [hsame] at htrue
    cases htrue

end Value

end ScriptMatrix.Yaml
