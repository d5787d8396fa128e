import Mathlib.Data.List.Forall2
import ScriptMatrix.Block
import ScriptMatrix.Proofs.Document.Unfolding

/-!
# `ScriptMatrix.Proofs.Block.Reading`: what a reader of block data takes

The axes and the default parameters of a matrix are read off values. `Reads` sets a reader
beside three things that are said without it: which inputs fit, what a fitting input
declares, and which fault another input has.

A list is read item by item. So it fits if all its items do, and its fault is that of the
first item that does not fit, whatever stands behind it (`FirstFault`, `Reads.mapM`). A
block is read off the value of its text, and a text that is no value at all is another
matter (`Reads.block`).

What is read in the end are the texts of scalars (`Yaml.Value.HasText`).
-/

set_option autoImplicit false

namespace ScriptMatrix

/-! ### Readers -/

/-- A reader takes what fits, makes of it what it declares, and else gives the fault. The
three predicates are said without the reader, and each field is an iff: so a reader does no
less and no more than they say. -/
structure Reads {α β ε : Type} (read : α → Except ε β) (Fits : α → Prop)
    (Declares : α → β → Prop) (Faulty : α → ε → Prop) : Prop where
  fits_iff : ∀ a, (∃ b, read a = .ok b) ↔ Fits a
  ok_iff : ∀ a b, read a = .ok b ↔ Declares a b
  error_iff : ∀ a e, read a = .error e ↔ Faulty a e

section
variable {α β γ ε ε' : Type} {read : α → Except ε β} {Fits : α → Prop}
  {Declares : α → β → Prop} {Faulty : α → ε → Prop}

/-- How a reader is shown to be one. It is enough that it gives what is declared and finds
the fault there is, if every input declares something or has a fault. The other directions
follow: two answers of one call are equal. -/
theorem Reads.of_covers (hfits : ∀ a, (∃ b, Declares a b) ↔ Fits a)
    (hok : ∀ a b, Declares a b → read a = .ok b) (herror : ∀ a e, Faulty a e → read a = .error e)
    (hcovers : ∀ a, (∃ b, Declares a b) ∨ ∃ e, Faulty a e) :
    Reads read Fits Declares Faulty := by
  have hok_iff : ∀ a b, read a = .ok b ↔ Declares a b := by
    refine fun a b => ⟨fun h => ?_, hok a b⟩
    -- What has been read is what is declared, since the reader gives that too.
    rcases hcovers a with ⟨b', hb'⟩ | ⟨e, he⟩
    · cases h.symm.trans (hok a b' hb')
      exact hb'
    · cases h.symm.trans (herror a e he)
  refine ⟨fun a => (exists_congr (hok_iff a)).trans (hfits a), hok_iff,
    fun a e => ⟨fun h => ?_, herror a e⟩⟩
  rcases hcovers a with ⟨b, hb⟩ | ⟨e', he'⟩
  · cases h.symm.trans (hok a b hb)
  · cases h.symm.trans (herror a e' he')
    exact he'

/-- An input declares something or has a fault. It goes back from a reader to its
predicates, so that a reader which is put together of others has this premise of
`Reads.of_covers` for nothing. -/
theorem Reads.covers (h : Reads read Fits Declares Faulty) (a : α) :
    (∃ b, Declares a b) ∨ ∃ e, Faulty a e := by
  cases hread : read a with
  | ok b => exact .inl ⟨b, (h.ok_iff a b).mp hread⟩
  | error e => exact .inr ⟨e, (h.error_iff a e).mp hread⟩

/-- What fits is what declares something, without mention of the reader. -/
theorem Reads.exists_declares_iff (h : Reads read Fits Declares Faulty) (a : α) :
    (∃ b, Declares a b) ↔ Fits a :=
  (exists_congr fun b => (h.ok_iff a b).symm).trans (h.fits_iff a)

/-- What a reader gives, in another form: success with `f` behind it is success in front of
it. -/
theorem map_eq_ok {f : β → γ} {x : Except ε β} {c : γ} :
    (do return f (← x)) = Except.ok c ↔ ∃ b, x = .ok b ∧ c = f b := by
  rw [bind_eq_ok]
  refine exists_congr fun b => and_congr_right fun _ => ⟨fun h => ?_, fun h => h ▸ rfl⟩
  cases h
  rfl

/-- A change of form is no fault, so the faults are those in front of it. -/
theorem map_eq_error {f : β → γ} {x : Except ε β} {e : ε} :
    (do return f (← x)) = Except.error e ↔ x = .error e := by
  rw [bind_eq_error]
  refine ⟨fun h => ?_, .inl⟩
  rcases h with h | ⟨b, -, h⟩
  · exact h
  · cases h

/-- What succeeds with other errors succeeds. A block wraps the faults of its reader twice,
and both times this is all that is needed for success. -/
theorem mapError_eq_ok {f : ε → ε'} {x : Except ε α} {a : α} :
    x.mapError f = .ok a ↔ x = .ok a := by
  cases x with
  | ok b => exact ⟨fun h => (by cases h; rfl), fun h => (by cases h; rfl)⟩
  | error e => exact ⟨fun h => (by cases h), fun h => (by cases h)⟩

/-- What fails with other errors fails, with the error that the fault is made into. -/
theorem mapError_eq_error {f : ε → ε'} {x : Except ε α} {e : ε'} :
    x.mapError f = .error e ↔ ∃ fault, x = .error fault ∧ e = f fault := by
  cases x with
  | ok b => exact ⟨fun h => (by cases h), fun ⟨_, h, _⟩ => (by cases h)⟩
  | error fault =>
    refine ⟨fun h => ⟨fault, rfl, ?_⟩, ?_⟩
    · cases h
      rfl
    · rintro ⟨_, ⟨⟩, rfl⟩
      rfl

/-! ### Lists -/

/-- The first item that does not fit has the fault: all in front of it fit. Nothing is said
of what stands behind it, which may have faults as well. -/
def FirstFault (Fits : α → Prop) (Faulty : α → ε → Prop) (items : List α) (e : ε) : Prop :=
  ∃ front item behind, items = front ++ item :: behind ∧ (∀ i ∈ front, Fits i) ∧ Faulty item e

theorem firstFault_nil {e : ε} : ¬FirstFault Fits Faulty [] e := by
  rintro ⟨front, item, behind, hnil, -⟩
  exact absurd hnil.symm (List.append_ne_nil_of_right_ne_nil _ (List.cons_ne_nil _ _))

/-- The fault is that of the first item, or this one fits and the fault is behind it. This
is how `List.mapM` looks for it. -/
theorem firstFault_cons {a : α} {items : List α} {e : ε} :
    FirstFault Fits Faulty (a :: items) e ↔
      Faulty a e ∨ Fits a ∧ FirstFault Fits Faulty items e := by
  constructor
  · rintro ⟨front, item, behind, heq, hfront, hfault⟩
    cases front with
    | nil =>
      cases heq
      exact .inl hfault
    | cons b front =>
      cases heq
      obtain ⟨hb, hfront⟩ := List.forall_mem_cons.mp hfront
      exact .inr ⟨hb, front, item, behind, rfl, hfront, hfault⟩
  · rintro (hfault | ⟨ha, front, item, behind, rfl, hfront, hfault⟩)
    · exact ⟨[], a, items, rfl, List.forall_mem_nil _, hfault⟩
    · exact ⟨a :: front, item, behind, rfl, List.forall_mem_cons.mpr ⟨ha, hfront⟩, hfault⟩

/-- All items fit just if a list of declared things goes with them, item by item. -/
theorem Reads.exists_forall₂_iff (h : Reads read Fits Declares Faulty) (items : List α) :
    (∃ bs, List.Forall₂ Declares items bs) ↔ ∀ i ∈ items, Fits i := by
  induction items with
  | nil => exact iff_of_true ⟨[], .nil⟩ (List.forall_mem_nil _)
  | cons a items ih =>
    rw [List.forall_mem_cons, ← ih, ← h.exists_declares_iff]
    constructor
    · rintro ⟨_, hall⟩
      cases hall with
      | cons hb hbs => exact ⟨⟨_, hb⟩, _, hbs⟩
    · rintro ⟨⟨b, hb⟩, bs, hbs⟩
      exact ⟨b :: bs, .cons hb hbs⟩

/-- Items that are read one by one give what each declares, in their order and with nothing
merged or left out. -/
theorem Reads.mapM_eq_ok_iff (h : Reads read Fits Declares Faulty) (items : List α)
    (bs : List β) : items.mapM read = .ok bs ↔ List.Forall₂ Declares items bs := by
  induction items generalizing bs with
  | nil =>
    rw [List.forall₂_nil_left_iff, List.mapM_nil]
    exact ⟨fun hnil => (by cases hnil; rfl), fun hnil => hnil ▸ rfl⟩
  | cons a items ih =>
    -- The first item is read, then the others, and the two results are put together.
    rw [List.mapM_cons, bind_eq_ok, List.forall₂_cons_left_iff]
    refine exists_congr fun b => ?_
    rw [map_eq_ok, h.ok_iff, ← exists_and_left]
    exact exists_congr fun bs' => by rw [ih]

/-- Items that are read one by one fail with the first fault among them. An item behind it
is not looked at. -/
theorem Reads.mapM_eq_error_iff (h : Reads read Fits Declares Faulty) (items : List α) (e : ε) :
    items.mapM read = .error e ↔ FirstFault Fits Faulty items e := by
  induction items with
  | nil => exact ⟨fun hnil => (by cases hnil), fun hnil => (firstFault_nil hnil).elim⟩
  | cons a items ih =>
    -- The first item has the fault, or it is read and the fault is among the others.
    rw [List.mapM_cons, bind_eq_error, firstFault_cons, h.error_iff, ← h.fits_iff]
    refine or_congr_right ?_
    rw [← exists_and_right]
    exact exists_congr fun b => by rw [map_eq_error, ih]

/-- A list is read item by item. So a reader of items is one of lists, and the readers of
entries and values of `Axis`, `AxisSet` and `Defaults` are all put together by this. -/
theorem Reads.mapM (h : Reads read Fits Declares Faulty) :
    Reads (List.mapM read) (fun items => ∀ i ∈ items, Fits i) (List.Forall₂ Declares)
      (FirstFault Fits Faulty) :=
  ⟨fun items => (exists_congr (h.mapM_eq_ok_iff items)).trans (h.exists_forall₂_iff items),
    h.mapM_eq_ok_iff, h.mapM_eq_error_iff⟩

/-! ### Blocks -/

/-- A block whose text is a value is read off the value, and its faults come wrapped. This
is what `parse` of axes and of defaults have in common; `wrap` is the error of the one or
the other. -/
theorem Reads.block {Shape : Type} {ofValue : Yaml.Value → Except Shape β}
    {Fits : Yaml.Value → Prop} {Declares : Yaml.Value → β → Prop}
    {Faulty : Yaml.Value → Shape → Prop} (h : Reads ofValue Fits Declares Faulty)
    (wrap : BlockFault Shape → Error) {text : String} {v : Yaml.Value}
    (hread : Yaml.read text = .ok v) :
    ((∃ b, (BlockFault.read ofValue text).mapError wrap = .ok b) ↔ Fits v) ∧
    (∀ b, (BlockFault.read ofValue text).mapError wrap = .ok b ↔ Declares v b) ∧
    ∀ e, (BlockFault.read ofValue text).mapError wrap = .error e ↔
      ∃ fault, Faulty v fault ∧ e = wrap (.shape fault) := by
  -- The text is a value, so only the reader of values can fail.
  have hvalue : BlockFault.read ofValue text = (ofValue v).mapError .shape := by
    rw [BlockFault.read, hread]
  have hok : ∀ b, (BlockFault.read ofValue text).mapError wrap = .ok b ↔ ofValue v = .ok b :=
    fun b => by rw [hvalue, mapError_eq_ok, mapError_eq_ok]
  refine ⟨?_, fun b => (hok b).trans (h.ok_iff v b), fun e => ?_⟩
  · rw [exists_congr hok]
    exact h.fits_iff v
  · rw [hvalue, mapError_eq_error]
    constructor
    · rintro ⟨fault, hfault, rfl⟩
      obtain ⟨shape, hshape, rfl⟩ := mapError_eq_error.mp hfault
      exact ⟨shape, (h.error_iff v shape).mp hshape, rfl⟩
    · rintro ⟨shape, hshape, rfl⟩
      exact ⟨.shape shape, mapError_eq_error.mpr ⟨shape, (h.error_iff v shape).mpr hshape, rfl⟩,
        rfl⟩

end

/-! ### Scalars -/

namespace Yaml.Value

/-- Null, booleans, numbers and strings. The kinds are listed, so that this can be decided. -/
def IsScalar (v : Value) : Prop := v.kind ∈ [Kind.null, .boolean, .number, .string]

instance : DecidablePred IsScalar := fun v =>
  inferInstanceAs (Decidable (v.kind ∈ [Kind.null, .boolean, .number, .string]))

/-- The text of a scalar; null has empty text. Other values have none. -/
inductive HasText : Value → String → Prop
  | null : HasText .null ""
  | bool (b : Bool) : HasText (.bool b) (if b then "true" else "false")
  | number (n : Number) : HasText (.number n) n.text
  | string (s : String) : HasText (.string s) s

theorem scalarText?_eq_some_iff {v : Value} {text : String} :
    v.scalarText? = some text ↔ v.HasText text := by
  constructor
  · intro h
    cases v with
    | null =>
      cases h
      exact .null
    | bool b =>
      cases h
      exact .bool b
    | number n =>
      cases h
      exact .number n
    | string s =>
      cases h
      exact .string _
    | list _ | mapping _ | tagged _ _ => cases h
  · rintro (_ | _ | _ | _) <;> rfl

/-- Scalars are the values with a text. -/
theorem scalarText?_eq_none_iff {v : Value} : v.scalarText? = none ↔ ¬v.IsScalar := by
  cases v <;> simp [scalarText?, IsScalar, kind]

theorem exists_hasText_iff {v : Value} : (∃ text, v.HasText text) ↔ v.IsScalar := by
  rw [exists_congr fun _ => scalarText?_eq_some_iff.symm, ← Option.isSome_iff_exists,
    ← Decidable.not_iff_not, ← scalarText?_eq_none_iff, Option.not_isSome_iff_eq_none]

end Yaml.Value

end ScriptMatrix
