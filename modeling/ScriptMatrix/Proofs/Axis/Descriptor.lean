import Mathlib.Data.List.Infix
import ScriptMatrix.Matrix
import ScriptMatrix.Proofs.Axis.Enumeration
import ScriptMatrix.Proofs.Script.Names

/-!
# `ScriptMatrix.Proofs.Axis.Descriptor`: which bindings a descriptor tells apart

A descriptor joins pairs `name=value` with double underscores. Names and values are
arbitrary texts, and what joins the pairs may stand in them, so a descriptor cannot be
split without more. But the bindings of one matrix have the same names, and `Legible`
values have no double underscore (and no space, which is shown as an underscore).

Then a descriptor is read from the front. A value ends where the pair of the next name
begins. If it could end at two places, the later end would put a double underscore into
the value, unless both are one character apart. That does not happen: a name that begins
one character behind itself is all underscores, and so is the equals sign behind it
(`not_overlap`).

`descriptor_injective` says that bindings with one descriptor are the same, and so are
the bindings of all scripts that a filter chooses if it is true of one descriptor only.
-/

set_option autoImplicit false

namespace ScriptMatrix

/-- A value that can be read off a descriptor. A space would be shown as an underscore, and
two underscores in a row look like what joins the pairs. -/
structure Legible (value : String) : Prop where
  noSpace : ' ' ∉ value.toList
  noSeparator : ¬['_', '_'] <:+: value.toList

instance (value : String) : Decidable (Legible value) :=
  decidable_of_iff (' ' ∉ value.toList ∧ ¬['_', '_'] <:+: value.toList)
    ⟨fun h => ⟨h.1, h.2⟩, fun h => ⟨h.1, h.2⟩⟩

namespace Binding

/-! ### Where a value ends -/

/-- A name with an equals sign does not stand one character behind itself, whatever follows.
It would begin with an underscore, so its next character would be one as well, and so on up
to the equals sign. The induction goes along the name. -/
theorem not_overlap (name X Y : List Char) : name ++ '=' :: X ≠ '_' :: (name ++ '=' :: Y) := by
  induction name with
  | nil => simp
  | cons c name ih =>
    -- The first characters agree, so the name begins with an underscore and the rest is the
    -- same equation.
    intro h
    obtain ⟨rfl, hrest⟩ := List.cons.inj h
    exact ih hrest

/-- Behind a value, the next pair begins at once. If it began behind `u`, the two
underscores would be in `u` or run over its end. The first puts them into a value that has
none, and the second is the overlap that `not_overlap` excludes. -/
theorem eq_nil_of_separator {value u name X Y : List Char} (hvalue : ¬['_', '_'] <:+: value ++ u)
    (h : '_' :: '_' :: (name ++ '=' :: X) = u ++ '_' :: '_' :: (name ++ '=' :: Y)) : u = [] := by
  match u, h with
  | [], _ => rfl
  -- One character behind, the names themselves would overlap.
  | [c], h =>
    obtain ⟨-, hrest⟩ := List.cons.inj h
    exact absurd (List.cons.inj hrest).2 (not_overlap name X Y)
  -- Two or more behind, both underscores are in the value.
  | c :: d :: u, h =>
    obtain ⟨rfl, hrest⟩ := List.cons.inj h
    obtain ⟨rfl, -⟩ := List.cons.inj hrest
    exact absurd ⟨value, u, by simp⟩ hvalue

/-- A value without double underscores ends where the next pair begins. Of two ways to cut
the same text one value is the front of the other, and `eq_nil_of_separator` is for what is
between their ends. -/
theorem eq_of_separator {v w name X Y : List Char} (hv : ¬['_', '_'] <:+: v)
    (hw : ¬['_', '_'] <:+: w)
    (h : v ++ '_' :: '_' :: (name ++ '=' :: X) = w ++ '_' :: '_' :: (name ++ '=' :: Y)) :
    v = w := by
  rcases List.append_eq_append_iff.mp h with ⟨u, rfl, hu⟩ | ⟨u, rfl, hu⟩
  · rw [eq_nil_of_separator hw hu, List.append_nil]
  · rw [eq_nil_of_separator hv hu, List.append_nil]

/-! ### Pairs -/

/-- A pair of a name and a value, in characters. -/
def pairChars (e : String × String) : List Char := e.1.toList ++ '=' :: e.2.toList

/-- Pairs with what joins them, in characters: a descriptor without the name of the matrix,
where the values are legible (`toList_descriptor`). -/
def joined (entries : List (String × String)) : List Char :=
  List.intercalate ['_', '_'] (entries.map pairChars)

theorem joined_cons_cons (e e' : String × String) (entries : List (String × String)) :
    joined (e :: e' :: entries) = pairChars e ++ '_' :: '_' :: joined (e' :: entries) := by
  simp [joined, List.intercalate_cons_cons]

/-- Joined pairs begin with the first name and an equals sign. This is how `joined_cons_inj`
knows that the same name follows a value on both sides. -/
theorem exists_joined_cons (e : String × String) (entries : List (String × String)) :
    ∃ rest, joined (e :: entries) = e.1.toList ++ '=' :: rest := by
  cases entries with
  | nil => exact ⟨e.2.toList, by simp [joined, pairChars]⟩
  | cons e' entries =>
    exact ⟨_, by rw [joined_cons_cons, pairChars, List.append_assoc, List.cons_append]⟩

/-- The first value can be taken off if the same names follow. Behind the last value there
is nothing more, and behind any other `eq_of_separator` finds its end. -/
theorem joined_cons_inj {name v w : String} {entries entries' : List (String × String)}
    (hnames : entries.map Prod.fst = entries'.map Prod.fst) (hv : Legible v) (hw : Legible w)
    (h : joined ((name, v) :: entries) = joined ((name, w) :: entries')) :
    v = w ∧ joined entries = joined entries' := by
  cases entries with
  | nil =>
    -- The last value runs up to the end of the text.
    rw [List.map_eq_nil_iff.mp hnames.symm] at h ⊢
    refine ⟨String.toList_inj.mp ?_, rfl⟩
    simpa [joined, pairChars] using h
  | cons e entries =>
    cases entries' with
    | nil => cases hnames
    | cons e' entries' =>
      have hnext : e.1 = e'.1 := (List.cons.inj hnames).1
      obtain ⟨X, hX⟩ := exists_joined_cons e entries
      obtain ⟨Y, hY⟩ := exists_joined_cons e' entries'
      simp only [joined_cons_cons, pairChars, List.append_assoc, List.append_cancel_left_eq,
        List.cons_append, List.cons.injEq, true_and] at h
      -- The pairs behind both values begin with the same name.
      have hvalue : v.toList = w.toList := by
        rw [hX, hY, ← hnext] at h
        exact eq_of_separator hv.noSeparator hw.noSeparator h
      rw [hvalue, List.append_cancel_left_eq] at h
      exact ⟨String.toList_inj.mp hvalue, (List.cons.inj (List.cons.inj h).2).2⟩

/-- Joined pairs with the same names have the same values: `joined_cons_inj` takes off one
after the other. -/
theorem joined_inj {entries entries' : List (String × String)}
    (hnames : entries.map Prod.fst = entries'.map Prod.fst)
    (hlegible : ∀ e ∈ entries, Legible e.2) (hlegible' : ∀ e ∈ entries', Legible e.2)
    (h : joined entries = joined entries') : entries = entries' := by
  induction entries generalizing entries' with
  | nil => exact (List.map_eq_nil_iff.mp hnames.symm).symm
  | cons e entries ih =>
    cases entries' with
    | nil => cases hnames
    | cons e' entries' =>
      obtain ⟨name, v⟩ := e
      obtain ⟨name', w⟩ := e'
      obtain ⟨rfl, hrest⟩ : name = name' ∧ entries.map Prod.fst = entries'.map Prod.fst :=
        List.cons.inj hnames
      obtain ⟨hv, hentries⟩ := List.forall_mem_cons.mp hlegible
      obtain ⟨hw, hentries'⟩ := List.forall_mem_cons.mp hlegible'
      obtain ⟨rfl, hbehind⟩ := joined_cons_inj hrest hv hw h
      rw [ih hrest hentries hentries' hbehind]

/-- A descriptor shows a value without spaces as it is, since only spaces are replaced. -/
theorem descriptorValue_of_legible {value : String} (h : Legible value) :
    descriptorValue value = value := by
  have hsame : ∀ c ∈ value.toList, (if c = ' ' then '_' else c) = c := by
    intro c hc
    rw [if_neg]
    rintro rfl
    exact h.noSpace hc
  simp [descriptorValue, List.map_congr_left hsame]

/-- The characters of a descriptor: the name of the matrix, a slash, and the joined pairs.
It needs no more of the values than that they have no spaces. -/
theorem toList_descriptor (name : String) {b : Binding} (h : ∀ e ∈ b.entries, Legible e.2) :
    (b.descriptor name).toList = name.toList ++ '/' :: joined b.entries := by
  have hpairs : ∀ e ∈ b.entries,
      e.1 ++ "=" ++ descriptorValue e.2 = String.ofList (pairChars e) := by
    intro e he
    rw [descriptorValue_of_legible (h e he), pairChars, ← String.toList_inj]
    simp
  rw [descriptor, List.map_congr_left hpairs]
  simp [joined, String.toList_intercalate, Function.comp_def]

/-- Bindings with the same names and legible values have different descriptors. The name of
the matrix is the same in front of both and may be any text. -/
theorem eq_of_descriptor_eq {name : String} {b b' : Binding}
    (hnames : b.entries.map Prod.fst = b'.entries.map Prod.fst)
    (hlegible : ∀ e ∈ b.entries, Legible e.2) (hlegible' : ∀ e ∈ b'.entries, Legible e.2)
    (h : b.descriptor name = b'.descriptor name) : b = b' := by
  have hchars := congrArg String.toList h
  rw [toList_descriptor name hlegible, toList_descriptor name hlegible',
    List.append_cancel_left_eq] at hchars
  exact congrArg Binding.mk (joined_inj hnames hlegible hlegible' (List.cons.inj hchars).2)

end Binding

/-! ### The bindings of a matrix -/

/-- The values of a binding are those of its axes, so what holds of all values of a matrix
holds of those in each binding. -/
theorem forall_value_of_mem_emit {p : String → Prop} {axes : List Axis}
    {entries : List (String × String)} (h : entries ∈ emit axes)
    (haxes : ∀ a ∈ axes, ∀ v ∈ a.values, p v) : ∀ e ∈ entries, p e.2 := by
  induction axes generalizing entries with
  | nil =>
    rw [emit, List.mem_singleton] at h
    rw [h]
    exact List.forall_mem_nil _
  | cons a axes ih =>
    obtain ⟨ha, hothers⟩ := List.forall_mem_cons.mp haxes
    obtain ⟨v, hv, hmem⟩ := List.mem_flatMap.mp h
    obtain ⟨behind, hbehind, rfl⟩ := List.mem_map.mp hmem
    exact List.forall_mem_cons.mpr ⟨ha v hv, ih hbehind hothers⟩

/-- The entries of a binding of an axis set are in `emit`, where what is known of bindings
by recursion on the axes applies. -/
theorem AxisSet.mem_bindings {s : AxisSet} {b : Binding} (h : b ∈ s.bindings) :
    b.entries ∈ emit s.axes := by
  rw [Odometer.bindings_eq_emit] at h
  obtain ⟨entries, hentries, rfl⟩ := List.mem_map.mp h
  exact hentries

namespace Matrix

/-- **A descriptor tells legible bindings apart.** Take bindings of the same names, which
may be any texts, in the same order. If no value has a space or two underscores in a row
and both have one descriptor under the name of a matrix, then they are the same.

So let all values of a matrix be legible, and let a filter choose no other descriptor of
the matrix than that of some binding. Then all scripts that it chooses have this
binding. -/
theorem descriptor_injective :
    (∀ (name : String) (b b' : Binding), b.entries.map Prod.fst = b'.entries.map Prod.fst →
      (∀ e ∈ b.entries, Legible e.2) → (∀ e ∈ b'.entries, Legible e.2) →
      b.descriptor name = b'.descriptor name → b = b') ∧
    ∀ mx : Matrix, (∀ a ∈ mx.axes.axes, ∀ v ∈ a.values, Legible v) →
      ∀ (filter : Option Filter), ∀ b ∈ mx.axes.bindings,
        (∀ b' ∈ mx.axes.bindings, mx.chooses filter b' = true →
          b'.descriptor mx.name = b.descriptor mx.name) →
        ∀ s ∈ mx.scripts filter, s.binding = b := by
  refine ⟨fun name b b' => Binding.eq_of_descriptor_eq, ?_⟩
  intro mx hlegible filter b hb hfilter s hs
  obtain ⟨b', hchosen, rfl⟩ := List.mem_map.mp hs
  obtain ⟨hb', hchooses⟩ := List.mem_filter.mp hchosen
  have hemit := AxisSet.mem_bindings hb
  have hemit' := AxisSet.mem_bindings hb'
  show b' = b
  have hnames : b'.entries.map Prod.fst = b.entries.map Prod.fst :=
    (names_of_mem_emit hemit').trans (names_of_mem_emit hemit).symm
  exact Binding.eq_of_descriptor_eq hnames (forall_value_of_mem_emit hemit' hlegible)
    (forall_value_of_mem_emit hemit hlegible) (hfilter b' hb' hchooses)

/-- `descriptor_injective` where names are empty or end like what joins the pairs, and
values begin and end with underscores. One value is repeated, so two scripts have one
descriptor, and they have one binding. -/
theorem descriptor_injective_underscores :
    let axes : AxisSet := ⟨[⟨"_", ["x_", "x_", "_x"]⟩, ⟨"", ["_a=", "=_"]⟩, ⟨"__=", ["/"]⟩]⟩
    let mx : Matrix := ⟨"m/_=", ⟨"m.ms"⟩, axes, .empty, []⟩
    let filter : Option Filter := some (.substring "=x___==")
    let b := Odometer.select axes.axes [0, 1, 0]
    let b' := Odometer.select axes.axes [1, 1, 0]
    (∀ a ∈ mx.axes.axes, ∀ v ∈ a.values, Legible v) ∧ b ∈ mx.axes.bindings ∧
    (∀ b' ∈ mx.axes.bindings, mx.chooses filter b' = true →
      b'.descriptor mx.name = b.descriptor mx.name) ∧
    b.descriptor mx.name = "m/_=/_=x___==_____==/" ∧
    b.descriptor mx.name = b'.descriptor mx.name ∧ b = b' ∧
    (mx.scripts filter).length = 2 ∧ ∀ s ∈ mx.scripts filter, s.binding = b := by
  intro axes mx filter b b'
  have hlegible : ∀ a ∈ mx.axes.axes, ∀ v ∈ a.values, Legible v := by decide
  have hmem : b ∈ mx.axes.bindings := by decide
  have hfilter : ∀ b' ∈ mx.axes.bindings, mx.chooses filter b' = true →
      b'.descriptor mx.name = b.descriptor mx.name := by decide +kernel
  have hsame : b.descriptor mx.name = b'.descriptor mx.name := by decide +kernel
  obtain ⟨hpairs, hmatrix⟩ := descriptor_injective
  exact ⟨hlegible, hmem, hfilter, by decide +kernel, hsame,
    hpairs mx.name b b' (by decide) (by decide) (by decide) hsame, by decide +kernel,
    hmatrix mx hlegible filter b hmem hfilter⟩

/-- A double underscore in a value may look like the next pair. -/
example : (Binding.mk [("a", "1"), ("b", "2__b=3")]).descriptor "m"
    = (Binding.mk [("a", "1__b=2"), ("b", "3")]).descriptor "m" := by
  decide +kernel

end Matrix

end ScriptMatrix
