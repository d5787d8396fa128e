import Mathlib.Data.List.Induction
import ScriptMatrix.Proofs.Script.Overrides

/-!
# `ScriptMatrix.Proofs.Script.History`: scripts through any calls

`Script.update` adds overrides to a script in its place, or fails and leaves
it (`update_cases`). `updates` is what becomes of a script through a list of
such calls, and `accepted` the overrides of those that went well, in order.

The overrides are a map that remembers when its keys first came. One `put`
changes a value in its place or adds a key at the end, so any number of them
leaves the keys in the order of their first and the values of their last put
(`names_foldl_put`, `lookup_foldl_put`). A failed call puts nothing, hence
the overrides are those puts of all that was accepted (`overrides_updates`).
`updates_ordered_map` says all this of every history, with the text that is
rendered anew each time.
-/

set_option autoImplicit false

namespace ScriptMatrix

namespace Script

/-! ### A map that keeps the order of its keys -/

/-- A new name is put at the end. -/
theorem put_of_notMem {entries : List (String × String)} {e : String × String}
    (h : e.1 ∉ entries.map (·.1)) : put entries e = entries ++ [e] := by
  induction entries with
  | nil => rfl
  | cons e' entries ih =>
    rw [List.map_cons, List.mem_cons, not_or] at h
    rw [put, if_neg (by simpa using Ne.symm h.1), ih h.2]
    rfl

/-- A name that is there gets its value in its place, where it comes first. -/
theorem put_of_first {front back : List (String × String)} {e : String × String} (old : String)
    (h : e.1 ∉ front.map (·.1)) : put (front ++ (e.1, old) :: back) e = front ++ e :: back := by
  induction front with
  | nil => rw [List.nil_append, put, if_pos (by simp)]; rfl
  | cons e' front ih =>
    rw [List.map_cons, List.mem_cons, not_or] at h
    rw [List.cons_append, put, if_neg (by simpa using Ne.symm h.1), ih h.2]
    rfl

/-- The first entry is looked at first. This is `List.lookup_cons` with an equation for its
test. -/
theorem lookup_cons_ite (e : String × String) (entries : List (String × String)) (key : String) :
    (e :: entries).lookup key = if key = e.1 then some e.2 else entries.lookup key := by
  rw [List.lookup_cons]
  by_cases hkey : key = e.1
  · rw [if_pos hkey, beq_iff_eq.mpr hkey]
  · rw [if_neg hkey, beq_eq_false_iff_ne.mpr hkey]

/-- A put is seen under its name and nowhere else. -/
theorem lookup_put (entries : List (String × String)) (e : String × String) (key : String) :
    (put entries e).lookup key = if key = e.1 then some e.2 else entries.lookup key := by
  induction entries with
  | nil => exact lookup_cons_ite e [] key
  | cons e' entries ih =>
    rw [put]
    by_cases hsame : e'.1 = e.1
    · rw [if_pos (by simpa using hsame), lookup_cons_ite, lookup_cons_ite, hsame]
      split <;> rfl
    · rw [if_neg (by simpa using hsame), lookup_cons_ite, lookup_cons_ite, ih]
      by_cases hkey : key = e'.1
      · rw [if_pos hkey, if_pos hkey, if_neg fun heq => hsame (hkey.symm.trans heq)]
      · rw [if_neg hkey, if_neg hkey]

/-- After puts a name has the value of its last one, or what it had before them. -/
theorem lookup_foldl_put (added entries : List (String × String)) (key : String) :
    (added.foldl put entries).lookup key = (added.reverse.lookup key).or (entries.lookup key) := by
  induction added generalizing entries with
  | nil => rfl
  | cons e added ih =>
    rw [List.foldl_cons, ih, lookup_put, List.reverse_cons, List.lookup_append,
      List.lookup_singleton]
    -- A later put of the same name hides the first, and otherwise the first is what counts.
    cases added.reverse.lookup key with
    | some value => rfl
    | none => by_cases hkey : key = e.1 <;> simp [hkey]

/-- Names stand in the order of their first puts. A later put of the same name leaves its
place. -/
theorem names_foldl_put (added : List (String × String)) :
    (added.foldl put []).map (·.1) = (added.map (·.1)).eraseDups := by
  -- From the last put on: it adds a name at the end, or none at all.
  induction added using List.reverseRecOn with
  | nil => rfl
  | append_singleton added e ih =>
    rw [List.foldl_append, List.foldl_cons, List.foldl_nil, names_put, ih, List.map_append,
      List.map_singleton, List.eraseDups_append]
    by_cases hmem : e.1 ∈ added.map (·.1)
    · have hgone : [e.1].removeAll (added.map (·.1)) = [] := by
        simpa [List.removeAll] using hmem
      rw [if_pos (List.mem_eraseDups.mpr hmem), hgone, List.eraseDups_nil, List.append_nil]
    · have hstays : [e.1].removeAll (added.map (·.1)) = [e.1] := by
        simpa [List.removeAll] using hmem
      rw [if_neg fun h => hmem (List.mem_eraseDups.mp h), hstays]
      rfl

/-! ### Calls -/

/-- What a call answers and leaves: all overrides are put, or there is an error and nothing
is changed. -/
theorem update_cases (s : Script) (params : List String) :
    (∃ entries, readOverrides params = .ok entries ∧
      s.update params = (.ok (), s.withOverrides (entries.foldl put s.overrides))) ∨
    ∃ fault, readOverrides params = .error fault ∧ s.update params = (.error fault, s) := by
  cases hread : readOverrides params with
  | ok entries => exact .inl ⟨entries, rfl, by simp only [update, append, hread]; rfl⟩
  | error fault => exact .inr ⟨fault, rfl, by simp only [update, append, hread]; rfl⟩

/-- A script after calls that add overrides, whether they went well or not. What a call
answers is not kept. -/
def updates (s : Script) (calls : List (List String)) : Script :=
  calls.foldl (fun s params => (s.update params).2) s

/-- The overrides of the calls that went well, in order. A call with one invalid text adds
none of its others either. -/
def accepted (calls : List (List String)) : List (String × String) :=
  calls.flatMap fun params => (readOverrides params).toOption.getD []

/-- A call leaves a sound script, and leaves all but its overrides and its text. This is the
step of `updates_sound`, for calls that fail as well. -/
theorem update_sound {s : Script} (hs : s.Sound) (params : List String) :
    (s.update params).2.Sound ∧ SameParts s (s.update params).2 := by
  rcases s.update_cases params with ⟨entries, hread, hupdate⟩ | ⟨fault, -, hupdate⟩
  · rw [hupdate]
    exact ⟨⟨hs.named.foldl_put (isName_of_readOverrides hread), rfl⟩, rfl, rfl, rfl, rfl⟩
  · rw [hupdate]
    exact ⟨hs, rfl, rfl, rfl, rfl⟩

/-- Any number of calls leaves a sound script, and all its other parts. -/
theorem updates_sound {s : Script} (hs : s.Sound) (calls : List (List String)) :
    (s.updates calls).Sound ∧ SameParts s (s.updates calls) := by
  induction calls generalizing s with
  | nil => exact ⟨hs, rfl, rfl, rfl, rfl⟩
  | cons params calls ih =>
    obtain ⟨hnext, hstep⟩ := update_sound hs params
    obtain ⟨hsound, hrest⟩ := ih hnext
    exact ⟨hsound, hrest.name.trans hstep.name, hrest.binding.trans hstep.binding,
      hrest.defaults.trans hstep.defaults, hrest.body.trans hstep.body⟩

/-- Through any calls just what was accepted is put, in the order in which it was accepted. -/
theorem overrides_updates (s : Script) (calls : List (List String)) :
    (s.updates calls).overrides = (accepted calls).foldl put s.overrides := by
  induction calls generalizing s with
  | nil => rfl
  | cons params calls ih =>
    rw [accepted, List.flatMap_cons, List.foldl_append, ← accepted]
    show (updates (s.update params).2 calls).overrides = _
    rw [ih]
    -- A call that fails has accepted nothing and leaves the overrides, so both sides stay.
    rcases s.update_cases params with ⟨entries, hread, hupdate⟩ | ⟨fault, hread, hupdate⟩
    · rw [hupdate, hread]
      rfl
    · rw [hupdate, hread]
      rfl

/-- A call goes well if each of its texts is an override. The script does not matter for
that. -/
theorem update_eq_ok_iff (s : Script) (params : List String) :
    (s.update params).1 = .ok () ↔ ∀ p ∈ params, ∃ e, IsOverride p e := by
  rw [← exists_readOverrides_iff]
  rcases s.update_cases params with ⟨entries, hread, hupdate⟩ | ⟨fault, hread, hupdate⟩
  · rw [hupdate]
    exact ⟨fun _ => ⟨entries, hread⟩, fun _ => rfl⟩
  · rw [hupdate, hread]
    exact ⟨fun h => (by cases h), fun h => (by obtain ⟨_, h⟩ := h; cases h)⟩

/-- A call that goes well does what two calls with its parts do. If the second part is
invalid, the one call fails and two calls put the first part. -/
theorem update_append (s : Script) {ps qs : List String}
    (h : (s.update (ps ++ qs)).1 = .ok ()) :
    (s.update ps).1 = .ok () ∧ (s.update ps).2.update qs = s.update (ps ++ qs) := by
  rw [update_eq_ok_iff, List.forall_mem_append] at h
  obtain ⟨first, hps⟩ := exists_readOverrides_iff.mpr h.1
  obtain ⟨second, hqs⟩ := exists_readOverrides_iff.mpr h.2
  have hboth := readOverrides_append hps hqs
  refine ⟨(update_eq_ok_iff s ps).mpr h.1, ?_⟩
  -- The three calls are all read without an error, and one fold over both lists is two
  -- folds.
  simp only [update, append, hps, hqs, hboth]
  show (Except.ok (), withOverrides _ _) = (Except.ok (), withOverrides _ _)
  rw [List.foldl_append]
  rfl

/-- **Overrides are a map that keeps the order of its keys.** Take a script
after any calls, whether they went well or not.

A next call goes well just if each of its texts is an override, a shell name
with a value. Then the values are put in order, each in the place of its name
or, for a new name, at the end. Otherwise the error is about the first text
that is none, and the script is as before. A call with two lists in a row
leaves what two calls leave.

No name comes twice in the overrides; names stand in the order in which they
were first accepted, each with the value accepted last. The text is the one
that is rendered from the parts, and all other parts are those of the
beginning. -/
theorem updates_ordered_map (name : String) (defaults : Defaults) (body : Bytes) (b : Binding)
    (calls : List (List String)) :
    let s := (ofBinding name defaults body b).updates calls
    (∀ params, (s.update params).1 = .ok () ↔ ∀ p ∈ params, ∃ e, IsOverride p e) ∧
    (∀ params entries, List.Forall₂ IsOverride params entries →
      s.update params = (.ok (), s.withOverrides (entries.foldl put s.overrides))) ∧
    (∀ (entries : List (String × String)) (e : String × String),
      (e.1 ∉ entries.map (·.1) → put entries e = entries ++ [e]) ∧
      ∀ front old back, entries = front ++ (e.1, old) :: back → e.1 ∉ front.map (·.1) →
        put entries e = front ++ e :: back) ∧
    (∀ params fault s', s.update params = (.error fault, s') → s' = s ∧
      ∃ front p back, params = front ++ p :: back ∧ (∀ q ∈ front, ∃ e, IsOverride q e) ∧
        (¬∃ e, IsOverride p e) ∧ fault = .invalidOverride p) ∧
    (∀ ps qs, (s.update (ps ++ qs)).1 = .ok () →
      (s.update ps).1 = .ok () ∧ (s.update ps).2.update qs = s.update (ps ++ qs)) ∧
    (s.overrides.map (·.1)).Nodup ∧
    s.overrides.map (·.1) = ((accepted calls).map (·.1)).eraseDups ∧
    (∀ key, s.overrides.lookup key = (accepted calls).reverse.lookup key) ∧
    s.text = render s.name s.defaults s.binding s.overrides s.body ∧
    s.name = name ∧ s.defaults = defaults ∧ s.binding = b ∧ s.body = body ∧
    s.descriptor = b.descriptor name := by
  intro s
  obtain ⟨hsound, hparts⟩ := updates_sound (ofBinding_sound name defaults body b) calls
  -- All statements about the overrides go through this equation, since `put` is what the
  -- lemmas above are about.
  have hputs : s.overrides = (accepted calls).foldl put [] := overrides_updates _ _
  refine ⟨s.update_eq_ok_iff, fun params entries hforms => ?_, fun entries e => ⟨put_of_notMem, ?_⟩,
    fun params fault s' hfault => ?_, fun ps qs => s.update_append, hsound.named.distinct,
    by rw [hputs, names_foldl_put], fun key => ?_, hsound.current, hparts.name, hparts.defaults,
    hparts.binding, hparts.body, ?_⟩
  · rcases s.update_cases params with ⟨entries', hread, hupdate⟩ | ⟨fault, hread, -⟩
    · rw [readOverrides_eq_ok_iff.mpr hforms] at hread
      cases hread
      exact hupdate
    · rw [readOverrides_eq_ok_iff.mpr hforms] at hread
      cases hread
  · rintro front old back rfl hfirst
    exact put_of_first old hfirst
  · rcases s.update_cases params with ⟨entries, -, hupdate⟩ | ⟨fault', hread, hupdate⟩
    · rw [hupdate] at hfault
      cases hfault
    · rw [hupdate] at hfault
      cases hfault
      exact ⟨rfl, readOverrides_eq_error_iff.mp hread⟩
  · rw [hputs, lookup_foldl_put, List.lookup_nil, Option.or_none]
  · show s.binding.descriptor s.name = _
    rw [hparts.binding, hparts.name]
    rfl

end Script

end ScriptMatrix
