import ScriptMatrix.Proofs.Script.Parameter

/-!
# `ScriptMatrix.Proofs.Script.Overrides`: scripts that have been given overrides

`Script.Sound` is what holds of every script: its overrides have shell
names, no two the same, and its text is the one that its parts give.
`append_sound` is the step and `appends_sound` the whole history of a
script, which leaves all but its overrides and its text as they were.
-/

set_option autoImplicit false

namespace ScriptMatrix

namespace Script

/-- Overrides that are read have shell names, since the form of an override asks for one. -/
theorem isName_of_readOverrides {params : List String} {entries : List (String × String)}
    (h : readOverrides params = .ok entries) :
    ∀ e ∈ entries, Shell.isName e.1.toList = true := by
  have hforms := readOverrides_eq_ok_iff.mp h
  clear h
  induction hforms with
  | nil => exact fun e he => absurd he List.not_mem_nil
  | cons hform _ ih => exact List.forall_mem_cons.mpr ⟨hform.1, ih⟩

/-- The names after a put: a known one stays where it is, and a new one comes last. -/
theorem names_put (entries : List (String × String)) (e : String × String) :
    (put entries e).map (·.1)
      = if e.1 ∈ entries.map (·.1) then entries.map (·.1) else entries.map (·.1) ++ [e.1] := by
  induction entries with
  | nil => rfl
  | cons e' rest ih =>
    rw [put]
    by_cases hsame : e'.1 = e.1
    · rw [if_pos (by simpa using hsame), List.map_cons, List.map_cons, hsame,
        if_pos List.mem_cons_self]
    · rw [if_neg (by simpa using hsame), List.map_cons, List.map_cons, ih]
      by_cases hmem : e.1 ∈ rest.map (·.1)
      · rw [if_pos hmem, if_pos (List.mem_cons_of_mem _ hmem)]
      · rw [if_neg hmem, if_neg (List.not_mem_cons_of_ne_of_not_mem (Ne.symm hsame) hmem)]
        rfl

/-- Overrides with shell names, no two of them the same. This is what the section of a
script asks of them. -/
structure Named (entries : List (String × String)) : Prop where
  names : ∀ name ∈ entries.map (·.1), Shell.isName name.toList = true
  distinct : (entries.map (·.1)).Nodup

/-- A put keeps names apart. The name that is put is a shell name. -/
theorem Named.put {entries : List (String × String)} {e : String × String} (h : Named entries)
    (he : Shell.isName e.1.toList = true) : Named (put entries e) := by
  -- A known name gets a value in its place, a new one comes last.
  by_cases hmem : e.1 ∈ entries.map (·.1)
  · have hnames : (Script.put entries e).map (·.1) = entries.map (·.1) := by
      rw [names_put, if_pos hmem]
    exact ⟨hnames ▸ h.names, hnames ▸ h.distinct⟩
  · have hnames : (Script.put entries e).map (·.1) = entries.map (·.1) ++ [e.1] := by
      rw [names_put, if_neg hmem]
    refine ⟨fun name hname => ?_, ?_⟩
    · rw [hnames, List.mem_append, List.mem_singleton] at hname
      rcases hname with hold | rfl
      · exact h.names name hold
      · exact he
    · rw [hnames, List.nodup_append]
      refine ⟨h.distinct, List.pairwise_singleton _ _, fun name hname new hnew => ?_⟩
      rw [List.mem_singleton.mp hnew]
      exact fun heq => hmem (heq ▸ hname)

/-- Any number of puts keeps names apart. -/
theorem Named.foldl_put {entries added : List (String × String)} (h : Named entries)
    (hadded : ∀ e ∈ added, Shell.isName e.1.toList = true) :
    Named (added.foldl Script.put entries) := by
  induction added generalizing entries with
  | nil => exact h
  | cons e added ih =>
    -- One name after the other, on the entries that the earlier puts have left.
    obtain ⟨he, hrest⟩ := List.forall_mem_cons.mp hadded
    exact ih (h.put he) hrest

/-- What holds of every script. `current` says that the text is never behind its parts,
although it is kept beside them. -/
structure Sound (s : Script) : Prop where
  named : Named s.overrides
  current : s.text = render s.name s.defaults s.binding s.overrides s.body

/-- A script without overrides is sound. All scripts of a matrix start as such. -/
theorem ofBinding_sound (name : String) (defaults : Defaults) (body : Bytes) (b : Binding) :
    (ofBinding name defaults body b).Sound :=
  ⟨⟨fun _ hname => absurd hname List.not_mem_nil, List.nodup_nil⟩, rfl⟩

/-- A script that overrides have been added to has other overrides and the text that goes
with them. If one of them is not valid, none is added. -/
theorem append_cases {s s' : Script} {params : List String} (h : s.append params = .ok s') :
    ∃ entries, readOverrides params = .ok entries ∧
      s' = s.withOverrides (entries.foldl put s.overrides) := by
  unfold append at h
  cases hread : readOverrides params with
  | error e =>
    rw [hread] at h
    cases h
  | ok entries =>
    rw [hread] at h
    cases h
    exact ⟨entries, rfl, rfl⟩

/-- Adding overrides keeps a script sound. This is the step of `appends_sound`. -/
theorem append_sound {s s' : Script} {params : List String} (hs : s.Sound)
    (h : s.append params = .ok s') : s'.Sound := by
  obtain ⟨entries, hread, rfl⟩ := append_cases h
  exact ⟨hs.named.foldl_put (isName_of_readOverrides hread), rfl⟩

/-- One script is another but for its overrides and its text. -/
structure SameParts (s s' : Script) : Prop where
  name : s'.name = s.name
  binding : s'.binding = s.binding
  defaults : s'.defaults = s.defaults
  body : s'.body = s.body

/-- Whatever overrides a script has been given one after the other, it is sound, and its
other parts are what they were. -/
theorem appends_sound {calls : List (List String)} {s s' : Script} (hs : s.Sound)
    (h : calls.foldlM append s = .ok s') : s'.Sound ∧ SameParts s s' := by
  induction calls generalizing s with
  | nil =>
    cases h
    exact ⟨hs, rfl, rfl, rfl, rfl⟩
  | cons params calls ih =>
    rw [List.foldlM_cons] at h
    cases hnext : s.append params with
    | error e =>
      rw [hnext] at h
      cases h
    | ok next =>
      rw [hnext] at h
      -- The later calls go from `next`, which has the parts of `s`.
      obtain ⟨hsound, hparts⟩ := ih (append_sound hs hnext) h
      obtain ⟨entries, _, rfl⟩ := append_cases hnext
      exact ⟨hsound, hparts.name, hparts.binding, hparts.defaults, hparts.body⟩

end Script

end ScriptMatrix
