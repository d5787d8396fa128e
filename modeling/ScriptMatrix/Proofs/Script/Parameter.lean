import Mathlib.Data.List.Forall2
import Mathlib.Data.List.TakeWhile
import ScriptMatrix.Proofs.Shell.Lines
import ScriptMatrix.Proofs.Text.Trim
import ScriptMatrix.Script

/-!
# `ScriptMatrix.Proofs.Script.Parameter`: how overrides are written

`IsOverride` is the form of an override: a shell name with blanks around it,
an equals sign, and any value. `override?` reads just the texts of this form
(`override?_eq_some_iff`), since neither blanks nor the characters of names
are equals signs. A list of overrides is read if all of them have the form,
and the error is about the first that has not (`readOverrides_eq_ok_iff`,
`readOverrides_eq_error_iff`).
-/

set_option autoImplicit false

namespace ScriptMatrix

namespace Script

open Text (isBlank trim)
open Shell (isName isNameChar)

/-- The characters of names are not blank. There are few enough of them to look at all. -/
theorem isBlank_of_isNameChar {c : Char} (h : isNameChar c = true) : isBlank c = false := by
  -- Characters of names are ASCII, so there are 128 cases.
  have hascii : ∀ n < 128, isNameChar (Char.ofNat n) = true → isBlank (Char.ofNat n) = false := by
    decide
  have hc := hascii c.toNat (Shell.isNameChar_ascii h)
  rw [Char.ofNat_toNat] at hc
  exact hc h

/-- A text gives a name a value: the name with blanks around it, an equals sign, and the
value. Nothing is asked of the value, which may be empty and may have equals signs. -/
def IsOverride (param : String) (e : String × String) : Prop :=
  isName e.1.toList = true ∧
    ∃ before behind : List Char,
      (∀ c ∈ before, isBlank c = true) ∧ (∀ c ∈ behind, isBlank c = true) ∧
        param.toList = before ++ e.1.toList ++ behind ++ '=' :: e.2.toList

/-- What `override?` reads, from the two sides of the first equals sign. -/
theorem override?_of_split {param : String} {key value : List Char} (hkey : '=' ∉ key)
    (hparam : param.toList = key ++ '=' :: value) :
    override? param = if isName (trim key) then
      some (String.ofList (trim key), String.ofList value) else none := by
  have hkey : ∀ c ∈ key, (c != '=') = true := fun c hc =>
    bne_iff_ne.mpr fun heq => hkey (heq ▸ hc)
  have htake : param.toList.takeWhile (· != '=') = key := by
    rw [hparam, List.takeWhile_append_of_pos hkey, List.takeWhile_cons_of_neg (by simp),
      List.append_nil]
  have hdrop : param.toList.dropWhile (· != '=') = '=' :: value := by
    rw [hparam, List.dropWhile_append_of_pos hkey, List.dropWhile_cons_of_neg (by simp)]
  rw [override?, htake, hdrop]

/-- Without an equals sign nothing is read. -/
theorem override?_of_notMem {param : String} (h : '=' ∉ param.toList) : override? param = none := by
  have hdrop : param.toList.dropWhile (· != '=') = [] := by
    rw [List.dropWhile_eq_nil_iff]
    exact fun c hc => bne_iff_ne.mpr fun heq => h (heq ▸ hc)
  rw [override?, hdrop]

/-- An override is read just if it has the form of one. The form has one reading, since
neither blanks nor names have an equals sign in them. -/
theorem override?_eq_some_iff {param : String} {e : String × String} :
    override? param = some e ↔ IsOverride param e := by
  constructor
  · intro h
    -- A text is cut at its first equals sign, if it has one.
    by_cases hequals : '=' ∈ param.toList
    · obtain ⟨key, value, hparam, hkey⟩ := List.eq_append_cons_of_mem hequals
      rw [override?_of_split hkey hparam] at h
      split at h
      · rename_i hname
        cases h
        obtain ⟨before, behind, hbefore, hbehind, htrim⟩ := Text.exists_trim key
        refine ⟨by rwa [String.toList_ofList], before, behind, hbefore, hbehind, ?_⟩
        rw [String.toList_ofList, String.toList_ofList, ← htrim, hparam]
      · cases h
    · rw [override?_of_notMem hequals] at h
      cases h
  · rintro ⟨hname, before, behind, hbefore, hbehind, hparam⟩
    have hchars := Shell.isNameChar_of_isName hname
    have hnone : ∀ {cs : List Char}, (∀ c ∈ cs, isBlank c = true) → '=' ∉ cs := fun hcs hmem =>
      absurd (hcs _ hmem) (by decide)
    -- What stands in front of the sign in the form is all without one, so it is the part
    -- that is trimmed.
    have hkey : '=' ∉ before ++ e.1.toList ++ behind := by
      simp only [List.mem_append, not_or]
      exact ⟨⟨hnone hbefore, fun hmem => absurd (hchars _ hmem) (by decide)⟩, hnone hbehind⟩
    have htrim : trim (before ++ e.1.toList ++ behind) = e.1.toList :=
      (Text.trimmed_of_forall (fun c hc => isBlank_of_isNameChar (hchars c hc))
        (fun hnil => by rw [hnil] at hname; cases hname)).trim_eq hbefore hbehind
    rw [override?_of_split hkey hparam, htrim, if_pos hname, String.ofList_toList,
      String.ofList_toList]

/-- A text that is no override is not read. -/
theorem override?_eq_none_iff {param : String} :
    override? param = none ↔ ¬∃ e, IsOverride param e := by
  simp only [Option.eq_none_iff_forall_ne_some, ne_eq, override?_eq_some_iff, not_exists]

/-- Overrides are read one by one, and the first that is none ends it. The inductions below
go by this. -/
theorem readOverrides_cons (p : String) (params : List String) :
    readOverrides (p :: params) = match override? p with
      | some e => (readOverrides params).map (e :: ·)
      | none => .error (.invalidOverride p) := by
  rw [readOverrides, List.mapM_cons, ← readOverrides]
  cases override? p with
  | none => rfl
  | some e => cases readOverrides params <;> rfl

/-- Overrides are read if each has the form of one, and each gives its name and value. -/
theorem readOverrides_eq_ok_iff {params : List String} {entries : List (String × String)} :
    readOverrides params = .ok entries ↔ List.Forall₂ IsOverride params entries := by
  induction params generalizing entries with
  | nil =>
    rw [List.forall₂_nil_left_iff]
    exact ⟨fun h => (by cases h; rfl), fun h => (by subst h; rfl)⟩
  | cons p params ih =>
    rw [readOverrides_cons, List.forall₂_cons_left_iff]
    simp only [← override?_eq_some_iff, ← ih]
    cases override? p with
    | none =>
      refine ⟨fun h => (by cases h), ?_⟩
      rintro ⟨e, rest, he, -⟩
      cases he
    | some e =>
      constructor
      · intro h
        cases hrest : readOverrides params with
        | error fault => rw [hrest] at h; cases h
        | ok rest => rw [hrest] at h; cases h; exact ⟨e, rest, rfl, rfl, rfl⟩
      · rintro ⟨_, rest, he, hrest, rfl⟩
        cases he
        rw [hrest]
        rfl

/-- An error is about the first that has not the form of an override. Those before it have,
and those behind it do not matter. -/
theorem readOverrides_eq_error_iff {params : List String} {fault : Error} :
    readOverrides params = .error fault ↔
      ∃ front p back, params = front ++ p :: back ∧ (∀ q ∈ front, ∃ e, IsOverride q e) ∧
        (¬∃ e, IsOverride p e) ∧ fault = .invalidOverride p := by
  induction params with
  | nil =>
    refine ⟨fun h => (by cases h), ?_⟩
    rintro ⟨front, p, back, h, -⟩
    exact absurd h.symm (by simp)
  | cons p params ih =>
    rw [readOverrides_cons]
    cases hp : override? p with
    | none =>
      -- The first text is none: the error is about it, and nothing before it can be meant.
      have hinvalid := override?_eq_none_iff.mp hp
      constructor
      · intro h
        cases h
        exact ⟨[], p, params, rfl, fun q hq => absurd hq List.not_mem_nil, hinvalid, rfl⟩
      · rintro ⟨front, p', back, heq, hfront, -, rfl⟩
        cases front with
        | nil => cases heq; rfl
        | cons q front =>
          cases heq
          exact absurd (hfront p List.mem_cons_self) hinvalid
    | some e =>
      -- The first text is an override, so the error is about one of the others.
      have hvalid := override?_eq_some_iff.mp hp
      have hmap : (readOverrides params).map (e :: ·) = .error fault ↔
          readOverrides params = .error fault := by
        cases readOverrides params with
        | error fault' => exact Iff.rfl
        | ok rest => exact ⟨fun h => (by cases h), fun h => (by cases h)⟩
      rw [hmap, ih]
      constructor
      · rintro ⟨front, p', back, rfl, hfront, hinvalid, rfl⟩
        exact ⟨p :: front, p', back, rfl, List.forall_mem_cons.mpr ⟨⟨e, hvalid⟩, hfront⟩,
          hinvalid, rfl⟩
      · rintro ⟨front, p', back, heq, hfront, hinvalid, rfl⟩
        cases front with
        | nil => cases heq; exact absurd ⟨e, hvalid⟩ hinvalid
        | cons q front =>
          cases heq
          exact ⟨front, p', back, rfl, (List.forall_mem_cons.mp hfront).2, hinvalid, rfl⟩

/-- All overrides are read just if each is one. Where their values do not matter, valid
overrides are told by this. -/
theorem exists_readOverrides_iff {params : List String} :
    (∃ entries, readOverrides params = .ok entries) ↔ ∀ p ∈ params, ∃ e, IsOverride p e := by
  constructor
  · rintro ⟨entries, h⟩
    have hforms := readOverrides_eq_ok_iff.mp h
    clear h
    induction hforms with
    | nil => exact fun p hp => absurd hp List.not_mem_nil
    | cons hform _ ih => exact List.forall_mem_cons.mpr ⟨⟨_, hform⟩, ih⟩
  · intro h
    cases hread : readOverrides params with
    | ok entries => exact ⟨entries, rfl⟩
    | error fault =>
      obtain ⟨front, p, back, rfl, -, hinvalid, -⟩ := readOverrides_eq_error_iff.mp hread
      exact absurd (h p (by simp)) hinvalid

/-- Two lists of overrides are read one after the other. -/
theorem readOverrides_append {ps qs : List String} {first second : List (String × String)}
    (hps : readOverrides ps = .ok first) (hqs : readOverrides qs = .ok second) :
    readOverrides (ps ++ qs) = .ok (first ++ second) :=
  readOverrides_eq_ok_iff.mpr
    (List.rel_append (readOverrides_eq_ok_iff.mp hps) (readOverrides_eq_ok_iff.mp hqs))

end Script

end ScriptMatrix
