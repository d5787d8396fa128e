import Mathlib.Data.List.Forall2
import ScriptMatrix.Proofs.Files.Tree
import ScriptMatrix.Proofs.Files.Unique

/-!
# `ScriptMatrix.Proofs.Files.Writes`: many files in one directory

`Writes` is a sequence of writes that all succeed. The first files stay what
they are when more are written, provided that these go to other places. In one
directory different names do (`walk_join`), so `Writes.spec` reads back every
file from the tree at the end, and every other place as it was.
-/

set_option autoImplicit false

namespace ScriptMatrix.Sandbox.Tree

open FileName (IsScriptPath)

variable {t t' : Tree} {dir p : Path} {b : Bytes}

/-- Files are written one after the other, and no write fails. -/
inductive Writes : Tree → List (Path × Bytes) → Tree → Prop
  | nil (t : Tree) : Writes t [] t
  | cons {t t' t'' : Tree} {p : Path} {b : Bytes} {rest : List (Path × Bytes)}
      (first : t.write p b = .ok t') (others : Writes t' rest t'') : Writes t ((p, b) :: rest) t''

/-- No device has a name that a script could have. What is written to a device is lost, so
scripts have to keep away from them. -/
def DevicesApart (t : Tree) : Prop :=
  ∀ place cs, t.get? (place ++ [String.ofList (cs ++ ".sh".toList)]) ≠ some .void

/-- Devices can be told apart by their names. For a given tree this is decided from its
entries. -/
theorem devicesApart_of_entries (h : ∀ x ∈ t.entries, x.2 = .void →
    ∀ name ∈ x.1.getLast?, ¬ ".sh".toList <:+ name.toList) : DevicesApart t := by
  intro place cs hvoid
  rw [get?, if_neg (by simp)] at hvoid
  obtain ⟨before, behind, hentries, -⟩ := List.lookup_eq_some_iff.mp hvoid
  refine h _ (hentries ▸ List.mem_append_right _ List.mem_cons_self) rfl _ List.getLast?_concat ?_
  have hname : (String.ofList (cs ++ ".sh".toList)).toList = cs ++ ".sh".toList :=
    String.toList_ofList
  rw [hname]
  exact List.suffix_append cs _

/-- New directories are no devices, so rendering can make some before it writes. -/
theorem DevicesApart.grows (h : DevicesApart t) (hgrows : Grows t t') : DevicesApart t' := by
  intro place cs hvoid
  rcases hgrows.get? (place ++ [String.ofList (cs ++ ".sh".toList)]) with hsame | ⟨-, hmade⟩
  · exact h place cs (hsame.symm.trans hvoid)
  · rw [hmade] at hvoid
    cases hvoid

/-! ### Places in a directory -/

/-- A file name is none of the steps that lead elsewhere, now as the texts that a walk
compares. -/
theorem name_ne {f : List Char} (hf : Path.IsFileName f) :
    String.ofList f ≠ "" ∧ String.ofList f ≠ "." ∧ String.ofList f ≠ ".." := by
  simp only [ne_eq, ← String.toList_inj, String.toList_ofList]
  exact ⟨hf.ne_nil, hf.ne_dot, hf.ne_dots⟩

/-- A path to a name in a directory leads to a place of that name, by way of the pieces in
front of it. The pieces are the same for all names, so the directory is too. -/
theorem walk_join {f : List Char} (hf : Path.IsFileName f) {place : Location}
    (h : t.walk (dir.join (String.ofList f)) = .ok place) :
    ∃ d, pathFault? (dir.join (String.ofList f)) = none ∧
      t.walkFrom (t.startOf (dir.join (String.ofList f))) (dir.front.map String.ofList) = .ok d ∧
      t.get? d = some .directory ∧ place = d ++ [String.ofList f] := by
  rw [walk] at h
  split at h
  case h_1 => cases h
  case h_2 hfault =>
    rw [steps, Path.pieces_join hf, List.map_append, walkFrom_append] at h
    change (t.walkFrom _ _).bind _ = _ at h
    cases hd : t.walkFrom (t.startOf (dir.join (String.ofList f)))
        (dir.front.map String.ofList) with
    | error fault =>
      rw [hd] at h
      cases h
    | ok d =>
      rw [hd] at h
      replace h : t.walkFrom d [String.ofList f] = .ok place := h
      -- The pieces in front lead to `d`, and the name is one more step from there.
      rw [walkFrom_name (name_ne hf)] at h
      split at h
      case isTrue => cases h
      case isFalse hdirectory =>
        repeat' split at h
        all_goals cases h
        exact ⟨d, hfault, rfl, Decidable.not_not.mp hdirectory, rfl⟩

/-- Different script paths in a directory lead to different places. Their places end in
their names. -/
theorem walk_injective {q : Path} (hp : IsScriptPath dir p) (hq : IsScriptPath dir q)
    {place : Location} (hwalk : t.walk p = .ok place) (hwalk' : t.walk q = .ok place) : p = q := by
  obtain ⟨cs, hcs, rfl⟩ := hp
  obtain ⟨ds, hds, rfl⟩ := hq
  obtain ⟨d, -, -, -, hplace⟩ := walk_join (FileName.isFileName_of_not_mem hcs) hwalk
  obtain ⟨d', -, -, -, hplace'⟩ := walk_join (FileName.isFileName_of_not_mem hds) hwalk'
  -- Both places are the same, and each ends in its name.
  obtain ⟨-, hlast⟩ := List.append_inj' (hplace.symm.trans hplace') rfl
  rw [List.singleton_inj.mp hlast]

/-! ### Steps -/

/-- A write keeps all directories, since it goes to no directory. -/
theorem write_keeps (h : t.write p b = .ok t') : Keeps t t' := by
  obtain ⟨place, -, hplace, ⟨-, rfl⟩ | rfl⟩ := write_cases h
  · exact Keeps.refl _
  · exact Keeps.put hplace _

/-- All writes together keep all directories. -/
theorem Writes.keeps {files : List (Path × Bytes)} (h : Writes t files t') : Keeps t t' := by
  induction h with
  | nil t => exact Keeps.refl t
  | cons first _ ih => exact (write_keeps first).trans ih

/-- A script is written to a place where no device is. `hdevices` rules out the second way
that `write_cases` has, and is kept for the next script. -/
theorem write_script (hdevices : DevicesApart t) (hp : IsScriptPath dir p)
    (h : t.write p b = .ok t') :
    DevicesApart t' ∧ ∃ place, t'.walk p = .ok place ∧
      ∀ q, t'.get? q = if q = place then some (.file b) else t.get? q := by
  obtain ⟨place, hwalk, hplace, ⟨hvoid, -⟩ | rfl⟩ := write_cases h
  · -- On a device the write would be lost. But the place ends in the name of a script.
    obtain ⟨cs, hcs, rfl⟩ := hp
    obtain ⟨d, -, -, -, rfl⟩ := walk_join (FileName.isFileName_of_not_mem hcs) hwalk
    exact absurd hvoid (hdevices d cs)
  · have hne : place ≠ [] := by
      rintro rfl
      exact hplace rfl
    refine ⟨fun d cs => ?_, place, hwalk, get?_put t hne _⟩
    rw [get?_put t hne]
    split
    · exact fun h => by cases h
    · exact hdevices d cs

/-! ### All files -/

/-- **Files with different names in one directory** are all there after the last one is
written, and nothing else has changed. The induction is on the writes: what the first has
written stays, because the others go to other places. -/
theorem Writes.spec {files : List (Path × Bytes)} (h : Writes t files t')
    (hdevices : DevicesApart t) (hdir : ∀ x ∈ files, IsScriptPath dir x.1)
    (hnodup : (files.map (·.1)).Nodup) :
    (∀ x ∈ files, ∃ place, t'.walk x.1 = .ok place ∧ t'.get? place = some (.file x.2)) ∧
      ∀ place, (∀ x ∈ files, t'.walk x.1 ≠ .ok place) → t'.get? place = t.get? place := by
  induction h with
  | nil t => exact ⟨fun x hx => absurd hx List.not_mem_nil, fun _ _ => rfl⟩
  | @cons t t₁ t₂ p b rest first others ih =>
    obtain ⟨hfirst, hdir⟩ := List.forall_mem_cons.mp hdir
    obtain ⟨hnew, hnodup⟩ := List.nodup_cons.mp hnodup
    obtain ⟨hdevices, place, hwalk, hget⟩ := write_script hdevices hfirst first
    obtain ⟨hfiles, hothers⟩ := ih hdevices hdir hnodup
    have hplace : t₂.walk p = .ok place := others.keeps.walk hwalk
    -- The others go to other places, since their paths are different.
    have hapart : ∀ x ∈ rest, t₂.walk x.1 ≠ .ok place := fun x hx hsame =>
      hnew (List.mem_map.mpr ⟨x, hx, (walk_injective hfirst (hdir x hx) hplace hsame).symm⟩)
    refine ⟨List.forall_mem_cons.mpr ⟨⟨place, hplace, ?_⟩, hfiles⟩, fun q hq => ?_⟩
    · rw [hothers place hapart, hget, if_pos rfl]
    · obtain ⟨hq, hrest⟩ := List.forall_mem_cons.mp hq
      rw [hothers q hrest, hget, if_neg]
      rintro rfl
      exact hq hplace

/-- The files of descriptors that come one after the other are such files. They are read
back in order. -/
theorem Writes.spec_assign {descriptors : List String} {texts : List Bytes}
    (h : Writes t ((FileName.assign dir descriptors PathSet.empty).zip texts) t')
    (hlength : descriptors.length = texts.length) (hdevices : DevicesApart t) :
    let paths := FileName.assign dir descriptors PathSet.empty
    List.Forall₂ (fun p b => t'.read p = .ok b) paths texts ∧
      ∀ place, (∀ p ∈ paths, t'.walk p ≠ .ok place) → t'.get? place = t.get? place := by
  intro paths
  have hpaths : paths.length = texts.length := (FileName.length_assign dir _ _).trans hlength
  have hmem : ∀ x ∈ paths.zip texts, x.1 ∈ paths := fun x hx => (List.of_mem_zip hx).1
  -- The paths are different as texts because their steps are.
  have hnodup : ((paths.zip texts).map (·.1)).Nodup := by
    rw [List.map_fst_zip (Nat.le_of_eq hpaths)]
    exact (FileName.nodup_assign dir descriptors PathSet.empty).of_map
  obtain ⟨hfiles, hothers⟩ := h.spec hdevices
    (fun x hx => FileName.isScriptPath_of_mem_assign dir (hmem x hx)) hnodup
  refine ⟨List.forall₂_iff_zip.mpr ⟨hpaths, fun hx => ?_⟩, fun place hplace =>
    hothers place fun x hx => hplace x.1 (hmem x hx)⟩
  obtain ⟨place, hwalk, hget⟩ := hfiles _ hx
  exact read_of_walk hwalk hget

end ScriptMatrix.Sandbox.Tree
