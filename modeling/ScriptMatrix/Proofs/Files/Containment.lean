import ScriptMatrix.Proofs.Files.Counter
import ScriptMatrix.Proofs.Files.Writes

/-!
# `ScriptMatrix.Proofs.Files.Containment`: no script is outside its directory

The text of a descriptor is free: axis values and the names of documents may hold
slashes, dots, any other character, or nothing. `Contained dir p` says what is true of
the path all the same. It is the directory with one more step, this step is a name, and
the name has plain characters and ends with the extension. So it is no `.` and no `..`,
also where nothing or only dots are left of the descriptor.

`exists_contained` is the main fact, for the plain path of a descriptor and for the one
that is chosen where others are taken. It goes back to two things: all characters are
kept ones (`isKept_of_mem_numbered`), and a file name is one step below its directory
however that is written (`Path.components_join`). The field `written` says the same of
files. A write changes one place, and the directory of this place is where `dir` leads
(`write_join`).

`unique` numbers without end. `counted_contained` is for the search with a 32-bit counter:
its names are plain for every counter, so they are for one that has run over as well.
-/

set_option autoImplicit false

namespace ScriptMatrix

namespace Path

/-- A directory as a path that says where it is. The empty path names the directory that
one is in for what is joined to it, but cannot be walked. -/
def orHere (dir : Path) : Path := if dir.text.isEmpty then ⟨"."⟩ else dir

/-- A directory that is written with no text is as relative as the dot that stands for it. -/
theorem isAbsolute_orHere (dir : Path) : dir.orHere.isAbsolute = dir.isAbsolute := by
  rw [orHere]
  split
  case isTrue hempty =>
    rw [isAbsolute, isAbsolute, String.isEmpty_iff.mp hempty]
    rfl
  case isFalse => rfl

/-- The directory has the pieces in front of what is joined to it, and may have one behind
these that says nothing: an empty one behind a slash, or the dot. -/
theorem pieces_orHere (dir : Path) :
    ∃ idle, pieces dir.orHere.text.toList = dir.front ++ idle ∧
      ∀ piece ∈ idle, piece = [] ∨ piece = ['.'] := by
  rw [orHere]
  split
  case isTrue hempty =>
    refine ⟨[['.']], ?_, fun piece hp => .inr (List.mem_singleton.mp hp)⟩
    rw [front, if_pos hempty]
    rfl
  case isFalse =>
    rcases pieces_eq_front dir with h | h
    · exact ⟨[], by rw [h, List.append_nil], fun piece hp => absurd hp List.not_mem_nil⟩
    · exact ⟨[[]], h, fun piece hp => .inl (List.mem_singleton.mp hp)⟩

/-- Joining a file name puts something behind the directory. So the directory is no longer
than the path, and has no other characters. -/
theorem text_join {f : List Char} (hf : IsFileName f) (dir : Path) :
    ∃ rest, (dir.join (String.ofList f)).text = dir.text ++ rest := by
  rw [join_eq hf]
  split
  case isTrue hempty =>
    exact ⟨String.ofList f, by rw [String.isEmpty_iff.mp hempty, String.empty_append]⟩
  case isFalse =>
    split
    · exact ⟨String.ofList f, rfl⟩
    · exact ⟨"/" ++ String.ofList f, String.append_assoc⟩

end Path

/-! ### Writing below a directory -/

namespace Sandbox.Tree

variable {t t' : Tree} {dir : Path} {b : Bytes} {f : List Char}

/-- Steps that say nothing lead from a directory to itself. -/
theorem walkFrom_idle {d : Location} (hdirectory : t.get? d = some .directory)
    {idle : List String} (h : ∀ s ∈ idle, s = "" ∨ s = ".") : t.walkFrom d idle = .ok d := by
  induction idle with
  | nil => rfl
  | cons s idle ih =>
    obtain ⟨hs, hidle⟩ := List.forall_mem_cons.mp h
    rw [walkFrom, if_neg (by simp [hdirectory]), if_pos (by simpa using hs)]
    exact ih hidle

/-- A directory is a path if a file in it is one. The path of the file has all characters of
the directory and is longer. -/
theorem pathFault?_orHere (hf : Path.IsFileName f)
    (h : pathFault? (dir.join (String.ofList f)) = none) : pathFault? dir.orHere = none := by
  obtain ⟨rest, htext⟩ := Path.text_join hf dir
  rw [Path.orHere]
  split
  case isTrue => decide
  case isFalse hempty =>
    -- A path is refused for a NUL or for its length, and the path of the file would be
    -- refused as well.
    rw [pathFault?, htext, String.toList_append, String.utf8ByteSize_append] at h
    rw [pathFault?]
    split at h
    case isTrue => cases h
    case isFalse hnul =>
      rw [List.any_append, Bool.or_eq_true, not_or] at hnul
      rw [if_neg hnul.1, if_neg hempty]
      split at h
      case isTrue => cases h
      case isFalse =>
        split at h
        case isTrue => cases h
        case isFalse hlimit => rw [if_neg (by omega)]

/-- The pieces in front of a file name lead to where the directory leads. Behind them, the
directory has at most a piece that says nothing. -/
theorem walk_orHere (hf : Path.IsFileName f)
    (hfault : pathFault? (dir.join (String.ofList f)) = none) {d : Location}
    (hfront : t.walkFrom (t.startOf (dir.join (String.ofList f))) (dir.front.map String.ofList)
      = .ok d) (hdirectory : t.get? d = some .directory) :
    t.walk dir.orHere = .ok d := by
  have hstart : t.startOf dir.orHere = t.startOf (dir.join (String.ofList f)) := by
    rw [startOf, startOf, Path.isAbsolute_orHere, Path.isAbsolute_join hf]
  obtain ⟨idle, hpieces, hidle⟩ := Path.pieces_orHere dir
  -- The piece that may be left behind `front` is empty or a dot, and both stay in `d`.
  have hrest : t.walkFrom d (idle.map String.ofList) = .ok d := by
    refine walkFrom_idle hdirectory fun s hs => ?_
    obtain ⟨piece, hpiece, rfl⟩ := List.mem_map.mp hs
    rcases hidle piece hpiece with rfl | rfl
    · exact .inl rfl
    · exact .inr rfl
  rw [walk, pathFault?_orHere hf hfault]
  show t.walkFrom (t.startOf dir.orHere) (steps dir.orHere) = .ok d
  rw [steps, hpieces, List.map_append, walkFrom_append, hstart, hfront]
  exact hrest

/-- **Writing a file in a directory** changes the place of its name in the directory, and no
other. The file may be there before (`walk_join`), or it is the target of its path. -/
theorem write_join (hf : Path.IsFileName f)
    (h : t.write (dir.join (String.ofList f)) b = .ok t') :
    ∃ d, t.walk dir.orHere = .ok d ∧ t.get? d = some .directory ∧
      ∀ q, q ≠ d ++ [String.ofList f] → t'.get? q = t.get? q := by
  -- `write_place` gives one place, and no other is changed. What is left is that this place
  -- is in the directory.
  obtain ⟨place, hleads, -, hresult⟩ := write_place h
  have hplace : ∃ d, t.walk dir.orHere = .ok d ∧ t.get? d = some .directory ∧
      place = d ++ [String.ofList f] := by
    rcases hleads with hwalk | ⟨-, htarget⟩
    · obtain ⟨d, hfault, hfront, hdirectory, rfl⟩ := walk_join hf hwalk
      exact ⟨d, walk_orHere hf hfault hfront hdirectory, hdirectory, rfl⟩
    · -- The target is the last step, and the ones before it are those of the directory.
      obtain ⟨front, last, d, hsteps, hfault, hfront, hdirectory, -, -, rfl⟩ :=
        target_eq_ok htarget
      rw [steps, Path.pieces_join hf, List.map_append] at hsteps
      obtain ⟨rfl, hlast⟩ := List.append_inj' hsteps rfl
      obtain rfl := List.singleton_inj.mp hlast
      exact ⟨d, walk_orHere hf hfault hfront hdirectory, hdirectory, rfl⟩
  obtain ⟨d, hwalk, hdirectory, rfl⟩ := hplace
  refine ⟨d, hwalk, hdirectory, fun q hq => ?_⟩
  rcases hresult with ⟨-, rfl⟩ | rfl
  · rfl
  · rw [get?_put t (by simp), if_neg hq]

end Sandbox.Tree

namespace FileName

open Sandbox (Tree)

/-- What is kept are ASCII letters and digits, and four characters more. This spells
`isKept` out for `Contained`. -/
theorem isKept_iff (c : Char) :
    isKept c = true ↔ ('a' ≤ c ∧ c ≤ 'z') ∨ ('A' ≤ c ∧ c ≤ 'Z') ∨ ('0' ≤ c ∧ c ≤ '9') ∨
      c ∈ ['.', '_', '=', '-'] := by
  simp [isKept, or_assoc]

/-- A path is a directory with one more step, which has a plain name:

- `joined`, `components`: the name is joined to the directory, and is one step;
- `plain`, `extension`, `step`: it has ASCII letters, digits and four other characters
  only, ends with the extension, and is no step that leads elsewhere;
- `written`: what is written to the path changes the file of this name where the
  directory leads, and nothing else. -/
structure Contained (dir p : Path) (name : List Char) : Prop where
  joined : p = dir.join (String.ofList name)
  components : p.components = dir.components ++ [.name name]
  plain : ∀ c ∈ name, ('a' ≤ c ∧ c ≤ 'z') ∨ ('A' ≤ c ∧ c ≤ 'Z') ∨ ('0' ≤ c ∧ c ≤ '9') ∨
    c ∈ ['.', '_', '=', '-']
  extension : ".sh".toList <:+ name
  step : '/' ∉ name ∧ name ≠ ['.'] ∧ name ≠ ['.', '.']
  written : ∀ (t t' : Tree) (b : Bytes), t.write p b = .ok t' →
    ∃ d, t.walk dir.orHere = .ok d ∧ t.get? d = some .directory ∧
      ∀ q, q ≠ d ++ [String.ofList name] → t'.get? q = t.get? q

/-- Kept characters with the extension behind them are such a name. The three names that a
file can get are instances: the plain one, a numbered one and a counted one. -/
theorem contained_of_isKept (dir : Path) {cs : List Char} (h : ∀ c ∈ cs, isKept c = true) :
    Contained dir (dir.join (String.ofList (cs ++ ".sh".toList))) (cs ++ ".sh".toList) := by
  have hf : Path.IsFileName (cs ++ ".sh".toList) :=
    isFileName_of_not_mem (slash_not_mem_of_isKept h)
  have hextension : ∀ c ∈ ".sh".toList, isKept c = true :=
    List.all_eq_true.mp (by decide)
  refine ⟨rfl, Path.components_join hf dir, fun c hc => (isKept_iff c).mp ?_,
    List.suffix_append cs _, ⟨hf.noSlash, hf.ne_dot, hf.ne_dots⟩,
    fun t t' b => Tree.write_join hf⟩
  rcases List.mem_append.mp hc with hc | hc
  · exact h c hc
  · exact hextension c hc

/-- **No descriptor leads out of the directory.** Whatever a descriptor and the taken
paths are, its path is the directory with one more step that is a plain name with the
extension, and so is the path that is chosen for it. -/
theorem exists_contained (dir : Path) (d : String) (taken : PathSet) :
    (∃ name, Contained dir (ofDescriptor dir d) name) ∧
      ∃ name, Contained dir (unique dir d taken).1 name := by
  have hplain : Contained dir (ofDescriptor dir d) (stem d ++ ".sh".toList) :=
    contained_of_isKept dir fun c hc => isKept_of_mem_stem d hc
  refine ⟨⟨_, hplain⟩, ?_⟩
  -- The chosen path is the plain one, or a numbered one if that is taken.
  cases htaken : taken.has (ofDescriptor dir d) with
  | false =>
    rw [unique_of_free dir d taken htaken]
    exact ⟨_, hplain⟩
  | true =>
    obtain ⟨n, -, -, -, -, heq⟩ := unique_of_taken dir d taken htaken
    rw [heq]
    exact ⟨_, contained_of_isKept dir fun c hc => isKept_of_mem_numbered d hc⟩

/-- The text of an integer has kept characters only. `isKept_of_mem_digits` is for its
digits, and the sign of a negative one is a hyphen, which a file name keeps. -/
theorem isKept_of_mem_toString {i : Int} {c : Char} (hc : c ∈ (toString i).toList) :
    isKept c = true := by
  cases i with
  | ofNat n => exact isKept_of_mem_digits hc
  | negSucc n =>
    have htext : (toString (Int.negSucc n)).toList = '-' :: (toString (n + 1)).toList :=
      String.toList_append
    rw [htext] at hc
    rcases List.mem_cons.mp hc with rfl | hc
    · decide
    · exact isKept_of_mem_digits hc

/-- **Nor does any counter.** The file that `Search` looks at with its counter at `n` is
`Contained`, for each of the `2 ^ 32` values of `n`. So where so many paths are taken that
the counter overflows, and goes on from the least number, the names of the files have a
sign more, and the files stay in the directory. -/
theorem counted_contained (dir : Path) (d : String) (n : Int32) :
    ∃ name, Contained dir (counted dir d n) name := by
  have hkept : ∀ c ∈ stem d ++ '-' :: (toString n.toInt).toList, isKept c = true :=
    fun c hc => isKept_of_mem_suffixed d (fun _ hc => isKept_of_mem_toString hc) hc
  exact ⟨_, contained_of_isKept dir hkept⟩

/-- Two steps up and a character that no path may have become a name. -/
example : ofDescriptor ⟨"/out"⟩ "../../\x00-" = ⟨"/out/..-..-_.sh"⟩ := by decide

end FileName

end ScriptMatrix
