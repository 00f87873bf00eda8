import PolicyTrial.Proofs.Files.Keeping

/-!
# Where the operations on files can reach

`FileTree.Keeps` says which files an operation leaves alone, and lets it make directories anywhere.
Here the directories are told as well.

* `Path.IsNormal`: a text that is a single part of a path and leads one step down.
* `Confines`: one tree differs from another one at some places only, with files at some of them and
  new directories at others.
* `confines_of_write_join`, `confines_of_makeDirs_join`: a write, and making a directory, just below
  a directory that is there.
* `exists_directory_of_makeDirs`: a directory that was made is there.
-/

namespace PolicyTrial

/-- A text is a single part of a path that leads one step down. -/
structure Path.IsNormal (name : String) : Prop where
  noSlash : '/' ∉ name.toList
  not_idle : ¬ (name = "" ∨ name = ".")
  not_up : name ≠ ".."

namespace FileTree

/-- Seen from one tree, another one has other files at some places at most, and new directories at
some places at most. Nothing is missing from it. -/
structure Confines (t u : FileTree) (files dirs : Place → Prop) : Prop extends t.Keeps u files where
  made : ∀ p, u.at? p = some .directory → t.at? p = some .directory ∨ dirs p

namespace Confines

variable {t u v : FileTree} {files files' dirs dirs' : Place → Prop}

theorem refl (t : FileTree) (files dirs : Place → Prop) : t.Confines t files dirs :=
  ⟨.refl t files, fun _ => .inl⟩

theorem mono (h : t.Confines u files dirs) (h_files : ∀ p, files p → files' p)
    (h_dirs : ∀ p, dirs p → dirs' p) : t.Confines u files' dirs' :=
  ⟨h.toKeeps.mono h_files, fun p hp => (h.made p hp).imp_right (h_dirs p)⟩

theorem trans (h : t.Confines u files dirs) (h' : u.Confines v files dirs) :
    t.Confines v files dirs :=
  ⟨h.toKeeps.trans h'.toKeeps, fun p hp => (h'.made p hp).elim (h.made p) .inr⟩

end Confines

variable {t u : FileTree}

/-- To put a file where there was no directory makes none. -/
theorem confines_withNode_file {p : Place} (h : t.at? p ≠ some .directory) (c : Bytes) (x : Bool) :
    t.Confines (t.withNode p (.file c x)) (· = p) (fun _ => False) := by
  refine ⟨keeps_withNode_file h c x, fun q hq => .inl ?_⟩
  rw [at?_withNode h] at hq
  split at hq
  · cases hq
  · exact hq

theorem confines_withNode_directory {p : Place} (h : t.at? p = none) :
    t.Confines (t.withNode p .directory) (fun _ => False) (· = p) := by
  refine ⟨keeps_withNode_directory h, fun q hq => ?_⟩
  rw [at?_withNode (by rw [h]; nofun)] at hq
  split at hq
  · next h_same => exact .inr h_same
  · exact .inl hq

/-- A write below a directory changes nothing but the file of that name in it. -/
theorem confines_of_write_join {dir name : String} (h_name : IsName name)
    (h_slash : '/' ∉ name.toList) {c : Bytes} {d : Place}
    (h_dir : t.LeadsTo dir d (some .directory)) (h : t.write (Path.join dir name) c = .ok u) :
    t.Confines u (· = d ++ [name]) (fun _ => False) := by
  obtain ⟨-, q, n, x, h_leads, hn, rfl⟩ := exists_withNode_of_write h
  obtain rfl : q = d ++ [name] := h_dir.eq_of_join h_name h_slash h_leads
  refine confines_withNode_file ?_ c x
  rw [Leads.at?_eq h_leads hn]
  exact hn

/-! ### Making directories -/

/-- What does not end with a slash stays as it is. -/
theorem withoutEndSlash_eq_self {path : String} (h : path.toList.getLast? ≠ some '/') :
    withoutEndSlash path = path := by
  have h_all : path.toList.reverse.dropWhile (· = '/') = path.toList.reverse := by
    rw [← List.head?_reverse] at h
    cases h_rev : path.toList.reverse with
    | nil => rfl
    | cons c cs =>
      rw [h_rev, List.head?_cons] at h
      exact List.dropWhile_cons_of_neg fun hc => h (congrArg some (of_decide_eq_true hc))
  rw [withoutEndSlash, h_all, List.reverse_reverse]
  split
  · rfl
  · exact String.ofList_toList

/-- A path to a name ends with the name. -/
theorem exists_toList_join (base name : String) :
    ∃ s, (Path.join base name).toList = s ++ name.toList := by
  unfold Path.join
  split
  · exact ⟨[], rfl⟩
  split
  · exact ⟨_, String.toList_append⟩
  · exact ⟨_, String.toList_append⟩

theorem withoutEndSlash_join (base : String) {name : String} (h : '/' ∉ name.toList)
    (h_some : name ≠ "") : withoutEndSlash (Path.join base name) = Path.join base name := by
  obtain ⟨s, hs⟩ := exists_toList_join base name
  have h_chars : name.toList ≠ [] := fun h_nil => h_some (String.toList_eq_nil_iff.mp h_nil)
  refine withoutEndSlash_eq_self ?_
  rw [hs, List.getLast?_append_of_ne_nil s h_chars]
  exact fun h_last => h (List.mem_of_getLast? h_last)

theorem join_ne_empty (base : String) {name : String} (h_some : name ≠ "") :
    Path.join base name ≠ "" := by
  obtain ⟨s, hs⟩ := exists_toList_join base name
  intro h_empty
  rw [h_empty] at hs
  exact h_some (String.toList_eq_nil_iff.mp (List.append_eq_nil_iff.mp hs.symm).2)

/-- A single normal part that leads anywhere is the name of something. -/
theorem Leads.isName {p q : Place} {name : String} {n : Option FileNode} (h : t.Leads p [name] q n)
    (h_name : Path.IsNormal name) : IsName name := by
  cases h with
  | idle h_idle => exact absurd h_idle h_name.not_idle
  | up => exact absurd rfl h_name.not_up
  | down h_part | stop h_part => exact h_part

theorem isDir_iff {path : String} :
    t.isDir path = true ↔ IsTaken path ∧ ∃ q, t.LeadsTo path q (some .directory) := by
  constructor
  · intro h
    unfold isDir at h
    split at h
    · next q h_resolve =>
      obtain ⟨h_taken, h_leads⟩ := resolve_eq_ok_iff.mp h_resolve
      exact ⟨h_taken, q, h_leads⟩
    · cases h
  · rintro ⟨h_taken, q, h_leads⟩
    rw [isDir, resolve_eq_ok_iff.mpr ⟨h_taken, h_leads⟩]

section Made

variable {path : String}

theorem exists_directory_of_makeDir (h_end : withoutEndSlash path = path)
    (h : t.makeDir path = .ok u) : IsTaken path ∧ ∃ q, u.LeadsTo path q (some .directory) := by
  obtain ⟨⟨q, n⟩, h_resolve, h⟩ := exists_of_bind_eq_ok h
  rw [h_end] at h_resolve
  cases n with
  | some _ => cases h
  | none =>
    obtain ⟨h_taken, h_leads⟩ := resolve_eq_ok_iff.mp h_resolve
    have h_none : t.at? q = none := Leads.at?_eq h_leads nofun
    obtain rfl : t.withNode q .directory = u := Except.ok.inj h
    have h_now := (keeps_withNode_directory h_none).leadsTo_at h_leads nofun
    rw [at?_withNode (by rw [h_none]; nofun), if_pos rfl] at h_now
    exact ⟨h_taken, q, h_now⟩

theorem exists_directory_of_ensureDir (h_end : withoutEndSlash path = path)
    (h : t.ensureDir path = .ok u) : IsTaken path ∧ ∃ q, u.LeadsTo path q (some .directory) := by
  unfold ensureDir at h
  split at h
  · next h_make =>
    cases h
    exact exists_directory_of_makeDir h_end h_make
  · split at h
    · next h_there =>
      cases h
      exact isDir_iff.mp h_there
    · cases h

/-- A directory that was made, with all that lead to it, is there. -/
theorem exists_directory_of_makeDirs (h_end : withoutEndSlash path = path) (h_some : path ≠ "")
    (h : t.makeDirs path = .ok u) : IsTaken path ∧ ∃ q, u.LeadsTo path q (some .directory) := by
  unfold makeDirs makeDirsWithin at h
  rw [if_neg h_some] at h
  split at h
  · next h_make =>
    cases h
    exact exists_directory_of_makeDir h_end h_make
  · split at h
    · -- whatever had to be made above, the directory itself is made last
      obtain ⟨v, -, h⟩ := exists_of_bind_eq_ok h
      exact exists_directory_of_ensureDir h_end h
    · cases h
  · split at h
    · next h_there =>
      cases h
      exact isDir_iff.mp h_there
    · cases h

end Made

/-- To make a directory below one that is there makes that one only. -/
theorem confines_of_makeDirs_join {dir name : String} (h_name : Path.IsNormal name) {d : Place}
    (h_dir : t.LeadsTo dir d (some .directory)) (h : t.makeDirs (Path.join dir name) = .ok u) :
    t.Confines u (fun _ => False) (· = d ++ [name]) ∧
      u.LeadsTo (Path.join dir name) (d ++ [name]) (some .directory) := by
  have h_filled : name ≠ "" := fun h_empty => h_name.not_idle (.inl h_empty)
  have h_end := withoutEndSlash_join dir h_name.noSlash h_filled
  have h_some := join_ne_empty dir h_filled
  obtain ⟨h_taken, q, h_there⟩ := exists_directory_of_makeDirs h_end h_some h
  obtain ⟨d', h_dir', h_last⟩ := (leadsTo_join_iff dir h_name.noSlash).mp h_there
  obtain rfl : d' = d := (h_dir'.unique ((keeps_of_makeDirs h).leadsTo_directory h_dir)).1
  have h_part := h_last.isName h_name
  obtain rfl : q = d' ++ [name] := h_last.eq_enter.trans (enter_of_isName h_part)
  refine ⟨?_, h_there⟩
  -- before, the path led to the same place, so nothing above it is missing
  have h_before : t.LeadsTo (Path.join dir name) (d' ++ [name]) (t.at? (d' ++ [name])) :=
    (leadsTo_join_iff dir h_name.noSlash).mpr ⟨d', h_dir, leads_name h_part⟩
  have h_make : t.makeDir (Path.join dir name) = match t.at? (d' ++ [name]) with
      | none => .ok (t.withNode (d' ++ [name]) .directory)
      | some _ => .error .exists := by
    rw [makeDir, h_end, resolve_eq_ok_iff.mpr ⟨h_taken, h_before⟩]
    cases t.at? (d' ++ [name]) with
    | none | some _ => rfl
  unfold makeDirs makeDirsWithin at h
  rw [if_neg h_some, h_make] at h
  cases h_at : t.at? (d' ++ [name]) with
  | none =>
    rw [h_at] at h
    cases h
    exact confines_withNode_directory h_at
  | some node =>
    rw [h_at] at h
    dsimp only at h
    split at h
    · cases h
      exact .refl t _ _
    · cases h

end FileTree

end PolicyTrial
