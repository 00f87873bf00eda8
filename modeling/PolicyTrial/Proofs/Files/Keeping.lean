import PolicyTrial.Proofs.Fallible
import PolicyTrial.Proofs.Files.Walking

/-!
# What the operations on files leave as it is

Writing a file and making directories only ever add to a tree, save for the content of the one file
that is written. So whatever a path led to before, it leads to afterwards.

* `Keeps`: one tree has the directories of another one, and the same files but for some places.
* `Keeps.leads_directory`, `Keeps.read`: what was there and is kept is found by the same path.
* `write_ok`: a write reaches one place only, and is read back.
* `keeps_of_makeDirs`: making directories changes no file.
-/

namespace PolicyTrial.FileTree

/-- Seen from one tree, another one has the same directories and maybe more, and outside of some
places it has exactly the same files. -/
structure Keeps (t u : FileTree) (written : Place → Prop) : Prop where
  workingDir : u.workingDir = t.workingDir
  directory : ∀ p, t.at? p = some .directory → u.at? p = some .directory
  file : ∀ p, ¬ written p → ∀ c x, u.at? p = some (.file c x) ↔ t.at? p = some (.file c x)

namespace Keeps

variable {t u v : FileTree} {written written' : Place → Prop}

theorem refl (t : FileTree) (written : Place → Prop) : t.Keeps t written :=
  ⟨rfl, fun _ h => h, fun _ _ _ _ => Iff.rfl⟩

theorem mono (h : t.Keeps u written) (h_le : ∀ p, written p → written' p) : t.Keeps u written' :=
  ⟨h.workingDir, h.directory, fun p hp => h.file p (fun h_written => hp (h_le p h_written))⟩

theorem trans (h : t.Keeps u written) (h' : u.Keeps v written) : t.Keeps v written := by
  refine ⟨h'.workingDir.trans h.workingDir, fun p hp => h'.directory p (h.directory p hp), ?_⟩
  intro p hp c x
  rw [h'.file p hp, h.file p hp]

/-- Parts that led to a directory lead there still. -/
theorem leads_directory (h : t.Keeps u written) {p q : Place} {parts : List String}
    (hl : t.Leads p parts q (some .directory)) : u.Leads p parts q (some .directory) := by
  generalize h_node : some FileNode.directory = node at hl ⊢
  induction hl with
  | here p => exact .here p
  | idle h_idle _ ih => exact .idle h_idle (ih h_node)
  | up _ ih => exact .up (ih h_node)
  | down h_name h_at _ ih => exact .down h_name (h.directory _ h_at) (ih h_node)
  | stop _ h_at => exact absurd h_node.symm h_at

/-- Parts that led to anything else lead to the same place, whatever stands there now. -/
theorem leads_at (h : t.Keeps u written) {p q : Place} {parts : List String} {n : Option FileNode}
    (hl : t.Leads p parts q n) (hn : n ≠ some .directory) : u.Leads p parts q (u.at? q) := by
  induction hl with
  | here p => exact absurd rfl hn
  | idle h_idle _ ih => exact .idle h_idle (ih hn)
  | up _ ih => exact .up (ih hn)
  | down h_name h_at _ ih => exact .down h_name (h.directory _ h_at) (ih hn)
  | stop h_name _ => exact leads_name h_name

theorem start_eq (h : t.Keeps u written) (path : String) : u.start path = t.start path := by
  rw [start, start, h.workingDir]

theorem leadsTo_directory (h : t.Keeps u written) {path : String} {q : Place}
    (hl : t.LeadsTo path q (some .directory)) : u.LeadsTo path q (some .directory) := by
  rw [LeadsTo, h.start_eq]
  exact h.leads_directory hl

theorem leadsTo_at (h : t.Keeps u written) {path : String} {q : Place} {n : Option FileNode}
    (hl : t.LeadsTo path q n) (hn : n ≠ some .directory) : u.LeadsTo path q (u.at? q) := by
  rw [LeadsTo, h.start_eq]
  exact h.leads_at hl hn

end Keeps

variable {t u : FileTree}

/-! ### Reading -/

/-- A file is read exactly if a path that the system takes leads to it. -/
theorem read_eq_ok_iff {path : String} {c : Bytes} :
    t.read path = .ok c ↔ IsTaken path ∧ ∃ q x, t.LeadsTo path q (some (.file c x)) := by
  constructor
  · intro h
    obtain ⟨⟨q, n⟩, h_resolve, h⟩ := exists_of_bind_eq_ok h
    obtain ⟨h_taken, h_leads⟩ := resolve_eq_ok_iff.mp h_resolve
    dsimp only at h
    split at h
    · cases h
    · cases h
    · next content x =>
      cases h
      exact ⟨h_taken, q, x, h_leads⟩
  · rintro ⟨h_taken, q, x, h_leads⟩
    rw [read, resolve_eq_ok_iff.mpr ⟨h_taken, h_leads⟩]
    rfl

/-- A file that is kept is read as before. -/
theorem Keeps.read {written : Place → Prop} (h : t.Keeps u written) {path : String} {q : Place}
    {c : Bytes} {x : Bool} (h_taken : IsTaken path) (hl : t.LeadsTo path q (some (.file c x)))
    (hq : ¬ written q) : u.read path = .ok c := by
  have h_file : t.at? q = some (.file c x) := Leads.at?_eq hl nofun
  have h_leads := h.leadsTo_at hl nofun
  rw [(h.file q hq c x).mpr h_file] at h_leads
  exact read_eq_ok_iff.mpr ⟨h_taken, q, x, h_leads⟩

/-! ### Putting something somewhere -/

/-- What is found at a place is what was put there last. -/
theorem lookup_put (p q : Place) (n : FileNode) (entries : List (Place × FileNode)) :
    (put p n entries).lookup q = if q = p then some n else entries.lookup q := by
  have h_first : ∀ (p' : Place) (m : FileNode) (rest : List (Place × FileNode)),
      ((p', m) :: rest).lookup q = if q = p' then some m else rest.lookup q := by
    intro p' m rest
    rw [List.lookup_cons]
    by_cases h : q = p'
    · rw [if_pos h, beq_iff_eq.mpr h]
    · rw [if_neg h, beq_eq_false_iff_ne.mpr h]
  induction entries with
  | nil => exact h_first p n []
  | cons entry rest ih =>
    obtain ⟨p', m⟩ := entry
    rw [put]
    -- An entry for the place is replaced where it stands, and no entry behind it is ever found.
    by_cases h : p' = p
    · rw [if_pos h, h_first, h, h_first]
      by_cases h' : q = p
      · rw [if_pos h', if_pos h']
      · rw [if_neg h', if_neg h', if_neg h']
    · rw [if_neg h, h_first, h_first, ih]
      by_cases h' : q = p'
      · have h_ne : ¬ q = p := fun h_eq => h (h'.symm.trans h_eq)
        rw [if_pos h', if_neg h_ne, if_pos h']
      · rw [if_neg h', if_neg h']

/-- The tree with something put at a place. -/
def withNode (t : FileTree) (p : Place) (n : FileNode) : FileTree :=
  { t with entries := put p n t.entries }

/-- What stands at a place where there was no directory is what was put there last. -/
theorem at?_withNode {p : Place} (h : t.at? p ≠ some .directory) (n : FileNode) (q : Place) :
    (t.withNode p n).at? q = if q = p then some n else t.at? q := by
  -- The places above the working directory are directories without being listed.
  have h_above : ¬ p.isPrefixOf t.workingDir = true := fun h_prefix => h (if_pos h_prefix)
  rw [at?, at?, withNode, lookup_put]
  by_cases hq : q = p
  · subst hq
    rw [if_neg h_above, if_pos rfl, if_pos rfl]
  · rw [if_neg hq, if_neg hq]

/-- To put a file where there was no directory leaves everything else as it is. -/
theorem keeps_withNode_file {p : Place} (h : t.at? p ≠ some .directory) (c : Bytes) (x : Bool) :
    t.Keeps (t.withNode p (.file c x)) (· = p) := by
  refine ⟨rfl, fun q hq => ?_, fun q hq c' x' => ?_⟩
  · have h_ne : q ≠ p := by
      rintro rfl
      exact h hq
    rw [at?_withNode h, if_neg h_ne, hq]
  · rw [at?_withNode h, if_neg hq]

/-- To put a directory where there was nothing leaves everything as it is. -/
theorem keeps_withNode_directory {p : Place} (h : t.at? p = none) :
    t.Keeps (t.withNode p .directory) (fun _ => False) := by
  have h_put := at?_withNode (n := .directory) (t := t) (p := p) (by rw [h]; nofun)
  refine ⟨rfl, fun q hq => ?_, fun q _ c x => ?_⟩
  · rw [h_put, hq, ite_self]
  · rw [h_put]
    by_cases hq : q = p
    · subst hq
      rw [if_pos rfl, h]
      exact iff_of_false nofun nofun
    · rw [if_neg hq]

/-! ### The operations -/

/-- A write puts the content where the path leads, and no directory is there. -/
theorem exists_withNode_of_write {path : String} {c : Bytes} (h : t.write path c = .ok u) :
    IsTaken path ∧ ∃ q n x, t.LeadsTo path q n ∧ n ≠ some .directory ∧
      u = t.withNode q (.file c x) := by
  obtain ⟨⟨q, n⟩, h_resolve, h⟩ := exists_of_bind_eq_ok h
  obtain ⟨h_taken, h_leads⟩ := resolve_eq_ok_iff.mp h_resolve
  dsimp only at h
  split at h
  · cases h
  · next content x =>
    cases h
    exact ⟨h_taken, q, _, x, h_leads, nofun, rfl⟩
  · cases h
    exact ⟨h_taken, q, _, false, h_leads, nofun, rfl⟩

/-- A write reaches one place, where the path leads, and the content stands there afterwards. -/
theorem write_ok {path : String} {c : Bytes} (h : t.write path c = .ok u) :
    IsTaken path ∧ ∃ q n x, t.LeadsTo path q n ∧ t.Keeps u (· = q) ∧
      u.LeadsTo path q (some (.file c x)) := by
  obtain ⟨h_taken, q, n, x, h_leads, hn, rfl⟩ := exists_withNode_of_write h
  have h_at : t.at? q ≠ some .directory := by
    rw [Leads.at?_eq h_leads hn]
    exact hn
  have h_keeps := keeps_withNode_file h_at c x
  have h_now := h_keeps.leadsTo_at h_leads hn
  rw [at?_withNode h_at, if_pos rfl] at h_now
  exact ⟨h_taken, q, n, x, h_leads, h_keeps, h_now⟩

/-- To write below a directory takes one that is there. -/
theorem exists_directory_of_write {dir name : String} (h_slash : '/' ∉ name.toList) {c : Bytes}
    (h : t.write (Path.join dir name) c = .ok u) : ∃ d, t.LeadsTo dir d (some .directory) := by
  obtain ⟨-, q, n, x, h_before, -, -⟩ := write_ok h
  obtain ⟨d, h_dir, -⟩ := (leadsTo_join_iff dir h_slash).mp h_before
  exact ⟨d, h_dir⟩

/-- A write below a directory changes nothing but the file of that name in it. -/
theorem write_join_ok {dir name : String} (h_name : IsName name) (h_slash : '/' ∉ name.toList)
    {c : Bytes} {d : Place} (h_dir : t.LeadsTo dir d (some .directory))
    (h : t.write (Path.join dir name) c = .ok u) :
    t.Keeps u (· = d ++ [name]) ∧ IsTaken (Path.join dir name) ∧
      ∃ x, u.LeadsTo (Path.join dir name) (d ++ [name]) (some (.file c x)) := by
  obtain ⟨h_taken, q, n, x, h_before, h_keeps, h_after⟩ := write_ok h
  obtain rfl : q = d ++ [name] := h_dir.eq_of_join h_name h_slash h_before
  exact ⟨h_keeps, h_taken, x, h_after⟩

theorem keeps_of_makeDir {path : String} (h : t.makeDir path = .ok u) :
    t.Keeps u (fun _ => False) := by
  obtain ⟨⟨q, n⟩, h_resolve, h⟩ := exists_of_bind_eq_ok h
  cases n with
  | some _ => cases h
  | none =>
    cases h
    exact keeps_withNode_directory (Leads.at?_eq (resolve_eq_ok_iff.mp h_resolve).2 nofun)

theorem keeps_of_ensureDir {path : String} (h : t.ensureDir path = .ok u) :
    t.Keeps u (fun _ => False) := by
  unfold ensureDir at h
  split at h
  · next h_make =>
    cases h
    exact keeps_of_makeDir h_make
  · split at h
    · cases h
      exact .refl t _
    · cases h

/-- Making directories changes no file. -/
theorem keeps_of_makeDirsWithin {fuel : Nat} {path : String}
    (h : makeDirsWithin fuel t path = .ok u) : t.Keeps u (fun _ => False) := by
  induction fuel generalizing path u with
  | zero => exact keeps_of_ensureDir h
  | succ fuel ih =>
    unfold makeDirsWithin at h
    split at h
    · cases h
      exact .refl t _
    split at h
    · next h_make =>
      cases h
      exact keeps_of_makeDir h_make
    · split at h
      · next parent _ =>
        -- First the directory above, then the one that is wanted.
        obtain ⟨v, h_above, h⟩ := exists_of_bind_eq_ok h
        exact (ih h_above).trans (keeps_of_ensureDir h)
      · cases h
    · split at h
      · cases h
        exact .refl t _
      · cases h

theorem keeps_of_makeDirs {path : String} (h : t.makeDirs path = .ok u) :
    t.Keeps u (fun _ => False) := keeps_of_makeDirsWithin h

end PolicyTrial.FileTree
