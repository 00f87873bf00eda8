import PolicyTrial.Proofs.Judgement.Streams

/-!
# Looking through two streams at once

The diagnostics of a run are its two streams with a new line in between, and fragments are looked
for in the whole. For fragments within one line this comes to the same as looking through each
stream by itself: no match is created where the streams meet, and none is lost there
(`joined_streams_report`).

The letters next to the new line are where this could go wrong, since the lower case form of a
capital sigma depends on what surrounds it. A new line ends a word on either side, so each stream
has in the whole the lower case form that it has alone (`lowercase_line`). The condition on
fragments cannot be dropped: every fragment with a new line is found across two streams that do not
hold it (`exists_found_across`).
-/

namespace PolicyTrial

namespace FragmentReport

/-- A report says of a fragment that it is there. -/
def Finds (r : FragmentReport) (fragment : String) : Prop := ⟨fragment, true⟩ ∈ r.checks

instance (r : FragmentReport) (fragment : String) : Decidable (r.Finds fragment) :=
  inferInstanceAs (Decidable (_ ∈ _))

/-- Two reports on the same fragments as one: a fragment is there if one of the two finds it. -/
def either (r r' : FragmentReport) : FragmentReport :=
  ⟨List.zipWith (fun c c' => ⟨c.fragment, c.present || c'.present⟩) r.checks r'.checks⟩

end FragmentReport

theorem finds_matchFragments_iff (text : String) (fragments : List String) (fragment : String) :
    (matchFragments text fragments).Finds fragment ↔
      fragment ∈ fragments ∧ Holds text fragment := by
  simp only [FragmentReport.Finds, matchFragments, List.mem_map, FragmentCheck.mk.injEq,
    holdsFragment_iff]
  refine ⟨?_, fun h => ⟨fragment, h.1, rfl, h.2⟩⟩
  rintro ⟨f, h_mem, rfl, h_holds⟩
  exact ⟨h_mem, h_holds⟩

/-- Fragments within lines are checked in both streams at once as they are checked in each. -/
theorem matchFragments_combined {fragments : List String}
    (h_lines : ∀ f ∈ fragments, '\n' ∉ f.toList) (stderr stdout : String) :
    matchFragments (combined stderr stdout) fragments =
      (matchFragments stderr fragments).either (matchFragments stdout fragments) := by
  have h_check : ∀ f ∈ fragments,
      holdsFragment (Text.lowercase (combined stderr stdout).toList) f =
        (holdsFragment (Text.lowercase stderr.toList) f ||
          holdsFragment (Text.lowercase stdout.toList) f) := by
    intro f hf
    rw [Bool.eq_iff_iff, Bool.or_eq_true, holdsFragment_iff, holdsFragment_iff, holdsFragment_iff]
    exact holds_combined_iff (h_lines f hf) stderr stdout
  calc matchFragments (combined stderr stdout) fragments
      = ⟨fragments.map fun f =>
          ⟨f, holdsFragment (Text.lowercase (combined stderr stdout).toList) f⟩⟩ := rfl
    _ = ⟨fragments.map fun f =>
          ⟨f, holdsFragment (Text.lowercase stderr.toList) f ||
            holdsFragment (Text.lowercase stdout.toList) f⟩⟩ :=
        congrArg FragmentReport.mk (List.map_congr_left fun f hf =>
          congrArg (FragmentCheck.mk f) (h_check f hf))
    _ = (matchFragments stderr fragments).either (matchFragments stdout fragments) := by
        -- the three reports go through the fragments in the same order
        rw [FragmentReport.either, matchFragments, matchFragments, List.zipWith_map,
          List.zipWith_self]

/-- A text is longer in lower case than what precedes a new line in it, and than what follows. -/
theorem not_holds_of_line {fragment line rest : String}
    (h_text : fragment = line ++ "\n" ++ rest) :
    ¬ Holds line fragment ∧ ¬ Holds rest fragment := by
  have h_length : (Text.lowercase fragment.toList).length =
      (Text.lowercase line.toList).length + ((Text.lowercase rest.toList).length + 1) := by
    rw [h_text, lowercase_line, List.length_append, List.length_cons]
  refine ⟨fun h => ?_, fun h => ?_⟩
  · have h_le := List.IsInfix.length_le h
    omega
  · have h_le := List.IsInfix.length_le h
    omega

/-- A fragment with a new line is found where two streams meet that do not hold it. -/
theorem exists_found_across {fragment : String} (h_newLine : '\n' ∈ fragment.toList) :
    ∃ stderr stdout, Holds (combined stderr stdout) fragment ∧
      ¬ Holds stderr fragment ∧ ¬ Holds stdout fragment := by
  obtain ⟨u, v, h_split⟩ := List.append_of_mem h_newLine
  -- the streams are what precedes the new line, and what follows it
  have h_text : fragment = String.ofList u ++ "\n" ++ String.ofList v := by
    rw [← String.toList_inj, h_split]
    simp only [String.toList_append, String.toList_ofList, List.append_assoc]
    rfl
  refine ⟨String.ofList u, String.ofList v, ?_, not_holds_of_line h_text⟩
  rw [combined, ← h_text]
  exact List.infix_rfl

/-- **Joining the streams creates no match and hides none.** Each of the two streams has in the
diagnostics the lower case form that it has alone. A fragment within one line is found in the
diagnostics exactly if it is found in one of the streams; so if all fragments are within lines, the
report on the diagnostics is what one of the two reports on the streams finds. Every other fragment
is found in some diagnostics neither of whose streams has it. -/
theorem joined_streams_report (stderr stdout : String) (fragments : List String) :
    Text.lowercase (combined stderr stdout).toList =
      Text.lowercase stderr.toList ++ '\n' :: Text.lowercase stdout.toList ∧
    (∀ f ∈ fragments, '\n' ∉ f.toList →
      ((matchFragments (combined stderr stdout) fragments).Finds f ↔
        (matchFragments stderr fragments).Finds f ∨ (matchFragments stdout fragments).Finds f)) ∧
    ((∀ f ∈ fragments, '\n' ∉ f.toList) →
      matchFragments (combined stderr stdout) fragments =
        (matchFragments stderr fragments).either (matchFragments stdout fragments)) ∧
    ∀ f : String, '\n' ∈ f.toList → ∃ stderr' stdout' : String,
      (matchFragments (combined stderr' stdout') [f]).Finds f ∧
        ¬ (matchFragments stderr' [f]).Finds f ∧ ¬ (matchFragments stdout' [f]).Finds f := by
  refine ⟨lowercase_line stderr stdout, fun f hf h_line => ?_,
    fun h_lines => matchFragments_combined h_lines stderr stdout, fun f h_newLine => ?_⟩
  · have h_holds := holds_combined_iff h_line stderr stdout
    simp only [finds_matchFragments_iff, hf, true_and, h_holds]
  · obtain ⟨stderr', stdout', h_found, h_stderr, h_stdout⟩ := exists_found_across h_newLine
    have h_mem : f ∈ [f] := List.mem_singleton_self f
    simp only [finds_matchFragments_iff, h_mem, true_and]
    exact ⟨stderr', stdout', h_found, h_stderr, h_stdout⟩

/-- The error stream ends with a capital sigma and the output starts with one. The first is a final
sigma in the diagnostics, too, and the two are not next to each other. -/
theorem joined_streams_report_sigma :
    let report := matchFragments (combined "ΛΑΘΟΣ" "ΣΕΙΡΑ 2") ["ος", "Σει", "ΣΣ"]
    report.Finds "ος" ∧ report.Finds "Σει" ∧ ¬ report.Finds "ΣΣ" := by
  intro report
  obtain ⟨-, h_found, -⟩ := joined_streams_report "ΛΑΘΟΣ" "ΣΕΙΡΑ 2" ["ος", "Σει", "ΣΣ"]
  have h_first := h_found "ος" (by decide) (by decide)
  have h_second := h_found "Σει" (by decide) (by decide)
  have h_third := h_found "ΣΣ" (by decide) (by decide)
  refine ⟨h_first.mpr (.inl ?_), h_second.mpr (.inr ?_), h_third.not.mpr ?_⟩
  · decide +kernel
  · decide +kernel
  · decide +kernel

end PolicyTrial
