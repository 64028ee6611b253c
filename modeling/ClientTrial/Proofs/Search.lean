import ClientTrial.Proofs.Artifact
import ClientTrial.Proofs.Text.Utf8

/-!
# Markers looked for among octets

An artifact is checked by reading it as a text and looking for the markers in that text.
That comes to looking for the octets of the markers among those of the artifact, whatever
else stands there: octets that are not text neither hide a marker nor feign one.  The
markers must not contain the replacement character, which ill-formed octets read as.

## Main definitions

* `Artifact.Holds` — the octets of an artifact on a bench.

## Main results

* `Text.contains_ofOctets_iff` — a marker stands in a text iff its octets stand in the octets.
* `Artifact.verifyAll_by_octets` — what the check of some markers comes to.
-/

namespace ClientTrial

open Act
open Text (Octets)

/-- The markers that are missing from a text. -/
theorem missingFrom_eq_filter (content : String) (markers : List String) :
    missingFrom content markers = markers.filter fun m => decide (¬m.toList <:+: content.toList) := by
  refine List.filter_congr fun m _ => ?_
  rw [Bool.eq_iff_iff, Bool.not_eq_true', Bool.eq_false_iff, ne_eq, Text.contains_iff,
    decide_eq_true_iff]

namespace Text

/-- A marker stands in what some octets read as iff its own octets stand in them. -/
theorem contains_ofOctets_iff {marker : String} (hplain : Utf8.replacement ∉ marker.toList)
    (octets : Octets) :
    contains (ofOctets octets) marker = true ↔ toOctets marker <:+: octets := by
  rw [contains_iff, ofOctets, String.toList_ofList]
  exact Utf8.infix_decode_iff hplain octets

/-- The markers that are missing from what some octets read as are those whose octets do not stand
in them. -/
theorem missingFrom_ofOctets {markers : List String}
    (hplain : ∀ m ∈ markers, Utf8.replacement ∉ m.toList) (octets : Octets) :
    missingFrom (ofOctets octets) markers =
      markers.filter fun m => decide (¬toOctets m <:+: octets) := by
  refine List.filter_congr fun m hm => ?_
  have hiff := contains_ofOctets_iff (hplain m hm) octets
  by_cases hstands : toOctets m <:+: octets
  · simp [hstands, hiff.2 hstands]
  · have hlacks : contains (ofOctets octets) m = false :=
      Bool.eq_false_iff.2 fun hcontains => hstands (hiff.1 hcontains)
    simp [hstands, hlacks]

end Text

namespace Artifact

variable (a : Artifact)

/-- The octets of an artifact on a bench.  A file that does not exist has none. -/
def Holds (octets : Octets) (b : Bench) : Prop :=
  b.files.read a.route = .ok octets ∨
    octets = [] ∧ ∃ f, b.files.read a.route = .error f ∧ f.kind = .os .fileNotFound

variable {a} {octets : Octets} {b : Bench}

theorem Holds.textOn (h : a.Holds octets b) : a.textOn b = .ok (Text.ofOctets octets) := by
  unfold Artifact.textOn Files.readOrEmpty
  rcases h with h | ⟨rfl, f, h, hkind⟩
  · rw [h]
    rfl
  · rw [h]
    dsimp only
    rw [if_pos hkind]
    rfl

/-- One marker is found iff it stands in the text. -/
theorem assertContains_answers_iff {s : String} (hs : a.textOn b = .ok s) (marker : String) :
    (a.assertContains marker).Answers b ↔ Text.contains s marker = true := by
  unfold assertContains Answers
  rw [exec_bind_of_ok (a.exec_read_of_ok hs)]
  by_cases hm : Text.contains s marker = true
  · rw [if_pos hm]
    exact iff_of_true ⟨(), rfl⟩ hm
  · rw [if_neg hm]
    refine iff_of_false ?_ hm
    rintro ⟨_, h⟩
    cases h

/-- What is raised if markers are missing names them and shows the text. -/
theorem exec_verifyAll_of_missing {s : String} (hs : a.textOn b = .ok s) {markers : List String}
    (hmissing : missingFrom s markers ≠ []) :
    ((a.verifyAll markers).exec b).1 =
      .error (.trial (.missingContent (missingFrom s markers) s a.path) none) := by
  unfold verifyAll
  rw [exec_bind_of_ok (a.exec_read_of_ok hs)]
  cases hm : missingFrom s markers with
  | nil => exact absurd hm hmissing
  | cons m rest =>
    dsimp only
    rw [exec_bind_of_ok (exec_sayAll _ b)]
    rfl

/-- **Markers looked for among octets.**  Let an artifact hold any octets, and let no marker contain
the replacement character.  The check of the markers passes iff the octets of each marker stand in
those of the artifact; otherwise it is ended by an error that names exactly the markers for which
they do not, in their order and as often as they were given, and that shows the whole text.  It
passes iff the check of each single marker does, and a marker that is found is found again after
anything has been added at the end. -/
theorem verifyAll_by_octets {markers : List String} (hholds : a.Holds octets b)
    (hplain : ∀ m ∈ markers, Text.Utf8.replacement ∉ m.toList) :
    (((a.verifyAll markers).exec b).1 = .ok () ↔ ∀ m ∈ markers, Text.toOctets m <:+: octets) ∧
    ((∃ m ∈ markers, ¬Text.toOctets m <:+: octets) →
      ((a.verifyAll markers).exec b).1 =
        .error (.trial
          (.missingContent (markers.filter fun m => decide (¬Text.toOctets m <:+: octets))
            (Text.ofOctets octets) a.path) none)) ∧
    ((a.verifyAll markers).Answers b ↔ ∀ m ∈ markers, (a.assertContains m).Answers b) ∧
    ∀ more c, a.Holds (octets ++ more) c → ∀ m ∈ markers,
      (a.assertContains m).Answers b → (a.assertContains m).Answers c := by
  have hs := hholds.textOn
  have hfound : ∀ m ∈ markers, (a.assertContains m).Answers b ↔ Text.toOctets m <:+: octets :=
    fun m hm => (assertContains_answers_iff hs m).trans
      (Text.contains_ofOctets_iff (hplain m hm) octets)
  have hall : (a.verifyAll markers).Answers b ↔ ∀ m ∈ markers, Text.toOctets m <:+: octets := by
    rw [a.verifyAll_answers_iff markers b, hs]
    simp only [Except.ok.injEq, exists_eq_left']
    refine forall₂_congr fun m hm => ?_
    rw [← Text.contains_iff]
    exact Text.contains_ofOctets_iff (hplain m hm) octets
  refine ⟨?_, ?_, ?_, ?_⟩
  · rw [← hall]
    constructor
    · intro h
      exact ⟨(), h⟩
    · rintro ⟨_, h⟩
      exact h
  · rintro ⟨m, hm, hlacks⟩
    rw [← Text.missingFrom_ofOctets hplain]
    refine exec_verifyAll_of_missing hs fun hnil => hlacks ?_
    have hcontains := missingFrom_eq_nil_iff.1 hnil m hm
    exact (Text.contains_ofOctets_iff (hplain m hm) octets).1 hcontains
  · rw [hall]
    exact forall₂_congr fun m hm => (hfound m hm).symm
  · intro more c hlater m hm hanswers
    have hstands : Text.toOctets m <:+: octets := (hfound m hm).1 hanswers
    rw [assertContains_answers_iff hlater.textOn, Text.contains_ofOctets_iff (hplain m hm)]
    exact hstands.trans (List.prefix_append octets more).isInfix

/-- Between octets that are cut off and others that continue nothing, a marker is found; the one
that is not there is named as often as it was asked for. -/
theorem verifyAll_among_broken_octets :
    let a : Artifact := .ofRoute (.ofText "recvd")
    let octets : Octets := [0xe2, 0x82] ++ Text.toOctets "Hé" ++ [0x80, 0xc3]
    let b : Bench := { Bench.quiet with desk := ⟨⟨[(["recvd"], .file octets)]⟩, []⟩ }
    a.Holds octets b ∧ (a.assertContains "Hé").Answers b ∧
      ((a.verifyAll ["Yo", "Hé", "Yo"]).exec b).1 =
        .error (.trial (.missingContent ["Yo", "Yo"] "\ufffdHé\ufffd\ufffd" "recvd") none) := by
  intro a octets b
  have hholds : a.Holds octets b := .inl rfl
  have hplain : ∀ m ∈ ["Yo", "Hé", "Yo"], Text.Utf8.replacement ∉ m.toList := by decide
  obtain ⟨-, hmissing, -, -⟩ := verifyAll_by_octets hholds hplain
  have hone : ∀ m ∈ ["Hé"], Text.Utf8.replacement ∉ m.toList := by decide
  obtain ⟨hpasses, -, heach, -⟩ := verifyAll_by_octets hholds hone
  have hstands : ∀ m ∈ ["Hé"], Text.toOctets m <:+: octets := by decide +kernel
  refine ⟨hholds, heach.1 ⟨(), hpasses.2 hstands⟩ "Hé" (by simp), ?_⟩
  rw [hmissing ⟨"Yo", by simp, by decide +kernel⟩]
  have hfilter : (["Yo", "Hé", "Yo"].filter fun m => decide (¬Text.toOctets m <:+: octets)) =
      ["Yo", "Yo"] := by decide +kernel
  have htext : Text.ofOctets octets = "\ufffdHé\ufffd\ufffd" := by decide +kernel
  rw [hfilter, htext]
  rfl

end Artifact
end ClientTrial
