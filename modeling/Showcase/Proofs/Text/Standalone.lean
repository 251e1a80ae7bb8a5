import Showcase.Proofs.Text.Wrapping
import Showcase.Text.Cluster

/-!
# Characters on their own

Most characters are clusters of their own, so that a text made of them is cut between all of its
characters.
-/

namespace Showcase.Text

/-- A character that starts a cluster and ends it, with a column or two. -/
structure Standalone (c : Char) : Prop where
  kind : clusterClass c = .other
  printable : isControl c = false
  columns_eq : columns c = 1 ∨ columns c = 2

variable {c next : Char} {text : List Char}

instance (c : Char) : Decidable (Standalone c) :=
  decidable_of_iff (clusterClass c = .other ∧ isControl c = false ∧ (columns c = 1 ∨ columns c = 2))
    ⟨fun ⟨kind, printable, columns_eq⟩ => ⟨kind, printable, columns_eq⟩,
      fun ⟨kind, printable, columns_eq⟩ => ⟨kind, printable, columns_eq⟩⟩

theorem printable_of_ascii (low : 0x20 ≤ c.toNat) (high : c.toNat < 0x7F) :
    isControl c = false := by
  simp only [isControl, Bool.or_eq_false_iff, Bool.and_eq_false_iff, decide_eq_false_iff_not]
  omega

theorem columns_of_ascii (low : 0x20 ≤ c.toNat) (high : c.toNat < 0x7F) : columns c = 1 := by
  have narrow : c.toNat < 0xA0 := by omega
  simp [columns, printable_of_ascii low high, printableColumns, narrow]

theorem standalone_of_ascii (low : 0x20 ≤ c.toNat) (high : c.toNat < 0x7F) : Standalone c := by
  refine ⟨?_, printable_of_ascii low high, .inl (columns_of_ascii low high)⟩
  have notReturn : (c.toNat == 0x0D) = false := by simp only [beq_eq_false_iff_ne]; omega
  have notFeed : (c.toNat == 0x0A) = false := by simp only [beq_eq_false_iff_ne]; omega
  simp [clusterClass, notReturn, notFeed, low, high]

theorem not_continues (kind : clusterClass next = .other) :
    continues (.start c .other) next (clusterClass next) = false := by
  rw [kind]
  cases consonant : isConjunctConsonant c <;> cases picture : isPictographic c <;>
    simp [continues, ClusterEnd.start, consonant, picture]

theorem clustersFrom_standalone (each : ∀ c ∈ text, Standalone c) :
    clustersFrom (.start c .other) [c] text = [c] :: text.map fun c => [c] := by
  induction text generalizing c with
  | nil => rfl
  | cons next rest ih =>
      have kind := (each next List.mem_cons_self).kind
      unfold clustersFrom
      simp only [not_continues kind, Bool.false_eq_true, if_false]
      rw [kind, ih fun other member => each other (List.mem_cons_of_mem _ member)]
      rfl

/-- A text of standalone characters is cut between all of them. -/
theorem clusters_standalone (each : ∀ c ∈ text, Standalone c) :
    clusters text = text.map fun c => [c] := by
  cases text with
  | nil => rfl
  | cons c rest =>
      rw [clusters, (each c List.mem_cons_self).kind,
        clustersFrom_standalone fun other member => each other (List.mem_cons_of_mem _ member)]
      rfl

end Showcase.Text
