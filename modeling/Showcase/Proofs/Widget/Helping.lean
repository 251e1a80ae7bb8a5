import Mathlib.Data.Nat.Find
import Showcase.Proofs.Screen.Fitting
import Showcase.Widget.Help

/-!
# The line of key help

The short help shows as many of its entries as fit side by side, and tells that there are more of
them where there is room for that.
-/

namespace Showcase.Widget.Help

open Showcase.Text (Line Span)

/-- The columns of spans side by side. -/
def columns (spans : List Span) : Nat := (spans.map Span.width).sum

/-- Entries side by side, with separators between them. -/
def joined (help : Help) (entries : List Binding) : List Span :=
  [help.separatorSpan].intercalate (entries.map help.entrySpans)

/-- The most entries from the first one on that fit side by side. -/
def fitting (help : Help) (entries : List Binding) (width : Nat) : Nat :=
  Nat.findGreatest (fun count => columns (help.joined (entries.take count)) ≤ width) entries.length

/-- What tells that there are more entries than some. -/
def more (help : Help) (count : Nat) : List Span :=
  (if count = 0 then [] else [help.separatorSpan]) ++ [help.ellipsisSpan]

variable {help : Help} {between : List Span} {entries : List Binding} {entry : Binding}
  {width wider used count : Nat}

theorem columns_append (first second : List Span) :
    columns (first ++ second) = columns first + columns second := by
  rw [columns, List.map_append, List.sum_append]
  rfl

theorem width_ofSpans (spans : List Span) : (Line.ofSpans spans).width = columns spans :=
  Screen.width_eq_sum _

theorem columns_entrySpans (help : Help) (entry : Binding) :
    columns (help.entrySpans entry) = entryWidth entry := by
  have blank : Text.width " " = 1 := by decide
  simp only [columns, entrySpans, List.map_cons, List.map_nil, List.sum_cons, List.sum_nil,
    Span.width, Span.raw, blank, entryWidth]
  omega

theorem columns_ellipsisSpan (help : Help) :
    columns [help.ellipsisSpan] = Text.width help.ellipsis := Nat.add_zero _

/-! ## Entries one after the other -/

/-- Entries side by side, with separators between them, behind some spans. -/
def behind (help : Help) (between : List Span) : List Binding → List Span
  | [] => []
  | entry :: rest => between ++ help.entrySpans entry ++ help.behind [help.separatorSpan] rest

theorem joined_eq (help : Help) (entries : List Binding) :
    help.joined entries = help.behind [] entries := by
  cases entries with
  | nil => rfl
  | cons entry rest =>
      induction rest generalizing entry with
      | nil => simp [joined, behind]
      | cons next rest ih =>
          have later := ih next
          rw [joined, List.map_cons] at later
          rw [joined, List.map_cons, List.map_cons, List.intercalate_cons_cons, later]
          simp [behind]

/-- Further entries come behind those that are there. -/
theorem columns_behind_le (help : Help) (between : List Span) (first second : List Binding) :
    columns (help.behind between first) ≤ columns (help.behind between (first ++ second)) := by
  induction first generalizing between with
  | nil => exact Nat.zero_le _
  | cons entry rest ih =>
      have later := ih [help.separatorSpan]
      simp only [List.cons_append, behind, columns_append]
      omega

/-- More of the entries take no fewer columns. -/
theorem columns_joined_mono (help : Help) (entries : List Binding) {fewer most : Nat}
    (le : fewer ≤ most) : columns (help.joined (entries.take fewer)) ≤
      columns (help.joined (entries.take most)) := by
  obtain ⟨further, rfl⟩ := Nat.exists_eq_add_of_le le
  rw [joined_eq, joined_eq, List.take_add]
  exact columns_behind_le _ _ _ _

/-! ## As many as fit -/

/-- The entries that are shown behind what is there, and what follows them. -/
structure Shown (help : Help) (width used : Nat) (between : List Span) (entries : List Binding)
    (spans : List Span) (count : Nat) : Prop where
  le : count ≤ entries.length
  fits : used + columns (help.behind between (entries.take count)) ≤ width
  full : count < entries.length →
    width < used + columns (help.behind between (entries.take (count + 1)))
  spans_eq :
    let shown := help.behind between (entries.take count)
    let next := (if count = 0 then between else [help.separatorSpan]) ++ [help.ellipsisSpan]
    spans = shown ++
      if count < entries.length ∧ used + columns (shown ++ next) ≤ width then next else []

/-- One more entry in front is shown if it fits. -/
theorem Shown.cons {spans : List Span}
    (shown : Shown help width (used + columns between + entryWidth entry) [help.separatorSpan]
      entries spans count) :
    Shown help width used between (entry :: entries) (between ++ help.entrySpans entry ++ spans)
      (count + 1) where
  le := Nat.succ_le_succ shown.le
  fits := by
    have fits := shown.fits
    simp only [List.take_succ_cons, behind, columns_append, columns_entrySpans]
    omega
  full less := by
    have full := shown.full (Nat.lt_of_succ_lt_succ less)
    simp only [List.take_succ_cons, behind, columns_append, columns_entrySpans] at full ⊢
    omega
  spans_eq := by
    have spans_eq := shown.spans_eq
    simp only [ite_self, columns_append] at spans_eq
    simp only [List.take_succ_cons, behind, List.length_cons, columns_append, columns_entrySpans,
      Nat.add_lt_add_iff_right, Nat.succ_ne_zero, if_false, List.append_assoc, spans_eq]
    simp only [Nat.add_assoc]

/-- No entry is shown if the first one does not fit. -/
theorem shown_none (inside : used ≤ width)
    (wide : width < used + columns between + entryWidth entry) :
    Shown help width used between (entry :: entries)
      (if used + columns (between ++ [help.ellipsisSpan]) ≤ width then
        between ++ [help.ellipsisSpan] else []) 0 where
  le := Nat.zero_le _
  fits := inside
  full _ := by
    simp only [List.take_succ_cons, List.take_zero, behind, columns_append, columns_entrySpans]
    omega
  spans_eq := by simp [behind]

theorem exists_shown (inside : used ≤ width) (entries : List Binding) :
    ∃ count, Shown help width used between entries
      (help.shortSpans width used between entries) count := by
  induction entries generalizing used between with
  | nil => exact ⟨0, Nat.le_refl _, inside, fun less => absurd less (Nat.lt_irrefl _), rfl⟩
  | cons entry rest ih =>
      rw [shortSpans, width_ofSpans]
      by_cases fits : used + columns between + entryWidth entry ≤ width
      · rw [if_pos fits]
        obtain ⟨count, shown⟩ : ∃ count, Shown help width _ [help.separatorSpan] rest _ count :=
          ih fits
        exact ⟨count + 1, shown.cons⟩
      · rw [if_neg fits, Nat.add_assoc, ← columns_ellipsisSpan, ← columns_append]
        exact ⟨0, shown_none inside (Nat.lt_of_not_le fits)⟩

/-- What is shown are the most entries that fit. -/
theorem Shown.fitting_eq {spans : List Span} (shown : Shown help width 0 [] entries spans count) :
    help.fitting entries width = count := by
  have fits := shown.fits
  rw [Nat.zero_add, ← joined_eq] at fits
  refine Nat.findGreatest_eq_iff.mpr ⟨shown.le, fun _ => fits, fun larger less inside => ?_⟩
  have full := shown.full (Nat.lt_of_lt_of_le less inside)
  rw [Nat.zero_add, ← joined_eq] at full
  exact Nat.not_le_of_lt (Nat.lt_of_lt_of_le full (columns_joined_mono help entries less))

theorem fitting_mono (help : Help) (entries : List Binding) (le : width ≤ wider) :
    help.fitting entries width ≤ help.fitting entries wider :=
  Nat.findGreatest_mono (fun _ fits => Nat.le_trans fits le) (Nat.le_refl _)

/-- The line shows as many of the first six enabled entries as fit side by side, with separators
between them. If there are more of them, a separator and the ellipsis follow where there is room,
and nothing else. No line is wider than it may be, and a wider one shows no fewer entries. -/
theorem shortLine_longest (help : Help) (bindings : List Binding) (width : Nat) :
    let entries := (bindings.filter Binding.enabled).take 6
    let count := help.fitting entries width
    let shown := help.joined (entries.take count)
    let line := help.shortLine bindings width
    (line.spans.map Span.width).sum ≤ width ∧
    (count ≤ entries.length ∧ columns shown ≤ width ∧ ∀ larger ≤ entries.length, count < larger →
      width < columns (help.joined (entries.take larger))) ∧
    line = .ofSpans (shown ++
      if count < entries.length ∧ columns (shown ++ help.more count) ≤ width then help.more count
      else []) ∧
    ∀ wider ≥ width, count ≤ help.fitting entries wider := by
  intro entries count shown line
  obtain ⟨found, proper⟩ : ∃ found, Shown help width 0 [] entries _ found :=
    exists_shown (Nat.zero_le width) entries
  obtain rfl : count = found := proper.fitting_eq
  have fits := proper.fits
  have spans_eq := proper.spans_eq
  simp only [Nat.zero_add, ← joined_eq] at fits spans_eq
  have line_eq : line = .ofSpans (shown ++
      if count < entries.length ∧ columns (shown ++ help.more count) ≤ width then help.more count
      else []) := congrArg Line.ofSpans spans_eq
  refine ⟨?_, ⟨proper.le, fits, fun larger inside less => ?_⟩, line_eq, fun wider le =>
    fitting_mono help entries le⟩
  · rw [line_eq]
    show columns (shown ++ _) ≤ width
    split
    · rename_i room
      exact room.2
    · rwa [List.append_nil]
  · have many : count < larger := less
    exact Nat.lt_of_not_le (Nat.findGreatest_is_greatest (P := fun count =>
      columns (help.joined (entries.take count)) ≤ width) many inside)

/-- Two entries would take seventeen columns. -/
example : (({} : Help).shortLine [.ofKeys [.arrowUp, .char 'k'] "up",
    .ofKeys [.arrowDown, .char 'j'] "down", .ofKeys [.char 'q'] "quit"] 16).text = "↑/k up • …" := by
  decide +kernel

end Showcase.Widget.Help
