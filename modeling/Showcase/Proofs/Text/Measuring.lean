import Mathlib.Tactic.SplitIfs
import Showcase.Proofs.Text.Scanning

/-!
# Columns that a text keeps

A ligature may take columns back that were counted for the text to its right. It takes no more than
what its `reserve` says was counted there, and so the columns of a halfwidth voicing mark, which is
in no ligature, are never taken back. Blanks around a text are in no ligature either.
-/

namespace Showcase.Text

/-- A halfwidth voicing mark of Japanese syllables. -/
def isVoicing (c : Char) : Bool := c.toNat == 0xFF9E || c.toNat == 0xFF9F

/-- The columns that were counted for a shape and that a ligature may take back. -/
def Shape.reserve : Shape → Int
  | khmerLetter | tifinaghJoined | joinedFlagHalf | joinedFlagOdd => 1
  | _ => 0

variable {c : Char} {next : Following}

/-- A ligature takes back no more than was counted. -/
theorem reserve_ligature {change : Int} {after : Following}
    (found : ligature c next = some (change, after)) :
    after.shape.reserve ≤ change + next.shape.reserve := by
  obtain ⟨shape, joiner, textSelector, pictureSelector⟩ := next
  cases shape with
  | plain | lineFeed | joinedKeycap => cases found
  | _ =>
      simp only [ligature] at found
      split_ifs at found
      all_goals
        cases found
        simp [Shape.reserve, Following.of]

/-- Khmer letters have a column of their own. -/
theorem printableColumns_khmer (letter : isKhmerLetter c = true) : printableColumns c = 1 := by
  have table : ∀ offset < 48, isKhmerLetter (Char.ofNat (0x1780 + offset)) = true →
      printableColumns (Char.ofNat (0x1780 + offset)) = 1 := by decide +kernel
  have bounds : 0x1780 ≤ c.toNat ∧ c.toNat < 0x1780 + 48 := by
    simp only [isKhmerLetter, Bool.or_eq_true, Bool.and_eq_true, decide_eq_true_eq,
      beq_iff_eq] at letter
    omega
  have back : Char.ofNat (0x1780 + (c.toNat - 0x1780)) = c := by
    rw [Nat.add_sub_cancel' bounds.1, Char.ofNat_toNat]
  have found := table (c.toNat - 0x1780) (by omega)
  rw [back] at found
  exact found letter

theorem reserve_le_one (shape : Shape) : shape.reserve ≤ 1 := by
  cases shape <;> simp [Shape.reserve]

theorem reserve_shapeOf (other : isKhmerLetter c = false) : (shapeOf c).shape.reserve = 0 := by
  have outer {condition : Prop} [Decidable condition] {first second : Following}
      (left : first.shape.reserve = 0) (right : second.shape.reserve = 0) :
      (if condition then first else second).shape.reserve = 0 := by
    split <;> assumption
  have inner {condition : Prop} [Decidable condition] {first second : Shape}
      (left : condition → first.reserve = 0) (right : second.reserve = 0) :
      (if condition then first else second).reserve = 0 := by
    split
    · exact left ‹_›
    · exact right
  refine outer rfl (outer rfl (outer rfl (inner (fun _ => rfl) (inner (fun _ => rfl)
    (inner (fun _ => rfl) (inner (fun letter => nomatch other.symm.trans letter) ?_))))))
  repeat' first | exact rfl | refine inner (fun _ => rfl) ?_

/-- A character that forms no ligature counts what a ligature may take back of it. -/
theorem reserve_alone (c : Char) : (alone c).2.shape.reserve ≤ (alone c).1 := by
  simp only [alone]
  cases letter : isKhmerLetter c with
  | true =>
      rw [printableColumns_khmer letter]
      exact reserve_le_one _
  | false =>
      rw [reserve_shapeOf letter]
      exact Int.natCast_nonneg _

theorem reserve_nonneg (shape : Shape) : 0 ≤ shape.reserve := by
  cases shape <;> simp [Shape.reserve]

/-- What is kept holds no more in reserve. -/
theorem reserve_keeps {shape : Shape} (keeps : next.Keeps shape) :
    shape.reserve ≤ next.shape.reserve := by
  rcases keeps with rfl | rfl
  · exact Int.le_refl _
  · exact reserve_nonneg _

/-! ## One step of the scan -/

/-- What a step counts, with what was held in reserve, covers the reserve after it. -/
def Covers (next : Following) (step : Int × Following) : Prop :=
  step.2.shape.reserve ≤ step.1 + next.shape.reserve

/-- A step that leaves nothing in reserve. -/
theorem covers_plain {count : Int} {after : Following} (nonneg : 0 ≤ count)
    (none : after.shape.reserve = 0) : Covers next (count, after) := by
  have held := reserve_nonneg next.shape
  show after.shape.reserve ≤ count + next.shape.reserve
  omega

theorem covers_alone (c : Char) (next : Following) : Covers next (alone c) := by
  have bound := reserve_alone c
  have held := reserve_nonneg next.shape
  unfold Covers
  omega

theorem Reads.covers {step : Int × Following} (reads : Reads c next step) : Covers next step := by
  cases reads with
  | picture selected starts count_eq => exact covers_plain (by omega) rfl
  | low low count_eq after_eq =>
      refine covers_plain (by omega) ?_
      rcases after_eq with rfl | rfl <;> rfl
  | alone high => exact covers_alone c next
  | @passes after keeps picture quote =>
      have held := reserve_keeps keeps
      show after.shape.reserve ≤ 0 + next.shape.reserve
      omega
  | textVariant starts => exact covers_plain (by decide) rfl
  | joins high keeps found =>
      have taken := reserve_ligature found
      have held := reserve_keeps keeps
      unfold Covers
      omega

/-! ## Voicing marks -/

theorem eq_of_isVoicing (voicing : isVoicing c = true) : c = '\uFF9E' ∨ c = '\uFF9F' := by
  simp only [isVoicing, Bool.or_eq_true, beq_iff_eq] at voicing
  exact voicing.imp (fun same => Char.toNat_inj.mp same) fun same => Char.toNat_inj.mp same

theorem voicing_tables (voicing : isVoicing c = true) : startsPicture c = false ∧
    startsTextVariant c = false ∧ isArabicLam c = false ∧ isTransparentMark c = false ∧
      isTagDigit c = false ∧ isTifinaghConsonant c = false ∧ alone c = (1, {}) := by
  rcases eq_of_isVoicing voicing with rfl | rfl <;> decide +kernel

/-- A voicing mark is in no ligature. -/
theorem ligature_voicing (voicing : isVoicing c = true) (next : Following) :
    ligature c next = none := by
  obtain ⟨-, -, lam, transparent, digit, tifinagh, -⟩ := voicing_tables voicing
  obtain ⟨shape, joiner, textSelector, pictureSelector⟩ := next
  cases shape with
  | arabicAlef => simp [ligature, lam, transparent]
  | joinedTagDigits count =>
      rcases eq_of_isVoicing voicing with rfl | rfl <;> simp [ligature, digit]
  | tifinaghConsonant =>
      rcases eq_of_isVoicing voicing with rfl | rfl <;> simp [ligature, tifinagh]
  | _ => rcases eq_of_isVoicing voicing with rfl | rfl <;> simp [ligature] <;> rfl

/-- A voicing mark has a column of its own. -/
theorem widen_voicing (voicing : isVoicing c = true) (next : Following) :
    widen c next = (1, {}) := by
  obtain ⟨picture, textVariant, -, -, -, -, alone_eq⟩ := voicing_tables voicing
  have code : c.toNat = 0xFF9E ∨ c.toNat = 0xFF9F := by
    simpa [isVoicing] using voicing
  have high : ¬ c.toNat ≤ 0xA0 := by omega
  have noPicture : (c.toNat == 0xFE0F) = false := by simp; omega
  have noText : (c.toNat == 0xFE0E) = false := by simp; omega
  have noJoiner : (c.toNat == 0x200D) = false := by simp; omega
  have visible : isInvisibleMark c = false := by
    simp [isInvisibleMark]
    omega
  simp [widen, picture, high, noPicture, noText, textVariant, noJoiner, visible,
    ligature_voicing voicing, alone_eq]

/-- A text has the columns of its voicing marks, and what it holds in reserve beside them. -/
theorem marks_scan (text : List Char) :
    (text.countP isVoicing : Int) + (scan text).2.shape.reserve ≤ (scan text).1 := by
  induction text with
  | nil => decide
  | cons c rest ih =>
      rw [List.countP_cons]
      show _ + (widen c (scan rest).2).2.shape.reserve ≤
        (scan rest).1 + (widen c (scan rest).2).1
      cases voicing : isVoicing c with
      | true =>
          have held := reserve_nonneg (scan rest).2.shape
          have none : (Shape.plain).reserve = 0 := rfl
          rw [widen_voicing voicing]
          simp only [if_true, none]
          push_cast
          omega
      | false =>
          have covers : (widen c (scan rest).2).2.shape.reserve ≤
            (widen c (scan rest).2).1 + (scan rest).2.shape.reserve := (reads_widen c _).covers
          simp only [Bool.false_eq_true, if_false]
          push_cast
          omega

/-- Every voicing mark has a column. -/
theorem marks_le_measure (text : List Char) : text.countP isVoicing ≤ measure text := by
  have bound := marks_scan text
  have held := reserve_nonneg (scan text).2.shape
  rw [measure]
  omega

/-! ## Text between blanks -/

theorem widen_blank (next : Following) : widen ' ' next = (1, {}) := by
  have plain : startsPicture ' ' = false := by decide +kernel
  simp [widen, plain]

theorem scan_blanks (count : Nat) : scan (List.replicate count ' ') = ((count : Int), {}) := by
  induction count with
  | zero => rfl
  | succ count ih => simp [List.replicate_succ, scan, ih, widen_blank]

theorem scan_blanks_append (count : Nat) (text : List Char) :
    (scan (List.replicate count ' ' ++ text)).1 = count + (scan text).1 := by
  induction count with
  | zero => simp
  | succ count ih =>
      simp only [List.replicate_succ, List.cons_append, scan, widen_blank, ih]
      omega

/-- Text that leaves nothing to the text before it is measured apart from it. -/
theorem scan_append {text rest : List Char} (plain : (scan rest).2 = {}) :
    scan (text ++ rest) = ((scan text).1 + (scan rest).1, (scan text).2) := by
  induction text with
  | nil => simp [scan, ← plain]
  | cons c text ih =>
      simp only [List.cons_append, scan, ih]
      rw [Int.add_right_comm]

theorem scan_nonneg (text : List Char) : 0 ≤ (scan text).1 := by
  have bound := marks_scan text
  have held := reserve_nonneg (scan text).2.shape
  omega

/-- Blanks around a text are measured one by one. -/
theorem measure_between (before after : Nat) (text : List Char) :
    measure (List.replicate before ' ' ++ text ++ List.replicate after ' ') =
      before + measure text + after := by
  have behind : scan (text ++ List.replicate after ' ') = ((scan text).1 + after, (scan text).2) := by
    rw [scan_append (by rw [scan_blanks]), scan_blanks]
  have nonneg := scan_nonneg text
  rw [measure, measure, List.append_assoc, scan_blanks_append, behind]
  dsimp only
  omega

end Showcase.Text
