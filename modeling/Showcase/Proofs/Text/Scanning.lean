import Showcase.Text.Measure

/-!
# Steps of the scan

What one step of the scan can be: a picture that a selector asked for, a character of ASCII, a
character on its own, a selector or a mark that adds nothing, or a ligature.
-/

namespace Showcase.Text

variable {c : Char} {next : Following}

/-- A shape that is kept from what was known, or forgotten. -/
def Following.Keeps (next : Following) (shape : Shape) : Prop :=
  shape = next.shape ∨ shape = .plain

theorem keeps_dropPicture (next : Following) : next.Keeps next.dropPicture.shape := by
  rw [Following.dropPicture]
  split
  · exact .inl rfl
  · exact .inr rfl

theorem keeps_dropText (next : Following) : next.Keeps next.dropText.shape := by
  rw [Following.dropText]
  split
  · exact .inl rfl
  · exact .inr rfl

theorem keeps_selectPicture (next : Following) : next.Keeps next.selectPicture.shape := by
  rw [Following.selectPicture]
  split
  · exact .inl rfl
  · split <;> first | exact .inl rfl | exact .inr rfl

theorem Following.Keeps.trans {kept : Following} {shape : Shape} (keeps : next.Keeps kept.shape)
    (further : kept.Keeps shape) : next.Keeps shape := by
  rcases further with rfl | plain
  · exact keeps
  · exact .inr plain

theorem keepsSelectors_of_keepsJoiners {shape : Shape} (keeps : shape.keepsJoiners = true) :
    shape.keepsSelectors = true := by
  cases shape <;> first | exact keeps | rfl

/-- What reading a character can come to: the columns that it adds, and what is known then. -/
inductive Reads (c : Char) (next : Following) : Int × Following → Prop where
  | picture {count : Int} (selected : next.pictureSelector = true)
      (starts : startsPicture c = true) (count_eq : count = 0 ∨ count = 2) :
      Reads c next (count, .of .picture)
  | low {count : Int} {after : Following} (low : c.toNat ≤ 0xA0) (count_eq : count = 0 ∨ count = 1)
      (after_eq : after = {} ∨ after = .of .lineFeed) : Reads c next (count, after)
  | alone (high : 0xA0 < c.toNat) : Reads c next (alone c)
  | passes {after : Following} (keeps : next.Keeps after.shape)
      (picture : after.pictureSelector = true → c = '\uFE0F')
      (quote : after.shape ≠ .rightQuoteSelector) : Reads c next (0, after)
  | textVariant (starts : startsTextVariant c = true) : Reads c next (1, {})
  | joins {kept : Following} {step : Int × Following} (high : 0xA0 < c.toNat)
      (keeps : next.Keeps kept.shape) (found : ligature c kept = some step) : Reads c next step

theorem reads_ite {condition : Prop} [Decidable condition] {first second : Int × Following}
    (left : condition → Reads c next first) (right : ¬ condition → Reads c next second) :
    Reads c next (if condition then first else second) := by
  split
  · exact left ‹_›
  · exact right ‹_›

/-- A letter whose ligature goes on behind a mark. -/
theorem reads_kept (kept : Following) (keeps : next.Keeps kept.shape)
    (unselected : kept.pictureSelector = false) (letter : kept.shape.keepsSelectors = true) :
    Reads c next (0, kept) := by
  refine .passes keeps (fun selected => nomatch unselected.symm.trans selected) fun same => ?_
  rw [same] at letter
  cases letter

theorem shape_selectPicture (next : Following) :
    next.selectPicture.shape ≠ .rightQuoteSelector := by
  obtain ⟨shape, joiner, textSelector, pictureSelector⟩ := next
  cases shape <;> simp [Following.selectPicture, Shape.keepsSelectors]

theorem reads_selectText {kept : Following} (keeps : next.Keeps kept.shape)
    (unselected : kept.pictureSelector = false) : Reads c next (0, kept.selectText) := by
  rw [Following.selectText]
  split
  · rename_i letter
    exact reads_kept { kept with textSelector := true } keeps unselected letter
  · exact .passes (.inr rfl) nofun (by decide)

theorem reads_widen (c : Char) (next : Following) : Reads c next (widen c next) := by
  unfold widen
  refine reads_ite (fun selected => ?_) fun _ => ?_
  · obtain ⟨selected, starts⟩ := Bool.and_eq_true_iff.mp selected
    exact .picture selected starts (by split <;> simp)
  have kept : next.Keeps (if next.pictureSelector then next.dropPicture else next).shape ∧
      (if next.pictureSelector then next.dropPicture else next).pictureSelector = false := by
    split
    · refine ⟨keeps_dropPicture next, ?_⟩
      rw [Following.dropPicture]
      split <;> rfl
    · exact ⟨.inl rfl, Bool.eq_false_iff.mpr ‹_›⟩
  generalize (if next.pictureSelector then next.dropPicture else next) = kept at kept
  obtain ⟨keeps, unselected⟩ := kept
  refine reads_ite (fun low => ?_) fun high => ?_
  · refine reads_ite (fun _ => .low low (.inr rfl) (.inr rfl)) fun _ => ?_
    exact reads_ite (fun _ => .low low (.inl rfl) (.inl rfl))
      fun _ => .low low (.inr rfl) (.inl rfl)
  have high : 0xA0 < c.toNat := Nat.lt_of_not_le high
  refine reads_ite (fun _ => .alone high) fun _ => ?_
  refine reads_ite (fun same => ?_) fun _ => ?_
  · exact .passes (keeps.trans (keeps_selectPicture kept))
      (fun _ => Char.toNat_inj.mp (beq_iff_eq.mp same)) (shape_selectPicture kept)
  refine reads_ite (fun _ => reads_selectText keeps unselected) fun _ => ?_
  refine reads_ite (fun narrow => .textVariant (Bool.and_eq_true_iff.mp narrow).2) fun _ => ?_
  have dropped : next.Keeps (if kept.textSelector then kept.dropText else kept).shape ∧
      (if kept.textSelector then kept.dropText else kept).pictureSelector = false := by
    split
    · refine ⟨keeps.trans (keeps_dropText kept), ?_⟩
      rw [Following.dropText]
      split
      · exact unselected
      · rfl
    · exact ⟨keeps, unselected⟩
  generalize (if kept.textSelector then kept.dropText else kept) = kept at dropped
  obtain ⟨keeps, unselected⟩ := dropped
  refine reads_ite (fun joiner => ?_) fun _ => reads_ite (fun mark => ?_) fun _ => ?_
  · have letter := keepsSelectors_of_keepsJoiners (Bool.and_eq_true_iff.mp joiner).1
    exact reads_kept { kept with joiner := true } keeps unselected letter
  · have letter := keepsSelectors_of_keepsJoiners (Bool.and_eq_true_iff.mp mark).1
    exact reads_kept kept keeps unselected letter
  · cases found : ligature c kept with
    | none => exact .alone high
    | some step => exact .joins high keeps found

end Showcase.Text
