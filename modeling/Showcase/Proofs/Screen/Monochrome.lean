import Showcase.Proofs.Screen.Likeness
import Showcase.Proofs.Screen.Sequences

/-!
# Terminal texts without colours

What is drawn in styles without colours has cells without colours, and the terminal text of such
cells sets none: each sequence in it consists of one digit, whereas a colour takes more.
-/

namespace Showcase.Text

/-- The first style and the first looks have no colours. -/
def Likeness.uncoloured : Likeness where
  styles first _ := first.foreground = none ∧ first.background = none
  looks first _ := first.foreground = .reset ∧ first.background = .reset
  plain_styles := ⟨rfl, rfl⟩
  plain_looks := ⟨rfl, rfl⟩
  patch base upper := by simp [Style.patch, base, upper]
  apply look style := by simp [Screen.Look.apply, look, style]

end Showcase.Text

namespace Showcase.Screen

open Showcase.Text (Color Likeness)

/-- Texts of letters and of sequences of one digit. -/
inductive Monochrome : List Char → Prop where
  | nil : Monochrome []
  | letter {c : Char} {text : List Char} (plain : c ≠ '\x1b') (rest : Monochrome text) :
      Monochrome (c :: text)
  | sets {digit : Char} {text : List Char} (isDigit : digit.isDigit = true)
      (rest : Monochrome text) : Monochrome ('\x1b' :: '[' :: digit :: 'm' :: text)

/-- A cell without colours, which can be drawn. -/
structure Cell.Monochrome (cell : Cell) : Prop where
  foreground_eq : cell.look.foreground = .reset
  background_eq : cell.look.background = .reset
  printable : cell.symbol.toList.any Text.isControl = false

variable {text first second : List Char} {cells : List Cell} {buffer other : Buffer}

/-! ## Texts -/

namespace Monochrome

theorem append (begun : Monochrome first) (rest : Monochrome second) :
    Monochrome (first ++ second) := by
  induction begun with
  | nil => exact rest
  | letter plain _ ih => exact .letter plain ih
  | sets isDigit _ ih => exact .sets isDigit ih

theorem join {texts : List String} (each : ∀ text ∈ texts, Monochrome text.toList) :
    Monochrome (String.join texts).toList := by
  rw [String.toList_join]
  induction texts with
  | nil => exact .nil
  | cons text rest ih =>
      exact (each text List.mem_cons_self).append
        (ih fun other member => each other (List.mem_cons_of_mem _ member))

theorem intercalate {between : String} (plain : Monochrome between.toList) {texts : List String}
    (each : ∀ text ∈ texts, Monochrome text.toList) :
    Monochrome (between.intercalate texts).toList := by
  induction texts with
  | nil => exact .nil
  | cons text rest ih =>
      have later := ih fun other member => each other (List.mem_cons_of_mem _ member)
      have here := each text List.mem_cons_self
      cases rest with
      | nil => rwa [String.intercalate_singleton]
      | cons next rest =>
          rw [String.intercalate_cons_cons, String.toList_append, String.toList_append]
          exact (here.append plain).append later

theorem of_printable (printable : text.any Text.isControl = false) : Monochrome text := by
  induction text with
  | nil => exact .nil
  | cons c rest ih =>
      simp only [List.any_cons, Bool.or_eq_false_iff] at printable
      refine .letter ?_ (ih printable.2)
      rintro rfl
      exact absurd printable.1 (by decide)

/-- What follows an escape. -/
theorem exists_digit (monochrome : Monochrome text) {before after : List Char}
    (split : text = before ++ '\x1b' :: after) :
    ∃ digit rest, digit.isDigit = true ∧ after = '[' :: digit :: 'm' :: rest := by
  induction monochrome generalizing before with
  | nil => simp at split
  | letter plain _ ih =>
      cases before with
      | nil => exact absurd (List.cons.inj split).1 plain
      | cons _ before => exact ih (List.cons.inj split).2
  | @sets digit text isDigit _ ih =>
      have plain : digit ≠ '\x1b' := by
        rintro rfl
        exact absurd isDigit (by decide)
      -- The escape is the one that starts the sequence, or stands behind its four characters.
      match before with
      | [] => exact ⟨digit, text, isDigit, (List.cons.inj split).2.symm⟩
      | [_] | [_, _] | [_, _, _] => simp [plain] at split
      | _ :: _ :: _ :: _ :: before =>
          simp only [List.cons_append, List.cons.injEq] at split
          exact ih split.2.2.2.2

/-- No sequence of more than one character is written. -/
theorem not_infix (monochrome : Monochrome text) {code : String} {c next : Char}
    {rest : List Char} (long : code.toList = c :: next :: rest) (goesOn : next ≠ 'm') :
    ¬ (sequence code).toList <:+: text := by
  rintro ⟨before, after, split⟩
  rw [toList_sequence, long, List.append_assoc] at split
  obtain ⟨digit, others, -, follows⟩ := monochrome.exists_digit split.symm
  obtain ⟨-, same⟩ := List.cons.inj follows
  exact goesOn (List.cons.inj (List.cons.inj same).2).1

/-- No colour is set. -/
theorem not_colour (monochrome : Monochrome text) (color : Color) :
    ¬ (Piece.foreground color).text.toList <:+: text ∧
      ¬ (Piece.background color).text.toList <:+: text := by
  have code : ∃ c rest, (colorCode color).toList = c :: rest ∧ c ≠ 'm' := by
    cases color <;> simp [colorCode]
  obtain ⟨c, rest, code_eq, goesOn⟩ := code
  have foreground : ("3" ++ colorCode color).toList = '3' :: c :: rest := by simp [code_eq]
  have background : ("4" ++ colorCode color).toList = '4' :: c :: rest := by simp [code_eq]
  exact ⟨monochrome.not_infix foreground goesOn, monochrome.not_infix background goesOn⟩

end Monochrome

/-! ## Terminal texts -/

theorem monochrome_reset : Monochrome Piece.reset.text.toList :=
  show Monochrome ['\x1b', '[', '0', 'm'] from .sets rfl .nil

theorem monochrome_pieces {look : Look} (foreground : look.foreground = .reset)
    (background : look.background = .reset) :
    ∀ piece ∈ look.pieces, Monochrome piece.text.toList := by
  have mark (added : Text.Attribute) : Monochrome (Piece.mark added).text.toList := by
    cases added <;> exact .sets rfl .nil
  intro piece member
  simp only [Look.pieces, foreground, background, beq_self_eq_true, if_true, List.nil_append,
    List.mem_cons, List.mem_map] at member
  rcases member with rfl | ⟨added, -, rfl⟩
  · exact monochrome_reset
  · exact mark added

theorem monochrome_cellPieces (each : ∀ cell ∈ cells, cell.Monochrome) (current : Look)
    (covered : Nat) : ∀ piece ∈ cellPieces current covered cells,
      Monochrome piece.text.toList := by
  induction cells generalizing current covered with
  | nil =>
      intro piece member
      rw [cellPieces] at member
      split at member
      · cases member
      · rw [List.mem_singleton.mp member]
        exact monochrome_reset
  | cons cell rest ih =>
      have later := ih fun other member => each other (List.mem_cons_of_mem _ member)
      cases covered with
      | succ more => exact later current more
      | zero =>
          have here := each cell List.mem_cons_self
          intro piece member
          rcases List.mem_append.mp member with set | rest
          · split at set
            · cases set
            · exact monochrome_pieces here.foreground_eq here.background_eq piece set
          · rcases List.mem_cons.mp rest with rfl | rest
            · exact .of_printable here.printable
            · exact later _ _ piece rest

theorem monochrome_rowAnsi (each : ∀ cell ∈ cells, cell.Monochrome) :
    Monochrome (rowAnsi cells).toList := by
  have kept : ∀ cell ∈ trimBlank cells, cell.Monochrome := by
    intro cell member
    rw [trimBlank, List.mem_reverse] at member
    exact each cell (List.mem_reverse.mp ((List.dropWhile_sublist _).subset member))
  exact .join (List.forall_mem_map.mpr (monochrome_cellPieces kept _ _))

theorem monochrome_toAnsi (each : ∀ cell ∈ buffer.cells.toList, cell.Monochrome) :
    Monochrome buffer.toAnsi.toList := by
  have rows : ∀ line ∈ buffer.rows.map rowAnsi, Monochrome line.toList := by
    refine List.forall_mem_map.mpr fun row member => monochrome_rowAnsi fun cell inside => ?_
    obtain ⟨y, -, rfl⟩ := List.mem_map.mp member
    rw [Buffer.row_eq] at inside
    exact each cell (List.mem_of_mem_drop (List.mem_of_mem_take inside))
  have lineEnd : Monochrome "\r\n".toList :=
    show Monochrome ['\r', '\n'] from .letter (by decide) (.letter (by decide) .nil)
  refine .intercalate lineEnd fun line member => ?_
  rw [trimEmpty, List.mem_reverse] at member
  exact rows line (List.mem_reverse.mp ((List.dropWhile_sublist _).subset member))

/-- A buffer that is drawn without colours. -/
theorem Buffer.Alike.monochrome (alike : Buffer.Alike .uncoloured buffer other) :
    ∀ cell ∈ buffer.cells.toList, cell.Monochrome := by
  have both : List.Forall₂ (fun cell _ => cell.Monochrome ∧ True) buffer.cells.toList
      other.cells.toList :=
    alike.cells.imp fun _ _ cell => ⟨⟨cell.look.1, cell.look.2, cell.printable⟩, trivial⟩
  exact ((List.forall₂_and_left _ _).mp both).1

end Showcase.Screen
