import Mathlib.Data.List.ReduceOption
import Showcase.Proofs.Screen.Faithful

/-!
# What is left out of a text

The text of a buffer ends with the last row that shows something, and each row with the last cell
that does. No looks are left behind a row, and what the blank cells at its end hold does not matter.
-/

namespace Showcase.Screen

open Showcase.Text (isControl)

/-! ## The last item that stays -/

section

variable {α : Type} {drops : α → Bool} {front tail : List α} {item : α}

/-- All items may be dropped, or there is a last one that stays. -/
theorem all_or_exists_last (drops : α → Bool) (items : List α) :
    (∀ item ∈ items, drops item = true) ∨
      ∃ front item tail, items = front ++ item :: tail ∧ drops item = false ∧
        ∀ later ∈ tail, drops later = true := by
  induction items with
  | nil => exact .inl fun _ member => nomatch member
  | cons first rest ih =>
      rcases ih with all | ⟨front, item, tail, rfl, stays, dropped⟩
      · cases stays : drops first with
        | true => exact .inl (List.forall_mem_cons.mpr ⟨stays, all⟩)
        | false => exact .inr ⟨[], first, rest, rfl, stays, all⟩
      · exact .inr ⟨first :: front, item, tail, rfl, stays, dropped⟩

theorem rdropWhile_append_dropped {items : List α} (dropped : ∀ later ∈ tail, drops later = true) :
    (items ++ tail).rdropWhile drops = items.rdropWhile drops := by
  rw [List.rdropWhile, List.reverse_append, List.dropWhile_append_of_pos fun item member =>
    dropped item (List.mem_reverse.mp member), List.rdropWhile]

theorem rdropWhile_last (stays : drops item = false)
    (dropped : ∀ later ∈ tail, drops later = true) :
    (front ++ item :: tail).rdropWhile drops = front ++ [item] := by
  rw [← List.singleton_append, ← List.append_assoc, rdropWhile_append_dropped dropped]
  exact List.rdropWhile_concat_neg _ _ _ (by simp [stays])

end

/-! ## The cells that are written -/

/-- A row that shows nothing. -/
def BlankRow (cells : List Cell) : Prop := ∀ cell ∈ cells, cell.isBlank = true

/-- A cell with one character of one or two columns. -/
def Cell.IsLettered (cell : Cell) : Prop :=
  ∃ c, cell.symbol = String.singleton c ∧ isControl c = false ∧
    (Text.columns c = 1 ∨ Text.columns c = 2)

/-- The cells of a row without those that a symbol to their left covers. -/
def written (cells : List Cell) : List Cell := (shown 0 cells).reduceOption

/-- The pieces that write cells one after the other, given the looks that are set. -/
def spell (current : Look) : List Cell → List Piece
  | [] => if current == .plain then [] else [.reset]
  | cell :: rest =>
      (if cell.look == current then [] else cell.look.pieces)
        ++ .symbol cell.symbol :: spell cell.look rest

variable {cells front tail : List Cell} {cell : Cell} {current : Look} {covered : Nat}

theorem cellPieces_eq (current : Look) (covered : Nat) (cells : List Cell) :
    cellPieces current covered cells = spell current (shown covered cells).reduceOption := by
  induction cells generalizing current covered with
  | nil => cases covered <;> rfl
  | cons cell rest ih =>
      cases covered with
      | zero => rw [cellPieces, shown, List.reduceOption_cons_of_some, spell, ih]
      | succ more => rw [cellPieces, shown, List.reduceOption_cons_of_none, ih]

theorem mem_of_mem_written (member : cell ∈ written cells) : cell ∈ cells := by
  obtain ⟨index, found⟩ := List.mem_iff_getElem?.mp (List.reduceOption_mem_iff.mp member)
  exact List.mem_of_getElem? (getElem?_of_shown found).2

/-- A row is written up to the last cell that shows something. -/
theorem rowPieces_of_last (shows : cell.isBlank = false) (blank : BlankRow tail) :
    rowPieces (front ++ cell :: tail) = spell .plain (written (front ++ [cell])) := by
  have trimmed : trimBlank (front ++ cell :: tail) = front ++ [cell] := rdropWhile_last shows blank
  rw [rowPieces, trimmed, cellPieces_eq]
  rfl

theorem rowPieces_of_blank (blank : BlankRow cells) : rowPieces cells = [] := by
  have trimmed : trimBlank cells = [] := List.rdropWhile_eq_nil_iff.mpr blank
  rw [rowPieces, trimmed]
  rfl

/-! ## The last cell that is written -/

theorem Cell.IsLettered.width_eq (lettered : cell.IsLettered) :
    Text.width cell.symbol = 1 ∨ Text.width cell.symbol = 2 := by
  obtain ⟨c, holds, printable, columns_eq⟩ := lettered
  rwa [holds, Text.width_singleton printable]

/-- Symbols of one or two columns cover one cell at most. -/
theorem overhang_le_one (lettered : ∀ cell ∈ cells, cell.IsLettered) (narrow : covered ≤ 1) :
    overhang covered cells ≤ 1 := by
  induction cells generalizing covered with
  | nil => exact narrow
  | cons cell rest ih =>
      obtain ⟨here, others⟩ := List.forall_mem_cons.mp lettered
      cases covered with
      | zero =>
          refine ih others ?_
          have width_eq := here.width_eq
          omega
      | succ more => exact ih others (Nat.le_of_succ_le narrow)

theorem overhang_append (covered : Nat) (first second : List Cell) :
    overhang covered (first ++ second) = overhang (overhang covered first) second := by
  induction first generalizing covered with
  | nil => rfl
  | cons cell rest ih => cases covered <;> exact ih _

theorem written_append (first second : List Cell) : written (first ++ second) =
    written first ++ (shown (overhang 0 first) second).reduceOption := by
  rw [written, shown_append, List.reduceOption_append]
  rfl

/-- The last cell that is written is the last cell, or a wide one that covers it. -/
theorem getLast?_written (lettered : ∀ other ∈ front, other.IsLettered) :
    (written (front ++ [cell])).getLast? = some cell ∨
      ∃ before wide, front = before ++ [wide] ∧ Text.width wide.symbol = 2 ∧
        (written (front ++ [cell])).getLast? = some wide := by
  cases free : overhang 0 front with
  | zero =>
      rw [written_append, free]
      exact .inl List.getLast?_concat
  | succ more =>
      -- The cell is covered, and so the one before it is written.
      obtain rfl | ⟨before, wide, rfl⟩ := List.eq_nil_or_concat front
      · cases free
      rw [List.concat_eq_append] at free lettered ⊢
      have narrow : overhang 0 before ≤ 1 := overhang_le_one
        (fun other member => lettered other (List.mem_append_left _ member)) (Nat.zero_le _)
      have width_eq := (lettered wide (List.mem_append_right _ List.mem_cons_self)).width_eq
      rw [overhang_append] at free
      cases start : overhang 0 before with
      | zero =>
          rw [start] at free
          have two : Text.width wide.symbol = 2 := by
            simp only [overhang] at free
            omega
          refine .inr ⟨before, wide, rfl, two, ?_⟩
          rw [written_append, overhang_append, start, written_append, start]
          simp [overhang, shown, two]
      | succ further =>
          rw [start] at free
          simp only [overhang] at free
          omega

/-! ## What the pieces hold -/

theorem Cell.IsLettered.symbol_ne (lettered : cell.IsLettered) : cell.symbol ≠ "" := by
  obtain ⟨c, holds, -⟩ := lettered
  rw [holds]
  exact String.singleton_ne_empty

theorem sets_of_mem_pieces {look : Look} {piece : Piece} (member : piece ∈ look.pieces)
    (text : String) : piece ≠ .symbol text := by
  rintro rfl
  simp only [Look.pieces, List.mem_cons, List.mem_append, List.mem_map, reduceCtorEq, false_or,
    and_false, exists_false, or_false] at member
  rcases member with member | member <;> split at member <;> simp at member

/-- A piece sets looks, or it is the symbol of a cell. -/
theorem sets_or_symbol_of_mem_spell {piece : Piece} (member : piece ∈ spell current cells) :
    (∀ text, piece ≠ .symbol text) ∨ ∃ cell ∈ cells, piece = .symbol cell.symbol := by
  induction cells generalizing current with
  | nil =>
      rw [spell] at member
      split at member
      · cases member
      · rw [List.mem_singleton.mp member]
        exact .inl fun text => by simp
  | cons cell rest ih =>
      rcases List.mem_append.mp member with set | member
      · split at set
        · cases set
        · exact .inl (sets_of_mem_pieces set)
      · rcases List.mem_cons.mp member with rfl | later
        · exact .inr ⟨cell, List.mem_cons_self, rfl⟩
        · exact (ih later).imp_right fun ⟨other, inside, same⟩ =>
            ⟨other, List.mem_cons_of_mem _ inside, same⟩

/-- Cells without looks are written as their symbols. -/
theorem spell_plain (plain : ∀ cell ∈ cells, cell.look = .plain) :
    spell .plain cells = cells.map fun cell => .symbol cell.symbol := by
  induction cells with
  | nil => rfl
  | cons cell rest ih =>
      obtain ⟨here, others⟩ := List.forall_mem_cons.mp plain
      rw [spell, here, if_pos BEq.rfl, ih others]
      rfl

/-! ### Control characters -/

theorem mem_numerals {numbers : List Nat} {c : Char} (member : c ∈ numerals numbers) :
    c.isDigit = true ∨ c = ';' := by
  have digits (number : Nat) (inside : c ∈ Nat.toDigits 10 number) : c.isDigit = true :=
    Nat.isDigit_of_mem_toDigits (by decide) (by decide) inside
  induction numbers with
  | nil => cases member
  | cons number rest ih =>
      cases rest with
      | nil => exact .inl (digits number member)
      | cons next rest =>
          rw [numerals_cons_cons] at member
          rcases List.mem_append.mp member with inside | member
          · exact .inl (digits number inside)
          · rcases List.mem_cons.mp member with rfl | later
            · exact .inr rfl
            · exact ih later

theorem isControl_of_isDigit {c : Char} (digit : c.isDigit = true) : isControl c = false := by
  have bounds : 48 ≤ c.toNat ∧ c.toNat ≤ 57 := by
    simpa [Char.isDigit, UInt32.le_iff_toNat_le] using digit
  simp only [isControl, Bool.or_eq_false_iff, Bool.and_eq_false_iff, decide_eq_false_iff_not]
  omega

/-- The only control characters of a sequence are escapes. -/
theorem controls_of_sets {piece : Piece} (sets : ∀ text, piece ≠ .symbol text) {c : Char}
    (member : c ∈ piece.text.toList) (control : isControl c = true) : c = '\x1b' := by
  rw [toList_text sets] at member
  have other (printable : isControl c = false) : c = '\x1b' := by
    rw [printable] at control
    cases control
  rcases List.mem_cons.mp member with same | member
  · exact same
  · rcases List.mem_cons.mp member with rfl | member
    · exact other (by decide)
    · rcases List.mem_append.mp member with number | last
      · rcases mem_numerals number with digit | rfl
        · exact other (isControl_of_isDigit digit)
        · exact other (by decide)
      · rw [List.mem_singleton.mp last] at control
        exact absurd control (by decide)

theorem Cell.IsLettered.printable (lettered : cell.IsLettered) {c : Char}
    (member : c ∈ cell.symbol.toList) : isControl c = false := by
  obtain ⟨letter, holds, printable, -⟩ := lettered
  rw [holds, String.toList_singleton, List.mem_singleton] at member
  rwa [member]

/-- The only control characters of a row are escapes. -/
theorem controls_rowAnsi (lettered : ∀ cell ∈ cells, cell.IsLettered) {c : Char}
    (member : c ∈ (rowAnsi cells).toList) (control : isControl c = true) : c = '\x1b' := by
  obtain ⟨tail, split, -⟩ := Terminal.exists_trimBlank cells
  rw [rowAnsi, toList_piecesText, rowPieces, cellPieces_eq] at member
  obtain ⟨piece, spelled, inside⟩ := List.mem_flatMap.mp member
  rcases sets_or_symbol_of_mem_spell spelled with sets | ⟨cell, drawn, rfl⟩
  · exact controls_of_sets sets inside control
  · have listed : cell ∈ cells := by
      rw [split]
      exact List.mem_append_left _ (mem_of_mem_written drawn)
    rw [(lettered cell listed).printable inside] at control
    cases control

/-! ### Looks -/

namespace Terminal

variable {terminal : Terminal}

/-- No looks are set, and no sequence has begun. -/
structure Unset (terminal : Terminal) : Prop where
  ground : terminal.parser = .ground
  plain : terminal.paint = .plain

theorem feed_lettered (ground : terminal.parser = .ground) (lettered : cell.IsLettered) :
    (terminal.feed cell.symbol).parser = .ground ∧
      (terminal.feed cell.symbol).paint = terminal.paint := by
  obtain ⟨c, holds, printable, -⟩ := lettered
  have plain {control : Char} (isControl : isControl control = true) : c ≠ control := by
    rintro rfl
    rw [isControl] at printable
    cases printable
  rw [holds, feed, String.toList_singleton, List.foldl_cons, List.foldl_nil, step]
  simp only [ground]
  rw [if_neg (plain (by decide)), if_neg (plain (by decide)), if_neg (plain (by decide)), printable]
  simp only [Bool.false_eq_true, if_false, print, lineFeed]
  split_ifs <;> exact ⟨ground, rfl⟩

theorem unset_feedAll_spell (lettered : ∀ cell ∈ cells, cell.IsLettered)
    (ground : terminal.parser = .ground) (painted : terminal.paint = current.paint) :
    (terminal.feedAll (spell current cells)).Unset := by
  induction cells generalizing terminal current with
  | nil =>
      rw [spell, feedAll_end ground painted]
      exact ⟨ground, rfl⟩
  | cons cell rest ih =>
      obtain ⟨here, others⟩ := List.forall_mem_cons.mp lettered
      rw [spell, feedAll_append, feedAll_change ground painted, feedAll_cons, Piece.text]
      let painted : Terminal := { terminal with paint := cell.look.paint }
      have kept : (painted.feed cell.symbol).parser = .ground ∧
          (painted.feed cell.symbol).paint = cell.look.paint := feed_lettered ground here
      exact ih others kept.1 kept.2

/-- No looks are left behind a row. -/
theorem Unset.feed_rowAnsi (unset : terminal.Unset)
    (lettered : ∀ cell ∈ cells, cell.IsLettered) : (terminal.feed (rowAnsi cells)).Unset := by
  obtain ⟨tail, split, -⟩ := exists_trimBlank cells
  rw [rowAnsi, rowPieces, cellPieces_eq]
  refine unset_feedAll_spell (fun cell member => lettered cell ?_) unset.ground unset.plain
  rw [split]
  exact List.mem_append_left _ (mem_of_mem_written member)

theorem Unset.feed_lineEnd (unset : terminal.Unset) : (terminal.feed "\r\n").Unset := by
  obtain ⟨ground, plain⟩ := unset
  have taken : "\r\n".toList = ['\r', '\n'] := by decide
  have read : terminal.feed "\r\n" = { terminal with column := 0 }.lineFeed := by
    simp [feed, taken, step, ground]
  rw [read, lineFeed]
  split <;> exact ⟨ground, plain⟩

/-- Row after row, no looks are left. -/
theorem Unset.feed_rows {rows : List (List Cell)} (unset : terminal.Unset)
    (lettered : ∀ cells ∈ rows, ∀ cell ∈ cells, cell.IsLettered) :
    (terminal.feed ("\r\n".intercalate (rows.map rowAnsi))).Unset := by
  induction rows generalizing terminal with
  | nil => exact unset
  | cons cells rest ih =>
      obtain ⟨here, others⟩ := List.forall_mem_cons.mp lettered
      have first := unset.feed_rowAnsi here
      cases rest with
      | nil =>
          rw [List.map_singleton, String.intercalate_singleton]
          exact first
      | cons next rest =>
          rw [List.map_cons, List.map_cons, String.intercalate_cons_cons, feed_append, feed_append]
          exact ih first.feed_lineEnd others

end Terminal

/-! ## Empty texts -/

theorem rowAnsi_of_blank (blank : BlankRow cells) : rowAnsi cells = "" := by
  rw [rowAnsi, rowPieces_of_blank blank]
  rfl

/-- A row without text shows nothing. -/
theorem rowAnsi_eq_empty_iff (lettered : ∀ cell ∈ cells, cell.IsLettered) :
    rowAnsi cells = "" ↔ BlankRow cells := by
  refine ⟨fun empty => ?_, rowAnsi_of_blank⟩
  rcases all_or_exists_last Cell.isBlank cells with blank | ⟨front, cell, tail, rfl, shows, blank⟩
  · exact blank
  · -- The first cell of a row is written, and its symbol is not empty.
    obtain ⟨first, rest, split⟩ : ∃ first rest, front ++ [cell] = first :: rest :=
      List.exists_cons_of_ne_nil (List.append_ne_nil_of_right_ne_nil _ (List.cons_ne_nil _ _))
    have inside : first ∈ front ++ cell :: tail := by
      have member : first ∈ front ++ [cell] := split ▸ List.mem_cons_self
      simp only [List.mem_append, List.mem_cons] at member ⊢
      tauto
    have none := (lettered first inside).symbol_ne
    rw [← String.toList_eq_nil_iff, rowAnsi, toList_piecesText, rowPieces_of_last shows blank,
      split] at empty
    simp only [written, shown, List.reduceOption_cons_of_some, spell, List.flatMap_append,
      List.flatMap_cons, Piece.text, List.append_eq_nil_iff, String.toList_eq_nil_iff] at empty
    exact absurd empty.2.1 none

theorem intercalate_ne_empty {between text : String} {texts : List String} (member : text ∈ texts)
    (some : text ≠ "") : between.intercalate texts ≠ "" := by
  induction texts with
  | nil => cases member
  | cons first rest ih =>
      cases rest with
      | nil =>
          rw [String.intercalate_singleton, ← List.mem_singleton.mp member]
          exact some
      | cons next rest =>
          rw [String.intercalate_cons_cons, ← String.toList_eq_nil_iff.ne]
          simp only [String.toList_append, ne_eq, List.append_eq_nil_iff,
            String.toList_eq_nil_iff, not_and]
          rintro ⟨none, -⟩
          rcases List.mem_cons.mp member with rfl | later
          · exact absurd none some
          · exact ih later

/-! ## Buffers -/

variable {buffer other : Buffer} {rows : List (List Cell)}

theorem toAnsi_of_last {front tail : List (List Cell)}
    (split : buffer.rows = front ++ cells :: tail) (shows : rowAnsi cells ≠ "")
    (blank : ∀ later ∈ tail, BlankRow later) :
    buffer.toAnsi = "\r\n".intercalate ((front ++ [cells]).map rowAnsi) := by
  have trimmed : trimEmpty (front.map rowAnsi ++ rowAnsi cells :: tail.map rowAnsi) =
      front.map rowAnsi ++ [rowAnsi cells] := by
    refine rdropWhile_last (by simpa using shows) (List.forall_mem_map.mpr fun later member => ?_)
    rw [rowAnsi_of_blank (blank later member)]
    rfl
  rw [Buffer.toAnsi, split, List.map_append, List.map_cons, trimmed, List.map_append]
  rfl

theorem toAnsi_of_blank (blank : ∀ cells ∈ buffer.rows, BlankRow cells) : buffer.toAnsi = "" := by
  have trimmed : trimEmpty (buffer.rows.map rowAnsi) = [] := by
    refine List.rdropWhile_eq_nil_iff.mpr (List.forall_mem_map.mpr fun cells member => ?_)
    rw [rowAnsi_of_blank (blank cells member)]
    rfl
  rw [Buffer.toAnsi, trimmed]
  rfl

/-- A buffer without text shows nothing. -/
theorem toAnsi_eq_empty_iff (lettered : ∀ cells ∈ buffer.rows, ∀ cell ∈ cells, cell.IsLettered) :
    buffer.toAnsi = "" ↔ ∀ cells ∈ buffer.rows, BlankRow cells := by
  refine ⟨fun empty => ?_, toAnsi_of_blank⟩
  have row_iff (cells : List Cell) (member : cells ∈ buffer.rows) :
      (rowAnsi cells).isEmpty = true ↔ BlankRow cells :=
    String.isEmpty_iff.trans (rowAnsi_eq_empty_iff (lettered cells member))
  rcases all_or_exists_last (fun cells => (rowAnsi cells).isEmpty) buffer.rows with
    blank | ⟨front, cells, tail, split, shows, blank⟩
  · exact fun cells member => (row_iff cells member).mp (blank cells member)
  · have some : rowAnsi cells ≠ "" := by simpa using shows
    rw [toAnsi_of_last split some fun later member => (row_iff later (by simp [split, member])).mp
      (blank later member)] at empty
    have last : rowAnsi cells ∈ (front ++ [cells]).map rowAnsi :=
      List.mem_map_of_mem (List.mem_append_right _ List.mem_cons_self)
    exact absurd empty (intercalate_ne_empty last some)

/-- The rows differ at most in blank cells at their ends. -/
def Retouched (first second : List Cell) : Prop :=
  ∃ front tail others, first = front ++ tail ∧ second = front ++ others ∧
    BlankRow tail ∧ BlankRow others

theorem Retouched.rowAnsi_eq {first second : List Cell} (retouched : Retouched first second) :
    rowAnsi second = rowAnsi first := by
  obtain ⟨front, tail, others, rfl, rfl, blank, otherBlank⟩ := retouched
  have first : trimBlank (front ++ tail) = trimBlank front := rdropWhile_append_dropped blank
  have second : trimBlank (front ++ others) = trimBlank front :=
    rdropWhile_append_dropped otherBlank
  rw [rowAnsi, rowPieces, second, rowAnsi, rowPieces, first]

/-- What blank cells at the end of a row hold does not matter. -/
theorem toAnsi_retouched (retouched : List.Forall₂ Retouched buffer.rows other.rows) :
    other.toAnsi = buffer.toAnsi := by
  have texts : other.rows.map rowAnsi = buffer.rows.map rowAnsi := by
    generalize buffer.rows = rows, other.rows = others at retouched ⊢
    induction retouched with
    | nil => rfl
    | cons here _ ih => rw [List.map_cons, List.map_cons, here.rowAnsi_eq, ih]
  rw [Buffer.toAnsi, texts, Buffer.toAnsi]

/-! ## What a text says -/

/-- The text of a row is empty or ends with the last cell that shows something, or with the wide one
that covers it. There are no line ends in it, and no escapes if what is written has no looks. -/
structure RowTrimmed (cells : List Cell) : Prop where
  empty : BlankRow cells → rowAnsi cells = ""
  last : ∀ front cell tail, cells = front ++ cell :: tail → cell.isBlank = false →
    BlankRow tail →
      rowAnsi cells = piecesText (spell .plain (written (front ++ [cell]))) ∧
      ((written (front ++ [cell])).getLast? = some cell ∨
        ∃ before wide, front = before ++ [wide] ∧ Text.width wide.symbol = 2 ∧
          (written (front ++ [cell])).getLast? = some wide) ∧
      ((∀ drawn ∈ written (front ++ [cell]), drawn.look = .plain) → '\x1b' ∉ (rowAnsi cells).toList)
  lineless : '\r' ∉ (rowAnsi cells).toList ∧ '\n' ∉ (rowAnsi cells).toList

theorem rowTrimmed (lettered : ∀ cell ∈ cells, cell.IsLettered) : RowTrimmed cells := by
  have control {c : Char} (control : isControl c = true) (other : c ≠ '\x1b') :
      c ∉ (rowAnsi cells).toList :=
    fun member => other (controls_rowAnsi lettered member control)
  refine ⟨rowAnsi_of_blank, ?_, control (by decide) (by decide), control (by decide) (by decide)⟩
  rintro front cell tail rfl shows blank
  have text_eq : rowAnsi (front ++ cell :: tail) =
      piecesText (spell .plain (written (front ++ [cell]))) := by
    rw [rowAnsi, rowPieces_of_last shows blank]
  refine ⟨text_eq, getLast?_written fun other member => lettered other ?_, fun plain escape => ?_⟩
  · exact List.mem_append_left _ member
  · rw [text_eq, spell_plain plain, toList_piecesText, List.flatMap_map] at escape
    obtain ⟨drawn, member, inside⟩ := List.mem_flatMap.mp escape
    have listed : drawn ∈ front ++ cell :: tail := by
      have member := mem_of_mem_written member
      simp only [List.mem_append, List.mem_cons] at member ⊢
      tauto
    exact absurd ((lettered drawn listed).printable inside) (by decide)

/-- What the text of a buffer says of its cells. -/
structure Buffer.Trimmed (buffer : Buffer) : Prop where
  empty_iff : buffer.toAnsi = "" ↔ ∀ cells ∈ buffer.rows, BlankRow cells
  /-- The text goes down to the last row that shows something. -/
  rows : ∀ front cells tail, buffer.rows = front ++ cells :: tail → ¬ BlankRow cells →
    (∀ later ∈ tail, BlankRow later) →
      buffer.toAnsi = "\r\n".intercalate ((front ++ [cells]).map rowAnsi)
  each : ∀ cells ∈ buffer.rows, RowTrimmed cells
  /-- No looks are left behind any row. -/
  unset : ∀ rows, rows <+: buffer.rows → ∀ terminal : Terminal, terminal.Unset →
    (terminal.feed ("\r\n".intercalate (rows.map rowAnsi))).Unset
  /-- Blank cells at the ends of rows do not matter. -/
  retouched : ∀ other : Buffer, List.Forall₂ Retouched buffer.rows other.rows →
    other.toAnsi = buffer.toAnsi

theorem Buffer.trimmed (lettered : ∀ cells ∈ buffer.rows, ∀ cell ∈ cells, cell.IsLettered) :
    buffer.Trimmed where
  empty_iff := toAnsi_eq_empty_iff lettered
  rows front cells tail split shows blank := by
    refine toAnsi_of_last split (fun empty => shows ?_) blank
    exact (rowAnsi_eq_empty_iff (lettered cells (by simp [split]))).mp empty
  each cells member := rowTrimmed (lettered cells member)
  unset rows first _ unset :=
    unset.feed_rows fun cells member => lettered cells (first.subset member)
  retouched _ := toAnsi_retouched

end Showcase.Screen
