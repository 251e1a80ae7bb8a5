import Showcase.Proofs.Screen.Drawing
import Showcase.Screen.Border

/-!
# Texts in rows

A text can be read in a row if its characters stand there side by side. A line shows every text in
it that fits, and a letter that is in none of the texts drawn on a row is not in the row either.
-/

namespace Showcase.Screen

open Showcase.Text (Line Style)

/-- The text stands somewhere in the row. -/
def Displays (cells : List Cell) (text : String) : Prop :=
  text.toList <:+: (Buffer.rowText cells).toList

/-- No symbol in the row has the letter. -/
def Lacks (letter : Char) (cells : List Cell) : Prop :=
  ∀ cell ∈ cells, letter ∉ cell.symbol.toList

variable {cells : List Cell} {text : String} {letter : Char} {line : Line} {glyph : Glyph}
  {glyphs : List Glyph} {i width : Nat}

theorem toList_rowText (cells : List Cell) :
    (Buffer.rowText cells).toList = cells.flatMap fun cell => cell.symbol.toList := by
  rw [Buffer.rowText, String.toList_join, List.flatMap_map]

/-! ## Texts of a line -/

theorem displays_of_take (count : Nat) (displays : Displays (cells.take count) text) :
    Displays cells text := by
  unfold Displays at displays ⊢
  rw [← List.take_append_drop count cells, toList_rowText, List.flatMap_append, ← toList_rowText]
  exact displays.trans (List.prefix_append _ _).isInfix

/-- A character of one column in its cell. -/
def inkCell (base : Style) (ink : Char × Style) : Cell where
  symbol := String.singleton ink.1
  look := Look.plain.apply (base.patch ink.2)

theorem charCells_narrow {inks : List (Char × Style)} (base : Style)
    (narrow : ∀ ink ∈ inks, Text.columns ink.1 = 1) :
    (inks.flatMap fun ink => charCells (base.patch ink.2) ink.1) = inks.map (inkCell base) := by
  rw [← List.flatMap_pure_eq_map]
  refine List.flatMap_congr fun ink member => ?_
  rw [charCells, narrow ink member]
  rfl

theorem flatMap_inkCell (base : Style) (inks : List (Char × Style)) :
    ((inks.map (inkCell base)).flatMap fun cell => cell.symbol.toList) = inks.map Prod.fst := by
  rw [List.flatMap_map, ← List.flatMap_pure_eq_map]
  exact List.flatMap_congr fun ink _ => String.toList_singleton ink.1

/-- A line shows a text in it that ends within the columns. -/
theorem displays_lineCells {before after : List Char}
    (characters_eq : line.characters = before ++ text.toList ++ after)
    (narrow : ∀ c ∈ before ++ text.toList, Text.columns c = 1)
    (fits : before.length + text.toList.length ≤ width) : Displays (lineCells width line) text := by
  rw [← Text.Line.map_inked] at characters_eq
  obtain ⟨front, rest, inked_eq, front_eq, -⟩ := List.map_eq_append_iff.mp characters_eq
  obtain ⟨first, second, rfl, first_eq, second_eq⟩ := List.map_eq_append_iff.mp front_eq
  have single : ∀ ink ∈ first ++ second, Text.columns ink.1 = 1 := by
    intro ink member
    apply narrow
    rw [← front_eq]
    exact List.mem_map_of_mem member
  have length_eq : (first ++ second).length = before.length + text.toList.length := by
    rw [← List.length_map Prod.fst, front_eq, List.length_append]
  rw [Displays, toList_rowText, lineCells, inked_eq, List.flatMap_append,
    charCells_narrow line.style single, firstCells_append,
    List.take_of_length_le (by rw [List.length_map]; omega), List.flatMap_append, flatMap_inkCell,
    front_eq]
  exact (List.suffix_append _ _).isInfix.trans (List.prefix_append _ _).isInfix

/-! ## Letters that are not drawn -/

theorem not_displays_of_lacks (lacks : Lacks letter cells) (inside : letter ∈ text.toList) :
    ¬ Displays cells text := by
  intro displays
  have there := displays.subset inside
  rw [toList_rowText] at there
  obtain ⟨cell, member, found⟩ := List.mem_flatMap.mp there
  exact lacks cell member found

theorem lacks_empty (visible : letter ≠ ' ') : letter ∉ Cell.empty.symbol.toList := by
  intro member
  exact visible (List.mem_singleton.mp member)

theorem lacks_blank (visible : letter ≠ ' ') (count : Nat) :
    Lacks letter (List.replicate count .empty) := by
  intro cell member
  rw [List.eq_of_mem_replicate member]
  exact lacks_empty visible

theorem Lacks.modify (lacks : Lacks letter cells) (other : letter ∉ glyph.symbol.toList)
    (i : Nat) : Lacks letter (cells.modify i glyph.over) := by
  intro cell member
  obtain ⟨j, found⟩ := List.mem_iff_getElem?.mp member
  rw [List.getElem?_modify] at found
  obtain ⟨before, there, rfl⟩ := Option.map_eq_some_iff.mp found
  split
  · exact other
  · exact lacks before (List.mem_of_getElem? there)

theorem Lacks.writeGlyphs (lacks : Lacks letter cells)
    (others : ∀ glyph ∈ glyphs, letter ∉ glyph.symbol.toList) :
    Lacks letter (writeGlyphs cells i glyphs) := by
  induction glyphs generalizing cells i with
  | nil => exact lacks
  | cons glyph rest ih =>
      apply ih
      · exact lacks.modify (others glyph List.mem_cons_self) i
      · exact fun other member => others other (List.mem_cons_of_mem _ member)

/-- What is drawn of a line comes from its characters. -/
theorem mem_characters_of_mem_lineGlyphs (member : glyph ∈ lineGlyphs line)
    (inside : letter ∈ glyph.symbol.toList) : letter ∈ line.characters := by
  obtain ⟨span, there, drawn⟩ := List.mem_flatMap.mp member
  obtain ⟨cluster, listed, rfl⟩ := List.mem_map.mp drawn
  obtain ⟨letters, cut, kept⟩ := List.mem_filterMap.mp listed
  refine List.mem_flatMap.mpr ⟨span, there, ?_⟩
  rw [← Text.flatten_clusters span.text.toList]
  simp only at kept
  split at kept
  · cases kept
  · obtain rfl := Option.some.inj kept
    simp only [String.toList_ofList] at inside
    exact List.mem_flatten.mpr ⟨letters, cut, inside⟩

theorem Lacks.writeLine {line : Option Line} (lacks : Lacks letter cells)
    (others : ∀ drawn ∈ line, letter ∉ drawn.characters) :
    Lacks letter (writeLine cells i width line) := by
  cases line with
  | none => exact lacks
  | some line =>
      apply lacks.writeGlyphs
      intro glyph member inside
      exact others line rfl (mem_characters_of_mem_lineGlyphs (mem_of_mem_fitGlyphs member) inside)

theorem Lacks.present (lacks : Lacks letter cells) (visible : letter ≠ ' ') (covered : Nat) :
    Lacks letter (presentCells covered cells) := by
  induction cells generalizing covered with
  | nil => exact lacks
  | cons cell rest ih =>
      obtain ⟨first, others⟩ := List.forall_mem_cons.mp lacks
      cases covered with
      | zero => exact List.forall_mem_cons.mpr ⟨first, ih others _⟩
      | succ more => exact List.forall_mem_cons.mpr ⟨lacks_empty visible, ih others _⟩

/-! ## Boxes -/

namespace Buffer

variable {buffer drawn : Buffer} {area : Rect} {style : Style} {x y z : Nat} {symbol : String}

def boxSymbols : List String := ["│", "─", "╯", "╮", "╰", "╭"]

theorem symbolCells_box (listed : symbol ∈ boxSymbols) : symbolCells symbol.toList = 1 := by
  have table : boxSymbols.all fun symbol => symbolCells symbol.toList == 1 := by decide +kernel
  exact beq_iff_eq.mp (List.all_eq_true.mp table symbol listed)

/-- A box is drawn by putting its symbols in the rows of its area. -/
theorem drawBox_induction {P : Buffer → Prop} (start : P buffer)
    (puts : ∀ drawn x y symbol, (buffer.area.intersection area).y ≤ y →
      y < (buffer.area.intersection area).bottom → symbol ∈ boxSymbols → P drawn →
        P (drawn.putSymbol x y symbol style)) : P (buffer.drawBox area style) := by
  unfold drawBox
  dsimp only
  split
  · exact start
  · rename_i some
    generalize buffer.area.intersection area = clip at puts some ⊢
    simp only [Rect.isEmpty, Bool.or_eq_true, beq_iff_eq, not_or] at some
    have top : clip.y ≤ clip.y ∧ clip.y < clip.bottom := by
      rw [Rect.bottom]
      omega
    have bottom : clip.y ≤ clip.bottom - 1 ∧ clip.bottom - 1 < clip.bottom := by
      rw [Rect.bottom]
      omega
    have side : ∀ row ∈ List.range clip.height, clip.y ≤ clip.y + row ∧
        clip.y + row < clip.bottom := by
      intro row member
      have inside := List.mem_range.mp member
      rw [Rect.bottom]
      omega
    have sides : P ((List.range clip.height).foldl (fun drawn row =>
        (drawn.putSymbol clip.x (clip.y + row) "│" style).putSymbol (clip.right - 1)
          (clip.y + row) "│" style) buffer) := by
      refine List.foldlRecOn _ _ start fun drawn kept row member => ?_
      obtain ⟨below, above⟩ := side row member
      exact puts _ _ _ _ below above (by decide) (puts _ _ _ _ below above (by decide) kept)
    have edges := List.foldlRecOn (List.range clip.width) (fun drawn column =>
      (drawn.putSymbol (clip.x + column) clip.y "─" style).putSymbol (clip.x + column)
        (clip.bottom - 1) "─" style) sides fun drawn kept column _ =>
          puts _ _ _ _ bottom.1 bottom.2 (by decide)
            (puts _ _ _ _ top.1 top.2 (by decide) kept)
    refine puts _ _ _ _ top.1 top.2 (by decide) (puts _ _ _ _ bottom.1 bottom.2 (by decide) ?_)
    exact puts _ _ _ _ top.1 top.2 (by decide) (puts _ _ _ _ bottom.1 bottom.2 (by decide) edges)

/-- Symbols of a box were put in the rows of an area. -/
structure Boxed (area : Rect) (before after : Buffer) : Prop where
  spares : Spares 0 before after
  row_eq : ∀ z, before.area.y ≤ z → ¬ (area.y ≤ z ∧ z < area.bottom) →
    after.row z = before.row z
  lacks : ∀ letter, (∀ symbol ∈ boxSymbols, letter ∉ symbol.toList) →
    ∀ z, before.area.y ≤ z → Lacks letter (before.row z) → Lacks letter (after.row z)

/-- A change of a cell changes at most a cell of its row. -/
theorem row_modify_or (x y : Nat) (change : Cell → Cell) (below : buffer.area.y ≤ z) :
    (buffer.modify x y change).row z = buffer.row z ∨
      z = y ∧ (buffer.modify x y change).row z =
        (buffer.row z).modify (x - buffer.area.x) change := by
  cases inside : buffer.area.contains x y with
  | false =>
      left
      rw [modify, inside]
      rfl
  | true =>
      by_cases same : z = y
      · subst same
        exact .inr ⟨rfl, row_modify_self inside⟩
      · exact .inl (row_modify_other inside below same)

theorem Boxed.putSymbol {before : Buffer} (boxed : Boxed area before drawn) (below : area.y ≤ y)
    (above : y < area.bottom) (listed : symbol ∈ boxSymbols) :
    Boxed area before (drawn.putSymbol x y symbol style) := by
  let glyph : Glyph := { symbol, cells := 1, style }
  have put : Spares 0 drawn (drawn.modify x y glyph.over) :=
    spares_modify (Nat.zero_le _) (symbolCells_box listed)
  have area_eq := boxed.spares.area_eq
  constructor
  · exact boxed.spares.trans put
  · intro z top outside
    obtain same | ⟨here, -⟩ := row_modify_or x y glyph.over (area_eq.symm ▸ top)
    · exact same.trans (boxed.row_eq z top outside)
    · exact absurd ⟨here ▸ below, here ▸ above⟩ outside
  · intro letter others z top lacks
    have kept := boxed.lacks letter others z top lacks
    obtain same | ⟨-, changed⟩ := row_modify_or x y glyph.over (area_eq.symm ▸ top)
    · exact same ▸ kept
    · exact changed ▸ kept.modify (others symbol listed) _

theorem boxed_drawBox (buffer : Buffer) (area : Rect) (style : Style) :
    Boxed (buffer.area.intersection area) buffer (buffer.drawBox area style) := by
  apply drawBox_induction
  · exact ⟨.refl 0 buffer, fun _ _ _ => rfl, fun _ _ _ _ lacks => lacks⟩
  · intro drawn x y symbol below above listed boxed
    exact boxed.putSymbol below above listed

end Buffer

end Showcase.Screen
