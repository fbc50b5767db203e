import SoundGrid.Proofs.Grid.Lookup
import SoundGrid.Proofs.Picture.Channel
import SoundGrid.Proofs.Picture.Colour
import SoundGrid.Random.Twister

/-!
# The pixels of a picture

A pixel lies in the row of cells and in the column of cells that its coordinates
are in when they are divided by the size of a cell, and the remainders tell how
far it is from the edges of its cell.  It belongs to the gap when one of them is
near an edge, and has the colour of its cell otherwise.

Every cell has a square of pixels that do not belong to the gap.
-/

namespace SoundGrid

namespace Picture

/-! ## Rims -/

/-- Whether a coordinate is near an edge of the cell in which it lies. -/
def OnRim (size gap coordinate : ℕ) : Prop :=
  coordinate % size < gap ∨ size - gap ≤ coordinate % size

instance (size gap coordinate : ℕ) : Decidable (OnRim size gap coordinate) :=
  inferInstanceAs (Decidable (_ ∨ _))

/-- Without a gap there is no rim. -/
theorem not_onRim_zero {size : ℕ} (positive : 0 < size) (coordinate : ℕ) :
    ¬ OnRim size 0 coordinate := by
  have inside := Nat.mod_lt coordinate positive
  rintro (near | far)
  · omega
  · omega

/-- The computed rim of a cell tells which coordinates are near an edge. -/
theorem inGap_of_rim {size gap : ℕ} (positive : 0 < size)
    (fits : gap ≤ size) {rim : Array Bool}
    (isRim : Picture.rim size (.int size) (.int gap) = .ok rim)
    (coordinate : ℕ) :
    inGap size rim coordinate = decide (OnRim size gap coordinate) := by
  have inside := Nat.mod_lt coordinate positive
  have inner :
      Number.sub (.int size) (.int gap) = .ok (.int (size - gap)) := rfl
  rw [Picture.rim, inner] at isRim
  cases isRim
  rw [inGap, Array.getD_eq_getD_getElem?, Array.getElem?_map,
    Array.getElem?_range, if_pos inside]
  rw [Option.map_some, Option.getD_some, Number.isBelow_int,
    Number.isAtMost_int]
  refine Eq.trans ?_ (Bool.decide_or _ _).symm
  congr 1
  · exact decide_eq_decide.mpr Int.ofNat_lt
  · exact decide_eq_decide.mpr (by omega)

/-! ## Pixels -/

/-- The pixel at a place of a picture. -/
def pixel? (picture : Picture) (y x : ℕ) : Option Pixel :=
  picture.rows[y]?.bind fun pixels => pixels[x]?

/--
A picture of cells in rows and columns: it has the size that they take up, and a
pixel is that of its cell, unless it belongs to the gap.
-/
structure Draws (picture : Picture) (rows columns size gap : ℕ)
    (background : Pixel) (cells : Array Pixel) : Prop where
  height : picture.height = rows * size
  width : picture.width = columns * size
  lines : picture.rows.size = rows * size
  across : ∀ pixels ∈ picture.rows, pixels.size = columns * size
  pixel : ∀ y < rows * size, ∀ x < columns * size, ∃ cell,
    cells[y / size * columns + x / size]? = some cell ∧
      picture.pixel? y x =
        some (if OnRim size gap y ∨ OnRim size gap x then background else cell)

variable {rows columns size gap : ℕ} {rim : Array Bool} {background : Pixel}
  {cells : Array Pixel}

/-- A pixel of a line has the colour of its cell, or that of the gap. -/
theorem getElem?_line {x : ℕ} (inside : x < cells.size * size) :
    (line size rim background cells)[x]? =
      some (if inGap size rim x then background
        else cells.getD (x / size) background) := by
  rw [line, Array.getElem?_map, Array.getElem?_range, if_pos inside,
    Option.map_some]

/-- The cells of a row. -/
def band (columns : ℕ) (cells : Array Pixel) (row : ℕ) : Array Pixel :=
  cells.extract (row * columns) (row * columns + columns)

/-- A coordinate within the cells lies in one of them. -/
theorem div_lt_of_inside {count coordinate : ℕ}
    (inside : coordinate < count * size) : coordinate / size < count :=
  Nat.div_lt_of_lt_mul (by rwa [Nat.mul_comm])

/-- There is room for a block among blocks of its length. -/
theorem block_le {block blocks length : ℕ} (inside : block < blocks) :
    block * length + length ≤ blocks * length := by
  rw [← Nat.succ_mul]
  exact Nat.mul_le_mul_right _ inside

theorem size_band (count : cells.size = rows * columns) {row : ℕ}
    (isRow : row < rows) : (band columns cells row).size = columns := by
  have room : row * columns + columns ≤ cells.size := count ▸ block_le isRow
  rw [band, Array.size_extract]
  omega

theorem getElem?_band (count : cells.size = rows * columns) {row column : ℕ}
    (isRow : row < rows) (isColumn : column < columns) :
    (band columns cells row)[column]? = cells[row * columns + column]? := by
  have room : row * columns + columns ≤ cells.size := count ▸ block_le isRow
  rw [band, Array.getElem?_extract, if_pos (by omega)]

/-- A line of a picture runs through the gap, or through a row of cells. -/
theorem getElem?_lines {y : ℕ} (inside : y < rows * size) :
    (lines size rim background rows columns cells)[y]? =
      some (if inGap size rim y then gapLine background (columns * size)
        else line size rim background (band columns cells (y / size))) := by
  have row : y / size < rows := div_lt_of_inside inside
  rw [lines, Array.getElem?_map, Array.getElem?_range, if_pos inside,
    Option.map_some, Array.getD_eq_getD_getElem?, Array.getElem?_map,
    Array.getElem?_range, if_pos row]
  rfl

theorem size_lines :
    (lines size rim background rows columns cells).size = rows * size := by
  rw [lines, Array.size_map, Array.size_range]

/-- All lines are as wide as the cells of a row. -/
theorem size_of_mem_lines (count : cells.size = rows * columns)
    {pixels : Array Pixel}
    (member : pixels ∈ lines size rim background rows columns cells) :
    pixels.size = columns * size := by
  rcases Array.getElem?_of_mem member with ⟨y, found⟩
  have inside : y < rows * size :=
    size_lines ▸ (Array.getElem?_eq_some_iff.mp found).1
  have row : y / size < rows := div_lt_of_inside inside
  rw [getElem?_lines inside, Option.some.injEq] at found
  rw [← found]
  split
  · rw [gapLine, Array.size_replicate]
  · rw [line, Array.size_map, Array.size_range, size_band count row]

/-- Without rows there are no lines to leave out. -/
theorem rows_paint :
    (paint size rim background rows columns cells).rows =
      lines size rim background rows columns cells := by
  rw [paint]
  split
  · next none => simp [none, lines]
  · rfl

/-- A pixel belongs to the gap or to its cell. -/
theorem pixel?_paint (count : cells.size = rows * columns) {y x : ℕ}
    (yInside : y < rows * size) (xInside : x < columns * size) :
    (paint size rim background rows columns cells).pixel? y x =
      some (if inGap size rim y ∨ inGap size rim x then background
        else cells.getD (y / size * columns + x / size) background) := by
  have row : y / size < rows := div_lt_of_inside yInside
  have column : x / size < columns := div_lt_of_inside xInside
  rw [pixel?, rows_paint, getElem?_lines yInside, Option.bind_some]
  by_cases onGap : inGap size rim y = true
  · rw [if_pos onGap, if_pos (Or.inl onGap), gapLine,
      Array.getElem?_replicate, if_pos xInside]
  · rw [if_neg onGap, getElem?_line (by rwa [size_band count row]),
      Array.getD_eq_getD_getElem?, getElem?_band count row column,
      ← Array.getD_eq_getD_getElem?]
    simp only [onGap, Bool.false_eq_true, false_or]

/--
A picture draws the cells, if its rim fits them and is painted in the
background, where there are cells at all.
-/
theorem draws_paint {painted : Pixel} (count : cells.size = rows * columns)
    (rimmed : rows * columns ≠ 0 → ∀ coordinate,
      inGap size rim coordinate = decide (OnRim size gap coordinate) ∧
        (OnRim size gap coordinate → painted = background)) :
    (paint size rim painted rows columns cells).Draws rows columns size gap
      background cells := by
  refine ⟨rfl, rfl, rows_paint ▸ size_lines, ?_, ?_⟩
  · intro pixels member
    exact size_of_mem_lines count (rows_paint ▸ member)
  · intro y yInside x xInside
    have row : y / size < rows := div_lt_of_inside yInside
    have column : x / size < columns := div_lt_of_inside xInside
    have place : y / size * columns + x / size < cells.size :=
      count ▸ Neighbours.positionOf_lt row column
    have rim := rimmed
      (Nat.mul_ne_zero (Nat.ne_zero_of_lt row) (Nat.ne_zero_of_lt column))
    refine ⟨_, Array.getElem?_eq_getElem place, ?_⟩
    rw [pixel?_paint count yInside xInside, (rim y).1, (rim x).1,
      Array.getD_eq_getD_getElem?, Array.getElem?_eq_getElem place,
      Option.getD_some]
    simp only [decide_eq_true_eq]
    by_cases onRim : OnRim size gap y ∨ OnRim size gap x
    · rw [if_pos onRim, if_pos onRim, onRim.elim (rim y).2 (rim x).2]
    · rw [if_neg onRim, if_neg onRim]

/-! ## Squares -/

/-- Whether a coordinate lies in a cell, and not on its rim. -/
def Inside (size gap cell coordinate : ℕ) : Prop :=
  coordinate / size = cell ∧ ¬ OnRim size gap coordinate

instance (size gap cell coordinate : ℕ) :
    Decidable (Inside size gap cell coordinate) :=
  inferInstanceAs (Decidable (_ ∧ _))

/--
The coordinates in a cell that are not on its rim are those between its two
gaps.
-/
theorem filter_inside {count cell : ℕ} (visible : 2 * gap < size)
    (isCell : cell < count) :
    (Finset.range (count * size)).filter (Inside size gap cell) =
      Finset.Ico (cell * size + gap) (cell * size + size - gap) := by
  have room : cell * size + size ≤ count * size := block_le isCell
  ext coordinate
  have split := Nat.div_add_mod' coordinate size
  have below := Nat.mod_lt coordinate (show 0 < size by omega)
  rw [Finset.mem_filter, Finset.mem_range, Finset.mem_Ico]
  change _ ∧ _ ∧ ¬ (_ ∨ _) ↔ _
  rw [not_or, not_lt, not_le]
  constructor
  · rintro ⟨-, rfl, near, far⟩
    omega
  · rintro ⟨least, most⟩
    have own : coordinate / size = cell := by
      rw [Nat.div_eq_iff (by omega)]
      omega
    rw [own] at split
    omega

/-- A cell has a square of pixels that do not belong to the gap. -/
theorem card_inside {row column : ℕ} (visible : 2 * gap < size)
    (isRow : row < rows) (isColumn : column < columns) :
    ((Finset.range (rows * size) ×ˢ Finset.range (columns * size)).filter
        fun pixel =>
          Inside size gap row pixel.1 ∧ Inside size gap column pixel.2).card =
      (size - 2 * gap) ^ 2 := by
  have between (cell : ℕ) :
      cell * size + size - gap - (cell * size + gap) = size - 2 * gap := by
    omega
  rw [Finset.filter_product (Inside size gap row) (Inside size gap column),
    Finset.card_product, filter_inside visible isRow,
    filter_inside visible isColumn, Nat.card_Ico, Nat.card_Ico,
    between, between, sq]

end Picture

namespace Look

/-! ## Looks in whole pixels -/

/--
A look with cells and gaps of whole pixels, of which the gaps are no larger.
-/
structure IsSized (look : Look) (size gap : ℕ) : Prop where
  isSize : look.cellSize = .int size
  isGap : look.gap = .int gap
  positive : 0 < size
  fits : gap ≤ size

variable {look : Look} {size gap : ℕ}

/-- Looks in whole pixels that are accepted leave something of a cell. -/
theorem exists_isSized_of_check {size gap : ℤ}
    (isSize : look.cellSize = .int size) (isGap : look.gap = .int gap)
    (accepted : look.check = .ok ()) :
    ∃ side rim : ℕ, size = side ∧ gap = rim ∧ look.IsSized side rim ∧
      2 * rim < side := by
  have checked : look.check =
      if (Number.int size).isAtMost (.int 0) then .error (.rejected .cellSize)
      else if !(Number.isAtMost (.int 0) (.int (gap * 2)) &&
          (Number.int (gap * 2)).isBelow (.int size)) then
        .error (.rejected .gap)
      else .ok () := by
    rw [check, isSize, isGap]
    rfl
  rw [checked, Number.isAtMost_int, Number.isAtMost_int, Number.isBelow_int,
    ite_error_eq_ok_iff, ite_error_eq_ok_iff] at accepted
  rcases accepted with ⟨-, leaves, -⟩
  simp only [Bool.not_eq_true', Bool.and_eq_false_iff, decide_eq_false_iff_not,
    not_or, not_not] at leaves
  obtain ⟨side, rfl⟩ := Int.eq_ofNat_of_zero_le (show 0 ≤ size by omega)
  obtain ⟨rim, rfl⟩ := Int.eq_ofNat_of_zero_le (show 0 ≤ gap by omega)
  exact ⟨side, rim, rfl, rfl, ⟨isSize, isGap, by omega, by omega⟩, by omega⟩

/-- The size of a picture has the axes the other way round. -/
theorem IsSized.frameSize_eq (sized : look.IsSized size gap)
    {Real Value Source : Type} (grid : Grid Real Value Source) :
    look.frameSize grid =
      .ok (.int (grid.columns * size), .int (grid.rows * size)) := by
  rw [frameSize, sized.isSize]
  rfl

theorem IsSized.pixels_eq_ok_iff (sized : look.IsSized size gap) {found : ℕ} :
    look.pixels = .ok found ↔ size < countLimit ∧ found = size := by
  have number : numberOf (.int size) = .ok (.int size) := rfl
  have whole : (Number.int size).whole = .ok (size : ℤ) := rfl
  simp only [Look.pixels, bind_eq_ok_iff, sized.isSize, number, whole,
    Except.ok.injEq, exists_eq_left', ite_pure_eq_ok_iff, Int.toNat_natCast,
    Nat.cast_lt]
  exact and_congr_right fun _ => eq_comm

/--
Where there are pixels the rim fits them, and the colour of the gap is the
background.
-/
theorem IsSized.exists_edge (sized : look.IsSized size gap)
    {background : Colour Float32}
    (filled : swatchOf look.background = .ok (.ofColour background))
    (places : ℕ) :
    ∃ rim colour, look.edge size places = .ok (rim, colour) ∧
      (places ≠ 0 → ∀ coordinate,
        Picture.inGap size rim coordinate =
          decide (Picture.OnRim size gap coordinate) ∧
          (Picture.OnRim size gap coordinate → colour = background)) := by
  have numbers (value : ℤ) : numberOf (.int value) = .ok (.int value) := rfl
  have same : (Number.int size).same (.int size) = true := by
    simp [Number.same, Number.compare?]
  rw [edge, sized.isSize, sized.isGap]
  simp only [numbers, bind, Except.bind, Number.isAtMost_int, same, if_true]
  by_cases drawn : (decide ((gap : ℤ) ≤ 0) || decide (places * size = 0)) = true
  · refine ⟨#[], blank, if_pos drawn, ?_⟩
    intro some coordinate
    have positive := sized.positive
    have none : gap = 0 := by
      simp only [Bool.or_eq_true, decide_eq_true_eq, Nat.mul_eq_zero] at drawn
      omega
    have notOnRim := Picture.not_onRim_zero sized.positive coordinate
    rw [none]
    exact ⟨(decide_eq_false notOnRim).symm, fun onRim => absurd onRim notOnRim⟩
  · obtain ⟨rim, isRim⟩ :
        ∃ rim, Picture.rim size (.int size) (.int gap) = .ok rim := ⟨_, rfl⟩
    refine ⟨rim, background, ?_, fun _ coordinate =>
      ⟨Picture.inGap_of_rim sized.positive sized.fits isRim coordinate,
        fun _ => rfl⟩⟩
    rw [if_neg drawn, isRim, filled]
    rfl

/-! ## Drawing a grid -/

/--
Whether a picture has sides that can be counted, and so many bytes while it is
made.
-/
def IsCountable (rows columns size : ℕ) : Prop :=
  size < countLimit ∧
    max 1 (rows * size) * max 1 (columns * size) * 12 < countLimit

/-- Places can be counted when their channels have not too many bytes. -/
theorem checkPlaces_eq_ok_iff {rows columns : ℕ} :
    checkPlaces rows columns = .ok () ↔
      max 1 rows * max 1 columns * 12 < countLimit := by
  rw [checkPlaces, channelBytes, Nat.mul_assoc _ 3 4]
  split
  · next fits => exact iff_of_true rfl fits
  · next beyond =>
      exact iff_of_false (fun impossible => nomatch impossible) beyond

/-- Where the pixels can be counted the cells can. -/
theorem IsCountable.cells {rows columns : ℕ}
    (countable : IsCountable rows columns size) (positive : 0 < size) :
    checkPlaces rows columns = .ok () := by
  refine checkPlaces_eq_ok_iff.mpr (lt_of_le_of_lt ?_ countable.2)
  refine Nat.mul_le_mul_right _ (Nat.mul_le_mul ?_ ?_)
  · exact max_le_max_left 1 (Nat.le_mul_of_pos_right _ positive)
  · exact max_le_max_left 1 (Nat.le_mul_of_pos_right _ positive)

variable {Source : Type} {grid : Grid Float Sample Source} {now : Number}
  {colours : Array (Colour Float32)}

/-- A grid that is laid out has a colour for every place. -/
theorem size_of_colours (laidOut : grid.LaidOut)
    (painted : look.colours grid now = .ok colours) :
    colours.size = grid.rows * grid.columns := by
  rcases bind_eq_ok_iff.mp painted with ⟨palette, -, later⟩
  rcases bind_eq_ok_iff.mp later with ⟨done, -, shaded⟩
  have related := (palette.shades_eq_ok_iff laidOut now blank).mp shaded
  rw [← laidOut.size, ← Array.length_toList, ← Array.length_toList,
    related.length_eq]

/-- A picture of a grid draws the colours of its cells. -/
theorem IsSized.draws_of_render (sized : look.IsSized size gap)
    {background : Colour Float32}
    (filled : swatchOf look.background = .ok (.ofColour background))
    (laidOut : grid.LaidOut) {picture : Picture}
    (rendered : look.render grid now = .ok picture) :
    IsCountable grid.rows grid.columns size ∧
      ∃ colours, look.colours grid now = .ok colours ∧
        picture.Draws grid.rows grid.columns size gap
          (Picture.pixelOf background) (colours.map Picture.pixelOf) := by
  rcases bind_eq_ok_iff.mp rendered with ⟨colours, painted, later⟩
  rcases bind_eq_ok_iff.mp later with ⟨found, isPixels, later⟩
  rcases bind_eq_ok_iff.mp later with ⟨done, counted, later⟩
  rcases sized.pixels_eq_ok_iff.mp isPixels with ⟨short, rfl⟩
  rcases sized.exists_edge filled (grid.rows * grid.columns) with
    ⟨rim, colour, edged, rimmed⟩
  rw [edged] at later
  cases later
  refine ⟨⟨short, checkPlaces_eq_ok_iff.mp counted⟩, colours, painted,
    Picture.draws_paint ?_ ?_⟩
  · rw [Array.size_map, size_of_colours laidOut painted]
  · intro some coordinate
    exact ⟨(rimmed some coordinate).1, fun onRim =>
      congrArg Picture.pixelOf ((rimmed some coordinate).2 onRim)⟩

/--
There is a picture if the cells have colours and the pixels can be counted.
-/
theorem IsSized.exists_render (sized : look.IsSized size gap)
    {background : Colour Float32}
    (filled : swatchOf look.background = .ok (.ofColour background))
    (painted : look.colours grid now = .ok colours)
    (countable : IsCountable grid.rows grid.columns size) :
    ∃ picture, look.render grid now = .ok picture := by
  rcases sized.exists_edge filled (grid.rows * grid.columns) with
    ⟨rim, colour, edged, -⟩
  refine ⟨.paint size rim (Picture.pixelOf colour) grid.rows grid.columns
    (colours.map Picture.pixelOf), bind_eq_ok_iff.mpr ⟨colours, painted, ?_⟩⟩
  refine bind_eq_ok_iff.mpr
    ⟨size, sized.pixels_eq_ok_iff.mpr ⟨countable.1, rfl⟩, ?_⟩
  refine bind_eq_ok_iff.mpr ⟨(), checkPlaces_eq_ok_iff.mpr countable.2, ?_⟩
  exact bind_eq_ok_iff.mpr ⟨(rim, colour), edged, rfl⟩

/--
Cells with numbers have colours in a look of numbers, if their places can be
counted.
-/
theorem IsNumeric.exists_colours (numeric : look.IsNumeric)
    (laidOut : grid.LaidOut) (cells : ∀ cell ∈ grid.cells, cell.IsNumeric)
    {time : Float} (timed : now.toDouble = .ok time)
    (counted : checkPlaces grid.rows grid.columns = .ok ()) :
    ∃ colours, look.colours grid now = .ok colours := by
  rcases numeric.exists_palette with ⟨palette, prepared, threefold⟩
  rcases Look.exists_colours prepared laidOut counted fun cell member =>
      threefold.exists_colourOf (cells cell member) timed grid.level _ with
    ⟨colours, painted, -⟩
  exact ⟨colours, painted⟩

/--
The picture of a grid, pixel by pixel. A look in whole pixels with colours of
numbers draws it if the pixels can be counted. Every pixel has the colour of its
cell or, near an edge of the cell, the background; each channel is cut off at 0
and 255 and loses its fraction. Colours are singles, but this changes no whole
number. Every cell has a square of pixels of its own.
-/
theorem render_draws {size gap : ℤ} (accepted : look.check = .ok ())
    (isSize : look.cellSize = .int size) (isGap : look.gap = .int gap)
    (numeric : look.IsNumeric) {background : Colour Float}
    (isBackground : IsColour look.background background)
    (laidOut : grid.LaidOut) (cells : ∀ cell ∈ grid.cells, cell.IsNumeric)
    {time : Float} (timed : now.toDouble = .ok time) :
    ∃ side rim : ℕ, size = side ∧ gap = rim ∧
      look.frameSize grid =
        .ok (.int (grid.columns * size), .int (grid.rows * size)) ∧
      ((∃ picture, look.render grid now = .ok picture) ↔
        IsCountable grid.rows grid.columns side) ∧
      (∀ picture, look.render grid now = .ok picture →
        ∃ colours, look.colours grid now = .ok colours ∧
          picture.Draws grid.rows grid.columns side rim
            (Picture.pixelOf (background.map Number.Single.ofDouble))
            (colours.map Picture.pixelOf)) ∧
      (∀ (channel : Float32) (rank : EReal),
        Number.Single.rank? channel = some rank →
        (Picture.byteOf channel).toNat = Picture.cutOff rank) ∧
      (∀ (channel : Float) (whole : ℤ),
        Number.Double.rank? channel = some ((whole : ℝ) : EReal) →
        ((Picture.byteOf (Number.Single.ofDouble channel)).toNat : ℤ) =
          max 0 (min whole 255)) ∧
      (∀ row < grid.rows, ∀ column < grid.columns,
        ((Finset.range (grid.rows * side) ×ˢ
            Finset.range (grid.columns * side)).filter fun pixel =>
          Picture.Inside side rim row pixel.1 ∧
            Picture.Inside side rim column pixel.2).card =
          (side - 2 * rim) ^ 2) ∧
      1 ≤ (side - 2 * rim) ^ 2 := by
  rcases exists_isSized_of_check isSize isGap accepted with
    ⟨size, gap, rfl, rfl, sized, visible⟩
  have filled := swatchOf_of_isColour isBackground
  refine ⟨size, gap, rfl, rfl, sized.frameSize_eq grid, ⟨?_, ?_⟩, ?_,
    fun channel rank => Picture.toNat_byteOf, fun channel whole =>
      Picture.toNat_byteOf_ofDouble, fun row isRow column isColumn =>
        Picture.card_inside visible isRow isColumn, ?_⟩
  · rintro ⟨picture, rendered⟩
    exact (sized.draws_of_render filled laidOut rendered).1
  · intro countable
    rcases numeric.exists_colours laidOut cells timed
        (countable.cells sized.positive) with
      ⟨colours, painted⟩
    exact sized.exists_render filled painted countable
  · intro picture rendered
    exact (sized.draws_of_render filled laidOut rendered).2
  · exact Nat.one_le_pow _ _ (by omega)

/-- The standard look is one of numbers. -/
theorem isNumeric_standard : standard.IsNumeric := by
  have colours (red green blue : ℕ)
      (small : max red (max green blue) < 2 ^ 53) :
      ∃ colour', IsColour (colour red green blue) colour' := by
    rcases Datum.exists_standsFor_natCast (show red < 2 ^ 53 by omega) with
      ⟨_, isRed⟩
    rcases Datum.exists_standsFor_natCast (show green < 2 ^ 53 by omega) with
      ⟨_, isGreen⟩
    rcases Datum.exists_standsFor_natCast (show blue < 2 ^ 53 by omega) with
      ⟨_, isBlue⟩
    exact ⟨⟨_, _, _⟩, .intro isRed isGreen isBlue⟩
  exact ⟨colours 10 10 10 (by decide), colours 224 224 224 (by decide),
    colours 17 17 17 (by decide), colours 255 255 255 (by decide),
    ⟨_, Datum.standsFor_double _⟩, ⟨_, rfl⟩⟩

/-- Two rows of three cells, of which every other one is on. -/
def chequered : Grid Float Sample Random.Twister :=
  let dark : Grid Float Sample Random.Twister :=
    (Grid.empty .direct Settings.standard Rule.Standard.rules .diagonal
      (Random.Twister.ofSeed 0)).layOut 2 3
  { dark with
    cells := dark.cells.map fun cell =>
      { cell with state := cell.index % 2 == 0 } }

theorem laidOut_chequered : chequered.LaidOut where
  size := by decide +kernel
  places position later found := by
    rw [chequered, Array.getElem?_map] at found
    rcases Option.map_eq_some_iff.mp found with ⟨earlier, own, rfl⟩
    have place := (Grid.laidOut_layOut _ 2 3).places position earlier own
    exact ⟨place.index, place.row, place.column⟩

theorem isNumeric_chequered : ∀ cell ∈ chequered.cells, cell.IsNumeric := by
  intro cell member
  rcases Array.mem_map.mp member with ⟨earlier, own, rfl⟩
  have numeric := Grid.isNumeric_layOut _ 2 3 earlier own
  exact ⟨numeric.value, numeric.lastOff⟩

/--
In cells of four pixels with a gap of one there are twelve pixels across eight
lines. A pixel between two rows has the background. The first cell is on, and so
is the one below its right neighbour; the last one is off.
-/
theorem render_draws_chequered :
    let look : Look := { standard with cellSize := .int 4 }
    look.check = .ok () ∧ look.IsNumeric ∧ chequered.LaidOut ∧
      (∀ cell ∈ chequered.cells, cell.IsNumeric) ∧
      ∃ picture, look.render chequered (.double 0.0) = .ok picture ∧
        picture.width = 12 ∧ picture.height = 8 ∧
        picture.pixel? 4 5 = some ⟨10, 10, 10⟩ ∧
        picture.pixel? 1 2 = some ⟨224, 224, 224⟩ ∧
        picture.pixel? 6 5 = some ⟨224, 224, 224⟩ ∧
        picture.pixel? 5 10 = some ⟨17, 17, 17⟩ := by
  intro look
  have numeric : look.IsNumeric := { isNumeric_standard with }
  have accepted : look.check = .ok () := rfl
  have ten : (Datum.int 10).StandsFor 10.0 := ⟨.int 10, rfl, rfl⟩
  have isBackground : IsColour look.background ⟨10.0, 10.0, 10.0⟩ :=
    .intro ten ten ten
  have timed : (Number.double 0.0).toDouble = .ok 0.0 := rfl
  rcases render_draws accepted rfl rfl numeric isBackground laidOut_chequered
      isNumeric_chequered timed with
    ⟨side, rim, isSide, isRim, -, drawn, draws, -⟩
  obtain rfl : 4 = side := by exact_mod_cast isSide
  obtain rfl : 1 = rim := by exact_mod_cast isRim
  rcases drawn.mpr ⟨by decide, by decide⟩ with ⟨picture, rendered⟩
  rcases draws picture rendered with ⟨colours, painted, picturing⟩
  have background : Picture.pixelOf
      ((⟨10.0, 10.0, 10.0⟩ : Colour Float).map Number.Single.ofDouble) =
        ⟨10, 10, 10⟩ := by
    decide +kernel
  have shown : colours.map Picture.pixelOf =
      #[⟨224, 224, 224⟩, ⟨17, 17, 17⟩, ⟨224, 224, 224⟩,
        ⟨17, 17, 17⟩, ⟨224, 224, 224⟩, ⟨17, 17, 17⟩] := by
    have computed : (look.colours chequered (.double 0.0)).toOption.map
        (fun colours => colours.map Picture.pixelOf) =
      some #[⟨224, 224, 224⟩, ⟨17, 17, 17⟩, ⟨224, 224, 224⟩,
        ⟨17, 17, 17⟩, ⟨224, 224, 224⟩, ⟨17, 17, 17⟩] := by
      decide +kernel
    rw [painted] at computed
    exact Option.some.inj computed
  rw [background, shown] at picturing
  refine ⟨accepted, numeric, laidOut_chequered, isNumeric_chequered, picture,
    rendered, picturing.width, picturing.height, ?_, ?_, ?_, ?_⟩
  · rcases picturing.pixel 4 (by decide) 5 (by decide) with ⟨cell, own, pixel⟩
    exact pixel
  · rcases picturing.pixel 1 (by decide) 2 (by decide) with ⟨cell, own, pixel⟩
    cases own
    exact pixel
  · rcases picturing.pixel 6 (by decide) 5 (by decide) with ⟨cell, own, pixel⟩
    cases own
    exact pixel
  · rcases picturing.pixel 5 (by decide) 10 (by decide) with ⟨cell, own, pixel⟩
    cases own
    exact pixel

/-- One cell that is off. -/
def dot : Grid Float Sample Random.Twister :=
  (Grid.empty .direct Settings.standard Rule.Standard.rules .diagonal
    (Random.Twister.ofSeed 0)).layOut 1 1

/-- Cells of two to the power of sixty pixels. -/
def vast : Look :=
  { standard with cellSize := .int (2 ^ 60), gap := .int 0 }

/-- Cells of three pixels, in a gap with a red a little below seventeen. -/
def reddish : Look :=
  { standard with
    cellSize := .int 3
    background := .list [.double 16.9999999999, .int 0, .int 0] }

theorem isNumeric_reddish : reddish.IsNumeric :=
  { isNumeric_standard with
    background := by
      rcases Datum.exists_standsFor_natCast (show 0 < 2 ^ 53 by decide) with
        ⟨zero, isZero⟩
      exact ⟨⟨_, zero, zero⟩, .intro (Datum.standsFor_double _) isZero isZero⟩ }

/--
Both looks are accepted. Yet cells of so many pixels are not drawn, and the gap
is drawn with a red of seventeen, although the fraction is lost.
-/
theorem exists_not_exact :
    (∃ look : Look, look.check = .ok () ∧
      look.cellSize = .int (2 ^ 60) ∧ look.gap = .int 0 ∧ look.IsNumeric ∧
      ¬ ∃ picture, look.render dot (.double 0.0) = .ok picture) ∧
      ∃ (look : Look) (picture : Picture) (pixel : Pixel), look.check = .ok () ∧
        look.cellSize = .int 3 ∧ look.gap = .int 1 ∧ look.IsNumeric ∧
        look.background = .list [.double 16.9999999999, .int 0, .int 0] ∧
        look.render dot (.double 0.0) = .ok picture ∧
        picture.pixel? 0 0 = some pixel ∧
        Picture.OnRim 3 1 0 ∧ Number.Double.truncate? 16.9999999999 = some 16 ∧
        pixel.red = 17 := by
  constructor
  · refine ⟨vast, rfl, rfl, rfl, { isNumeric_standard with }, ?_⟩
    rintro ⟨picture, rendered⟩
    rcases isNumeric_standard.background with ⟨background, isBackground⟩
    have sized : vast.IsSized (2 ^ 60) 0 := ⟨rfl, rfl, by decide, by decide⟩
    have filled : swatchOf vast.background =
        .ok (.ofColour (background.map Number.Single.ofDouble)) :=
      swatchOf_of_isColour isBackground
    have countable :=
      (sized.draws_of_render filled (Grid.laidOut_layOut _ 1 1) rendered).1
    exact absurd countable.2 (by decide)
  · have computed :
        ((reddish.render dot (.double 0.0)).toOption.bind fun picture =>
          (picture.pixel? 0 0).map Colour.red) = some 17 := by
      decide +kernel
    rcases Option.bind_eq_some_iff.mp computed with ⟨picture, rendered, shown⟩
    rcases Option.map_eq_some_iff.mp shown with ⟨pixel, found, red⟩
    exact ⟨reddish, picture, pixel, rfl, rfl, rfl, isNumeric_reddish, rfl,
      eq_ok_of_toOption rendered, found, by decide, by decide +kernel, red⟩

end Look

end SoundGrid
