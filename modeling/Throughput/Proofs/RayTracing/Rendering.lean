import Mathlib.Tactic.FieldSimp
import Throughput.Proofs.Exact
import Throughput.Proofs.SelfCheck

/-!
Contract: the image of a scene, pixel by pixel.

Owns:
- `Scene.fill`, the rendering as two loops that push pixels to a buffer which may
  have been used before, with the subtractions of unsigned words;
- the length of an image and the place of every pixel in it;
- the coordinates of the pixels on the screen, in exact arithmetic;
- the theorem about all canvases.

The loops subtract one from the width and from the height, which a word of zero
does not allow. They do so for each pixel and for each row, so never where there
is none.
-/

namespace Throughput.RayTracing

/-! ### The loops -/

section Loops

variable {α : Type} [Scalar α]

/-- One less than a count, in unsigned words: there is nothing below zero. -/
def lessOne : Nat → Option Nat
  | 0 => none
  | count + 1 => some count

/-- The coordinate of a pixel, if its subtraction stays within unsigned words. -/
def wordCoordinate (index count : Nat) : Option α :=
  (lessOne count).map fun last => 2.0 * Scalar.ofNat index / Scalar.ofNat last - 1.0

namespace Scene

/-- The inner loop: pushes the pixels of a row, from left to right. -/
def fillRow (scene : Scene α) (width : Nat) (down : α) (pixels : List (Colour α)) :
    Option (List (Colour α)) :=
  (List.range width).foldlM
    (fun pixels column => do
      let across ← wordCoordinate column width
      return pixels ++ [scene.shade (scene.camera.ray across down)])
    pixels

/-- The outer loop: empties the buffer and fills it row by row, from the top. -/
def fill (scene : Scene α) (width height : Nat) (buffer : List (Colour α)) :
    Option (List (Colour α)) :=
  (List.range height).foldlM
    (fun pixels row => do
      let down ← wordCoordinate row height
      scene.fillRow width down pixels)
    (buffer.take 0)

end Scene

theorem wordCoordinate_eq {index count : Nat} (below : index < count) :
    wordCoordinate index count = some (Scene.screenCoordinate index count : α) := by
  cases count with
  | zero => exact absurd below (Nat.not_lt_zero index)
  | succ last => rfl

/-- A loop whose every step pushes something has pushed all of it in the end,
behind what was there before. -/
theorem foldlM_push {β ι : Type} {step : List β → ι → Option (List β)} {pushed : ι → List β}
    {indices : List ι}
    (each : ∀ index ∈ indices, ∀ pixels, step pixels index = some (pixels ++ pushed index))
    (pixels : List β) :
    indices.foldlM step pixels = some (pixels ++ indices.flatMap pushed) := by
  induction indices generalizing pixels with
  | nil => exact congrArg some (List.append_nil pixels).symm
  | cons index indices inductionHypothesis =>
      have first := each index (List.mem_cons_self ..) pixels
      have others := inductionHypothesis fun other member =>
        each other (List.mem_cons_of_mem _ member)
      rw [List.foldlM_cons, first, List.flatMap_cons, ← List.append_assoc]
      exact others (pixels ++ pushed index)

namespace Scene

theorem fillRow_eq (scene : Scene α) (width : Nat) (down : α) (pixels : List (Colour α)) :
    scene.fillRow width down pixels = some (pixels ++ scene.renderRow width down) := by
  have step : ∀ column ∈ List.range width, ∀ pixels : List (Colour α),
      (do
        let across ← wordCoordinate column width
        return pixels ++ [scene.shade (scene.camera.ray across down)]) =
      some (pixels ++ [scene.shade (scene.camera.ray (screenCoordinate column width) down)]) := by
    intro column member pixels
    rw [wordCoordinate_eq (List.mem_range.mp member)]
    rfl
  rw [renderRow, List.map_eq_flatMap]
  exact foldlM_push step pixels

/-- The loops fill a buffer with the image, whatever was in it. -/
theorem fill_eq (scene : Scene α) (width height : Nat) (buffer : List (Colour α)) :
    scene.fill width height buffer = some (scene.render width height) := by
  have step : ∀ row ∈ List.range height, ∀ pixels : List (Colour α),
      (do
        let down ← wordCoordinate row height
        scene.fillRow width down pixels) =
      some (pixels ++ scene.renderRow width (screenCoordinate row height)) := by
    intro row member pixels
    rw [wordCoordinate_eq (List.mem_range.mp member)]
    exact fillRow_eq scene width _ pixels
  exact foldlM_push step (buffer.take 0)

/-! ### The places of the pixels -/

theorem length_renderRow (scene : Scene α) (width : Nat) (down : α) :
    (scene.renderRow width down).length = width := by
  rw [renderRow, List.length_map, List.length_range]

end Scene

section Rows

variable {β : Type} {row : Nat → List β} {width : Nat}

theorem length_rows (equal : ∀ index, (row index).length = width) (height : Nat) :
    ((List.range height).flatMap row).length = height * width := by
  induction height with
  | zero => exact (Nat.zero_mul width).symm
  | succ height inductionHypothesis =>
      rw [List.range_succ, List.flatMap_append, List.length_append, inductionHypothesis,
        List.flatMap_singleton, equal, Nat.succ_mul]

/-- In rows of one length, an entry stands behind all rows above it and behind the
entries to its left. -/
theorem getElem?_rows (equal : ∀ index, (row index).length = width) {height index column : Nat}
    (below : index < height) (inRow : column < width) :
    ((List.range height).flatMap row)[index * width + column]? = (row index)[column]? := by
  induction height with
  | zero => exact absurd below (Nat.not_lt_zero index)
  | succ height inductionHypothesis =>
      have above := length_rows equal height
      rw [List.range_succ, List.flatMap_append, List.flatMap_singleton]
      rcases Nat.lt_succ_iff_lt_or_eq.mp below with earlier | rfl
      · have before : index * width + column < height * width := by
          calc index * width + column < index * width + width := Nat.add_lt_add_left inRow _
            _ = (index + 1) * width := (Nat.succ_mul index width).symm
            _ ≤ height * width := Nat.mul_le_mul_right width earlier
        rw [List.getElem?_append_left (above ▸ before)]
        exact inductionHypothesis earlier
      · rw [List.getElem?_append_right (above ▸ Nat.le_add_right _ column), above,
          Nat.add_sub_cancel_left]

end Rows

namespace Scene

theorem length_render (scene : Scene α) (width height : Nat) :
    (scene.render width height).length = width * height := by
  rw [render, length_rows fun _ => length_renderRow .., Nat.mul_comm]

theorem getElem?_render (scene : Scene α) {width height column row : Nat}
    (inRow : column < width) (below : row < height) :
    (scene.render width height)[row * width + column]? =
      some (scene.shade
        (scene.camera.ray (screenCoordinate column width) (screenCoordinate row height))) := by
  rw [render, getElem?_rows (fun _ => length_renderRow ..) below inRow, renderRow,
    List.getElem?_map, List.getElem?_range inRow, Option.map_some]

/-- A pixel is the colour that some ray of the camera brings back. -/
theorem exists_shade_of_mem_render {scene : Scene α} {width height : Nat} {pixel : Colour α}
    (member : pixel ∈ scene.render width height) : ∃ ray, pixel = scene.shade ray := by
  obtain ⟨row, _, inRow⟩ := List.mem_flatMap.mp member
  obtain ⟨column, _, rfl⟩ := List.mem_map.mp inRow
  exact ⟨_, rfl⟩

end Scene

end Loops

/-! ### The coordinates on the screen -/

namespace Scene

variable [Elementary] {index count : Nat}

theorem screenCoordinate_eq (index count : Nat) :
    (screenCoordinate index count : ℝ) = 2 * index / ((count - 1 : Nat) : ℝ) - 1 := by
  change (2.0 : ℝ) * index / ((count - 1 : Nat) : ℝ) - 1.0 = _
  norm_num

omit [Elementary] in
theorem cast_last_pos (several : 2 ≤ count) : (0 : ℝ) < ((count - 1 : Nat) : ℝ) :=
  Nat.cast_pos.mpr (Nat.sub_pos_of_lt several)

theorem screenCoordinate_strictMono (several : 2 ≤ count) :
    StrictMono fun index => (screenCoordinate index count : ℝ) := by
  intro left right before
  have last := cast_last_pos several
  have isBefore : (left : ℝ) < right := Nat.cast_lt.mpr before
  simp only [screenCoordinate_eq]
  gcongr

theorem screenCoordinate_first (count : Nat) : (screenCoordinate 0 count : ℝ) = -1 := by
  rw [screenCoordinate_eq, Nat.cast_zero, mul_zero, zero_div, zero_sub]

/-- The screen looks the same from its other end, but for the sign. -/
theorem screenCoordinate_opposite (several : 2 ≤ count) (inRow : index < count) :
    (screenCoordinate (count - 1 - index) count : ℝ) = -screenCoordinate index count := by
  have last := (cast_last_pos several).ne'
  rw [screenCoordinate_eq, screenCoordinate_eq, Nat.cast_sub (Nat.le_sub_one_of_lt inRow)]
  field_simp
  ring

theorem screenCoordinate_last (several : 2 ≤ count) :
    (screenCoordinate (count - 1) count : ℝ) = 1 := by
  have opposite := screenCoordinate_opposite several (Nat.zero_lt_of_lt several)
  rw [Nat.sub_zero, screenCoordinate_first, neg_neg] at opposite
  exact opposite

end Scene

/-! ### All canvases -/

/-- Rendering fills the buffer exactly, row by row, on every canvas. The loops
come to their end, so no subtraction goes below zero, and what they leave is the
image, whatever the buffer held before; a run of the workload leaves the same in its
own buffer. The image has as many pixels as the canvas, and the one in a row and a
column is the colour that the ray through its point of the screen brings back. In
exact arithmetic the coordinates of two or more pixels side by side grow from -1 to 1,
and are the same from either end but for the sign. -/
theorem render_fills_buffer
    {α : Type}
    [Scalar α]
    [Elementary]
    (scene : Scene α)
    (width height : Nat)
    (buffer : List (Colour α)) :
    let image := scene.render width height
    (scene.fill width height buffer = some image ∧
      ∀ (canvas : Canvas) (state : State),
        canvas.scene.fill canvas.width canvas.height state.pixels =
          some (canvas.run state).2.pixels) ∧
    image.length = width * height ∧
    (∀ column row, column < width → row < height →
      image[row * width + column]? = some (scene.shade (scene.camera.ray
        (2.0 * Scalar.ofNat column / Scalar.ofNat (width - 1) - 1.0)
        (2.0 * Scalar.ofNat row / Scalar.ofNat (height - 1) - 1.0)))) ∧
    ∀ count, 2 ≤ count →
      let coordinate : Nat → ℝ := fun index => Scene.screenCoordinate index count
      StrictMono coordinate ∧ coordinate 0 = -1 ∧ coordinate (count - 1) = 1 ∧
        ∀ index < count, coordinate (count - 1 - index) = -coordinate index := by
  intro image
  refine ⟨⟨scene.fill_eq width height buffer, fun canvas state => ?_⟩,
    scene.length_render width height, fun column row inRow below => ?_,
    fun count several => ⟨Scene.screenCoordinate_strictMono several,
      Scene.screenCoordinate_first count, Scene.screenCoordinate_last several,
      fun index inRow => Scene.screenCoordinate_opposite several inRow⟩⟩
  · rw [Canvas.run_pixels]
    exact canvas.scene.fill_eq canvas.width canvas.height state.pixels
  · exact scene.getElem?_render inRow below

end Throughput.RayTracing
