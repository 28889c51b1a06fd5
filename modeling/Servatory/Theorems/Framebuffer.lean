import Mathlib.Data.List.Induction
import Servatory.Firmware.Framebuffer

/-! The buffer of the display holds a picture: each point on the screen has the last colour that has been drawn there, and
    what is drawn off the screen leaves no trace. A code to scan is on the screen as a whole. -/

namespace Servatory

namespace Rgb565

theorem toNat_ofBeBytes (bytes : UInt8 × UInt8) : (ofBeBytes bytes).raw.toNat = bytes.1.toNat * 256 + bytes.2.toNat := by
  obtain ⟨hi, lo⟩ := bytes
  have hhi := hi.toNat_lt
  have hlo := lo.toNat_lt
  have hshift : hi.toNat <<< 8 % 2 ^ 16 = hi.toNat <<< 8 := by
    rw [Nat.shiftLeft_eq]
    omega
  show (hi.toUInt16 <<< 8 ||| lo.toUInt16).toNat = _
  rw [UInt16.toNat_or, UInt16.toNat_shiftLeft, UInt8.toNat_toUInt16, UInt8.toNat_toUInt16]
  show hi.toNat <<< 8 % 2 ^ 16 ||| lo.toNat = _
  rw [hshift, ← Nat.shiftLeft_add_eq_or_of_lt hlo, Nat.shiftLeft_eq]

theorem toNat_toBeBytes (c : Rgb565) :
    c.toBeBytes.1.toNat = c.raw.toNat / 256 ∧ c.toBeBytes.2.toNat = c.raw.toNat % 256 := by
  have hlt := c.raw.toNat_lt
  refine ⟨?_, rfl⟩
  show c.raw.toNat >>> 8 % 2 ^ 8 = _
  rw [Nat.shiftRight_eq_div_pow]
  omega

theorem ofBeBytes_toBeBytes (c : Rgb565) : ofBeBytes c.toBeBytes = c := by
  have hraw : (ofBeBytes c.toBeBytes).raw = c.raw := by
    rw [← UInt16.toNat_inj, toNat_ofBeBytes, c.toNat_toBeBytes.1, c.toNat_toBeBytes.2, Nat.div_add_mod']
  obtain ⟨raw⟩ := c
  exact congrArg mk hraw

theorem ofBeBytes_inj {bytes bytes' : UInt8 × UInt8} (h : ofBeBytes bytes = ofBeBytes bytes') : bytes = bytes' := by
  have hnat : (ofBeBytes bytes).raw.toNat = (ofBeBytes bytes').raw.toNat := congrArg (·.raw.toNat) h
  rw [toNat_ofBeBytes, toNat_ofBeBytes] at hnat
  have h1 := bytes.2.toNat_lt
  have h2 := bytes'.2.toNat_lt
  exact Prod.ext (UInt8.toNat_inj.mp (by omega)) (UInt8.toNat_inj.mp (by omega))

end Rgb565

namespace ScreenBuffer
variable {b b' : ScreenBuffer} {p q : Point} {c : Rgb565} {pixels : List (Point × Rgb565)}

theorem index_lt (h : Visible p) : index p + 1 < bufferSize := by
  obtain ⟨-, -, hx, hy⟩ := h
  simp only [index, bufferSize, width, height, bytesPerPixel] at *
  omega

/-- No two points share a byte. -/
theorem index_inj (hp : Visible p) (hq : Visible q) (h : index p / 2 = index q / 2) : p = q := by
  obtain ⟨px, py⟩ := p
  obtain ⟨qx, qy⟩ := q
  simp only [Visible, index, width, height, bytesPerPixel] at hp hq h
  have hy : py = qy := by omega
  have hx : px = qx := by omega
  rw [hx, hy]

/-- The picture in the buffer. -/
def picture (b : ScreenBuffer) (p : Point) : Rgb565 := (b.asImage p).getD .black

theorem asImage_bytes (b : ScreenBuffer) (h : Visible p) :
    ∃ bytes : UInt8 × UInt8, b.data[index p]? = some bytes.1 ∧ b.data[index p + 1]? = some bytes.2 ∧
      b.asImage p = some (.ofBeBytes bytes) := by
  have hlt := index_lt h
  rw [← b.size] at hlt
  have hfirst : b.data[index p]? = some b.data[index p] := List.getElem?_eq_getElem (by omega)
  have hsecond : b.data[index p + 1]? = some b.data[index p + 1] := List.getElem?_eq_getElem hlt
  refine ⟨(b.data[index p], b.data[index p + 1]), hfirst, hsecond, ?_⟩
  rw [asImage, if_pos h, hfirst, hsecond]
  rfl

theorem asImage_of_visible (h : Visible p) : b.asImage p = some (b.picture p) := by
  obtain ⟨bytes, -, -, himage⟩ := b.asImage_bytes h
  rw [picture, himage, Option.getD_some]

theorem asImage_of_not_visible (h : ¬Visible p) : b.asImage p = none := if_neg h

theorem setPixel_of_not_visible (h : ¬Visible p) : b.setPixel p c = b := if_neg h

theorem asImage_setPixel (hp : Visible p) (hq : Visible q) :
    (b.setPixel p c).asImage q = if q = p then some c else b.asImage q := by
  have hlt := index_lt hp
  rw [← b.size] at hlt
  have hdata : (b.setPixel p c).data = (b.data.set (index p) c.toBeBytes.1).set (index p + 1) c.toBeBytes.2 := by
    rw [setPixel, if_pos hp]
  rw [asImage, if_pos hq, hdata]
  split
  · rename_i heq
    subst heq
    have hfirst : ((b.data.set (index q) c.toBeBytes.1).set (index q + 1) c.toBeBytes.2)[index q]? = some c.toBeBytes.1 := by
      rw [List.getElem?_set_ne (by omega), List.getElem?_set_self (by omega)]
    have hsecond : ((b.data.set (index q) c.toBeBytes.1).set (index q + 1) c.toBeBytes.2)[index q + 1]? =
        some c.toBeBytes.2 := by
      rw [List.getElem?_set_self (by rw [List.length_set]; exact hlt)]
    rw [hfirst, hsecond]
    exact congrArg some c.ofBeBytes_toBeBytes
  · rename_i hne
    have hindex : index p / 2 ≠ index q / 2 := fun h => hne (index_inj hp hq h).symm
    have hp2 : index p % 2 = 0 := Nat.mul_mod_left _ 2
    have hq2 : index q % 2 = 0 := Nat.mul_mod_left _ 2
    rw [List.getElem?_set_ne (by omega), List.getElem?_set_ne (by omega), List.getElem?_set_ne (by omega),
      List.getElem?_set_ne (by omega), asImage, if_pos hq]

theorem picture_setPixel (hq : Visible q) : (b.setPixel p c).picture q = Function.update b.picture p c q := by
  by_cases hp : Visible p
  · rw [picture, asImage_setPixel hp hq, Function.update_apply]
    split <;> rfl
  · rw [setPixel_of_not_visible hp, Function.update_of_ne]
    rintro rfl
    exact hp hq

/-- On the screen the buffer is painted like a picture. -/
theorem picture_drawIter (hq : Visible q) : (b.drawIter pixels).picture q = Painting.paint b.picture pixels q := by
  induction pixels generalizing b with
  | nil => rfl
  | cons pixel rest ih =>
    have hrest : (b.drawIter (pixel :: rest)).picture q = _ := ih
    rw [hrest, Painting.paint_cons]
    exact Painting.paint_congr (picture_setPixel hq)

theorem getElem?_flatMap_pair {first second : UInt8} {n i : Nat} (h : i < n) :
    ((List.range n).flatMap fun _ => [first, second])[i * 2]? = some first ∧
      ((List.range n).flatMap fun _ => [first, second])[i * 2 + 1]? = some second := by
  have hlength : ∀ k, ((List.range k).flatMap fun _ => [first, second]).length = k * 2 := by
    intro k
    rw [List.length_flatMap, List.map_const', List.sum_replicate_nat, List.length_range]
    rfl
  induction n with
  | zero => omega
  | succ n ih =>
    rw [List.range_succ, List.flatMap_append, List.flatMap_singleton]
    by_cases hi : i < n
    · rw [List.getElem?_append_left (by rw [hlength]; omega), List.getElem?_append_left (by rw [hlength]; omega)]
      exact ih hi
    · obtain rfl : i = n := by omega
      rw [List.getElem?_append_right (Nat.le_of_eq (hlength i)), List.getElem?_append_right (by rw [hlength]; omega), hlength,
        Nat.sub_self, Nat.add_sub_cancel_left]
      exact ⟨rfl, rfl⟩

theorem picture_clear (hq : Visible q) : (b.clear c).picture q = c := by
  have hlt := index_lt hq
  have hpixels : b.data.length / bytesPerPixel = 32400 := by
    rw [b.size]
    rfl
  have hpair := @getElem?_flatMap_pair c.toBeBytes.1 c.toBeBytes.2 32400 (q.y.toNat * width + q.x.toNat) (by
    simp only [index, bufferSize, width, height, bytesPerPixel] at hlt ⊢
    omega)
  have himage : (b.clear c).asImage q = some (.ofBeBytes c.toBeBytes) := by
    rw [asImage, if_pos hq, clear]
    dsimp only
    rw [hpixels, index, bytesPerPixel, hpair.1, hpair.2]
    rfl
  rw [picture, himage, Option.getD_some, Rgb565.ofBeBytes_toBeBytes]

theorem picture_new (hq : Visible q) : new.picture q = .black := by
  have hlt := index_lt hq
  rw [picture, asImage, if_pos hq, new]
  dsimp only
  rw [List.getElem?_replicate_of_lt (by omega), List.getElem?_replicate_of_lt hlt]
  rfl

/-- The picture determines the bytes. -/
theorem ext_picture (h : ∀ q, Visible q → b.picture q = b'.picture q) : b = b' := by
  obtain ⟨data, size⟩ := b
  obtain ⟨data', size'⟩ := b'
  have hdata : data = data' := by
    refine List.ext_getElem? fun j => ?_
    by_cases hj : j < bufferSize
    · -- The byte belongs to a point on the screen.
      have hq : Visible ⟨(j / 2 % width : Nat), (j / 2 / width : Nat)⟩ := by
        simp only [Visible, bufferSize, width, height, bytesPerPixel] at hj ⊢
        omega
      have hindex : index ⟨(j / 2 % width : Nat), (j / 2 / width : Nat)⟩ = j / 2 * 2 := by
        simp only [index, width, bytesPerPixel, Int.toNat_natCast]
        omega
      obtain ⟨bytes, hfirst, hsecond, himage⟩ := asImage_bytes ⟨data, size⟩ hq
      obtain ⟨bytes', hfirst', hsecond', himage'⟩ := asImage_bytes ⟨data', size'⟩ hq
      have hsame := h _ hq
      rw [picture, picture, himage, himage', Option.getD_some, Option.getD_some] at hsame
      obtain rfl := Rgb565.ofBeBytes_inj hsame
      rw [hindex] at hfirst hfirst' hsecond hsecond'
      rcases Nat.mod_two_eq_zero_or_one j with hmod | hmod
      · obtain hj : j = j / 2 * 2 := by omega
        rw [hj]
        exact hfirst.trans hfirst'.symm
      · obtain hj : j = j / 2 * 2 + 1 := by omega
        rw [hj]
        exact hsecond.trans hsecond'.symm
    · rw [List.getElem?_eq_none (by omega), List.getElem?_eq_none (by omega)]
  subst hdata
  rfl

/-! ### A series of calls -/

namespace DrawCall

/-- The call gives the point a colour. -/
def Touches (call : DrawCall) (q : Point) : Prop :=
  match call with
  | drawIter pixels => ∃ pixel ∈ pixels, pixel.1 = q
  | clear _ => True

/-- The last colour that the call gives the point. -/
def Leaves (call : DrawCall) (q : Point) (c : Rgb565) : Prop :=
  match call with
  | drawIter pixels => ∃ before after, pixels = before ++ (q, c) :: after ∧ ∀ pixel ∈ after, pixel.1 ≠ q
  | clear color => c = color

end DrawCall

theorem picture_of_not_touches (hq : Visible q) {call : DrawCall} (h : ¬call.Touches q) :
    (b.draw call).picture q = b.picture q := by
  cases call with
  | drawIter pixels =>
    refine (picture_drawIter hq).trans (Painting.paint_of_not_mem fun pixel hpixel heq => h ⟨pixel, hpixel, heq⟩)
  | clear color => exact absurd trivial h

/-- Where something has a property, there is a last with it. -/
theorem exists_last {α : Type} {P : α → Prop} {all : List α} (h : ∃ a ∈ all, P a) :
    ∃ before a after, all = before ++ a :: after ∧ P a ∧ ∀ other ∈ after, ¬P other := by
  induction all with
  | nil => simp at h
  | cons first rest ih =>
    by_cases hrest : ∃ a ∈ rest, P a
    · obtain ⟨before, a, after, rfl, ha, hafter⟩ := ih hrest
      exact ⟨first :: before, a, after, rfl, ha, hafter⟩
    · refine ⟨[], first, rest, rfl, ?_, fun other hother hP => hrest ⟨other, hother, hP⟩⟩
      obtain ⟨a, ha, hP⟩ := h
      rcases List.mem_cons.mp ha with rfl | ha
      · exact hP
      · exact absurd ⟨a, ha, hP⟩ hrest

theorem exists_leaves (hq : Visible q) {call : DrawCall} (h : call.Touches q) :
    ∃ c, call.Leaves q c ∧ (b.draw call).picture q = c := by
  cases call with
  | drawIter pixels =>
    obtain ⟨before, ⟨p, c⟩, after, rfl, hp, hafter⟩ := exists_last h
    obtain rfl : p = q := hp
    exact ⟨c, ⟨before, after, rfl, hafter⟩, (picture_drawIter hq).trans (Painting.paint_last hafter)⟩
  | clear color => exact ⟨color, rfl, picture_clear hq⟩

/-- Whatever is drawn: a point on the screen is black as long as no call has given it a colour, and has the colour that the
    last such call has left there from then on; a point off the screen has none. Where two series of calls leave the same
    image, the bytes are the same. -/
theorem image_of_draws (calls : List DrawCall) :
    (∀ q, ¬Visible q → (calls.foldl draw new).asImage q = none) ∧
    (∀ q, Visible q →
      (∀ call ∈ calls, ¬call.Touches q) ∧ (calls.foldl draw new).asImage q = some .black ∨
      ∃ before call after c, calls = before ++ call :: after ∧ call.Leaves q c ∧ (∀ later ∈ after, ¬later.Touches q) ∧
        (calls.foldl draw new).asImage q = some c) ∧
    ∀ others : List DrawCall, (others.foldl draw new).asImage = (calls.foldl draw new).asImage →
      others.foldl draw new = calls.foldl draw new := by
  refine ⟨fun q => asImage_of_not_visible, fun q hq => ?_, fun others himage => ext_picture fun q _ => ?_⟩
  · rw [asImage_of_visible hq]
    induction calls using List.reverseRecOn with
    | nil => exact .inl ⟨(fun call h => absurd h List.not_mem_nil), congrArg some (picture_new hq)⟩
    | append_singleton calls call ih =>
      rw [List.foldl_append, List.foldl_cons, List.foldl_nil]
      by_cases htouches : call.Touches q
      · obtain ⟨c, hleaves, hpicture⟩ := @exists_leaves (calls.foldl draw new) q hq call htouches
        exact .inr ⟨calls, call, [], c, rfl, hleaves, (fun later h => absurd h List.not_mem_nil), congrArg some hpicture⟩
      · rw [picture_of_not_touches hq htouches]
        rcases ih with ⟨hnone, hblack⟩ | ⟨before, left, after, c, rfl, hleaves, hafter, hpicture⟩
        · refine .inl ⟨fun other h => ?_, hblack⟩
          rcases List.mem_append.mp h with h | h
          · exact hnone other h
          · exact List.mem_singleton.mp h ▸ htouches
        · refine .inr ⟨before, left, after ++ [call], c, by rw [List.append_assoc, List.cons_append], hleaves, ?_, hpicture⟩
          intro later h
          rcases List.mem_append.mp h with h | h
          · exact hafter later h
          · exact List.mem_singleton.mp h ▸ htouches
  · rw [picture, picture, himage]

end ScreenBuffer

/-! ### A code to scan -/

theorem mem_rectangle {origin p : Point} {width height : Nat} :
    p ∈ rectangle origin width height ↔
      origin.x ≤ p.x ∧ p.x < origin.x + width ∧ origin.y ≤ p.y ∧ p.y < origin.y + height := by
  simp only [rectangle, List.mem_flatMap, List.mem_map, List.mem_range]
  constructor
  · rintro ⟨y, hy, x, hx, rfl⟩
    dsimp only
    omega
  · rintro ⟨hx, hx', hy, hy'⟩
    refine ⟨(p.y - origin.y).toNat, by omega, (p.x - origin.x).toNat, by omega, ?_⟩
    obtain ⟨px, py⟩ := p
    simp only [Point.mk.injEq] at *
    omega

namespace QrCode
open ScreenBuffer

/-- A square is dark. The quiet zone around the code is not; squares are counted from its start. -/
def Dark (code : QrCode) (x y : Nat) : Prop :=
  quietZone ≤ x ∧ x < code.size + quietZone ∧ quietZone ≤ y ∧ y < code.size + quietZone ∧
    code.getModule (x - quietZone) (y - quietZone) = true

instance (code : QrCode) (x y : Nat) : Decidable (code.Dark x y) := inferInstanceAs (Decidable (_ ∧ _))

/-- A pixel of a square. -/
def pixel (code : QrCode) (x y dx dy : Nat) : Point :=
  ⟨code.origin.x + (x * scale + dx : Nat), code.origin.y + (y * scale + dy : Nat)⟩

variable {code : QrCode} {b : ScreenBuffer} {p : Point} {x y dx dy : Nat}

theorem picture_drawQr (hp : Visible p) :
    (drawQr b code).picture p =
      if ∃ area ∈ code.darkAreas, p ∈ area then .black
      else if p ∈ rectangle code.origin code.total code.total then .white else b.picture p := by
  rw [drawQr, picture_drawIter hp, Painting.paint_append, Painting.paint_fills, Painting.paint_fill]

/-- A dark area takes up the pixels of its square. -/
theorem mem_darkAreas :
    (∃ area ∈ code.darkAreas, p ∈ area) ↔
      ∃ x y dx dy, code.Dark x y ∧ dx < scale ∧ dy < scale ∧ p = code.pixel x y dx dy := by
  simp only [darkAreas, List.mem_flatMap, List.mem_map, List.mem_filter, List.mem_range]
  constructor
  · rintro ⟨area, ⟨y, hy, x, ⟨hx, hdark⟩, rfl⟩, hp⟩
    rw [moduleArea, mem_rectangle] at hp
    dsimp only [scale, quietZone] at hp
    refine ⟨x + quietZone, y + quietZone, (p.x - (code.origin.x + (x + 4) * 3)).toNat,
      (p.y - (code.origin.y + (y + 4) * 3)).toNat, ⟨by omega, by omega, by omega, by omega, ?_⟩, ?_, ?_, ?_⟩
    · rw [Nat.add_sub_cancel, Nat.add_sub_cancel]
      exact hdark
    · dsimp only [scale]
      omega
    · dsimp only [scale]
      omega
    · obtain ⟨px, py⟩ := p
      simp only [pixel, Point.mk.injEq, scale, quietZone] at hp ⊢
      omega
  · rintro ⟨x, y, dx, dy, ⟨hx, hx', hy, hy', hdark⟩, hdx, hdy, rfl⟩
    refine ⟨_, ⟨y - quietZone, by omega, x - quietZone, ⟨by omega, hdark⟩, rfl⟩, ?_⟩
    rw [moduleArea, mem_rectangle]
    simp only [pixel, scale, quietZone] at *
    omega

/-- All squares together, with the quiet zone. -/
theorem mem_square :
    p ∈ rectangle code.origin code.total code.total ↔
      ∃ x y dx dy, x < code.size + 2 * quietZone ∧ y < code.size + 2 * quietZone ∧ dx < scale ∧ dy < scale ∧
        p = code.pixel x y dx dy := by
  rw [mem_rectangle]
  constructor
  · intro h
    dsimp only [total, scale, quietZone] at h
    refine ⟨(p.x - code.origin.x).toNat / 3, (p.y - code.origin.y).toNat / 3, (p.x - code.origin.x).toNat % 3,
      (p.y - code.origin.y).toNat % 3, ?_, ?_, Nat.mod_lt _ (by decide), Nat.mod_lt _ (by decide), ?_⟩
    · dsimp only [quietZone]
      omega
    · dsimp only [quietZone]
      omega
    · obtain ⟨px, py⟩ := p
      simp only [pixel, Point.mk.injEq, scale] at h ⊢
      omega
  · rintro ⟨x, y, dx, dy, hx, hy, hdx, hdy, rfl⟩
    simp only [pixel, total, scale, quietZone] at *
    omega

theorem pixel_inj {x' y' dx' dy' : Nat} (hdx : dx < scale) (hdy : dy < scale) (hdx' : dx' < scale) (hdy' : dy' < scale)
    (h : code.pixel x y dx dy = code.pixel x' y' dx' dy') : x = x' ∧ y = y' := by
  simp only [pixel, Point.mk.injEq, scale] at *
  omega

/-- A code of any version that it is encoded in can be read back from the screen, whatever was there before: all pixels of a
    square are black or all white, as the square is dark or not, with the quiet zone on all sides. Nothing else changes. -/
theorem drawQr_read (hsize : code.size ≤ sizeOf maxVersion) (b : ScreenBuffer) :
    (∀ x y dx dy, x < code.size + 2 * quietZone → y < code.size + 2 * quietZone → dx < scale → dy < scale →
      (drawQr b code).asImage (code.pixel x y dx dy) = some (if code.Dark x y then .black else .white)) ∧
    ∀ p, (∀ x y dx dy, x < code.size + 2 * quietZone → y < code.size + 2 * quietZone → dx < scale → dy < scale →
      p ≠ code.pixel x y dx dy) → (drawQr b code).asImage p = b.asImage p := by
  have hle : code.total ≤ 111 := by
    simp only [total, sizeOf, maxVersion, quietZone, scale] at hsize ⊢
    omega
  refine ⟨fun x y dx dy hx hy hdx hdy => ?_, fun p hp => ?_⟩
  · have hmem := mem_square.mpr ⟨x, y, dx, dy, hx, hy, hdx, hdy, rfl⟩
    have hvisible : Visible (code.pixel x y dx dy) := by
      rw [mem_rectangle] at hmem
      simp only [Visible, width, height, origin] at hmem ⊢
      omega
    have hdark : (∃ area ∈ code.darkAreas, code.pixel x y dx dy ∈ area) ↔ code.Dark x y := by
      rw [mem_darkAreas]
      constructor
      · rintro ⟨x', y', dx', dy', hdark, hdx', hdy', heq⟩
        obtain ⟨rfl, rfl⟩ := pixel_inj hdx hdy hdx' hdy' heq
        exact hdark
      · exact fun hdark => ⟨x, y, dx, dy, hdark, hdx, hdy, rfl⟩
    rw [asImage_of_visible hvisible, picture_drawQr hvisible, if_pos hmem]
    simp only [hdark]
  · have hmem : p ∉ rectangle code.origin code.total code.total := by
      rw [mem_square]
      rintro ⟨x, y, dx, dy, hx, hy, hdx, hdy, rfl⟩
      exact hp x y dx dy hx hy hdx hdy rfl
    have hdark : ¬∃ area ∈ code.darkAreas, p ∈ area := by
      rw [mem_darkAreas]
      rintro ⟨x, y, dx, dy, ⟨-, hx, -, hy, -⟩, hdx, hdy, rfl⟩
      exact hp x y dx dy (by omega) (by omega) hdx hdy rfl
    by_cases hvisible : Visible p
    · rw [asImage_of_visible hvisible, asImage_of_visible hvisible, picture_drawQr hvisible, if_neg hdark, if_neg hmem]
    · rw [asImage_of_not_visible hvisible, asImage_of_not_visible hvisible]

/-- A code of the largest size, all squares of which are dark. -/
def allDark : QrCode := ⟨29, fun _ _ => true⟩

theorem drawQr_read_allDark :
    (drawQr .new allDark).asImage (allDark.pixel 4 4 0 0) = some .black ∧
      (drawQr .new allDark).asImage (allDark.pixel 3 4 2 0) = some .white := by
  obtain ⟨h, -⟩ := drawQr_read (show allDark.size ≤ sizeOf maxVersion by decide) .new
  exact ⟨h 4 4 0 0 (by decide) (by decide) (by decide) (by decide),
    h 3 4 2 0 (by decide) (by decide) (by decide) (by decide)⟩

end QrCode
end Servatory
