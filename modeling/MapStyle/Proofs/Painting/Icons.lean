/-
Icons in what a style paints.

An icon stands in an instruction as an icon of its own, or as the pattern of an area or
of a line.  Wherever it stands, it comes from the sprite in one way, and nothing else
that is painted depends on the sprite.

* `Paint.icon?` — the icon that a paint holds;
* `Icon.Matches` — what an icon has in common with its entry in an atlas;
* `Icon.resolve?_eq_some_iff` — the icons that a name gives are those that match;
* `Style.mem_painted_icons_iff` — the icons of a painted style: what a selected layer
  names and the atlas holds;
* `Layer.paints_withoutIcons` — without its icons, a layer paints the same with any atlas;
* `Style.painted_without_icons` — and so does a style.
-/
import MapStyle.Proofs.Painting.DocumentOrder

namespace MapStyle

/-- The icon that a paint holds: an icon of its own or a pattern. -/
def Paint.icon? : Paint → Option Icon
  | icon p => some p.icon
  | fill p => p.pattern
  | line p => p.pattern
  | background _ | circle _ | text _ => none

/-! ### The entries of an atlas -/

theorem SpriteEntry.fits_iff {e : SpriteEntry} {image : Image} :
    e.fits image = true ↔
      e.x.toNat + e.width.toNat ≤ image.width.toNat ∧
        e.y.toNat + e.height.toNat ≤ image.height.toNat := by
  rw [fits, Bool.and_eq_true, decide_eq_true_iff, decide_eq_true_iff]

/-- The far edge of an entry at the greatest word does not come round to the left. -/
example : SpriteEntry.fits ⟨4294967295, 0, 2, 1, 1, false, none, none, none⟩ ⟨64, 64, []⟩ =
    false := by decide

namespace Atlas

variable {atlas : Atlas} {name : String} {e : SpriteEntry}

theorem region?_eq_some_iff :
    atlas.region? name = some e ↔
      atlas.entries.find? name = some e ∧
        ∀ image, atlas.image = some image → e.fits image = true := by
  rw [region?]
  cases hentry : atlas.entries.find? name with
  | none => simp
  | some e' =>
    cases himage : atlas.image with
    | none => simp
    | some image =>
      have hiff : (if e'.fits image = true then some e' else none) = some e ↔
          e' = e ∧ e.fits image = true := by
        rw [Option.ite_none_right_eq_some, Option.some.injEq, and_comm]
        exact and_congr_right fun h => by rw [h]
      simpa using hiff

theorem corners?_eq_some_iff {c : Corners} (hregion : atlas.region? name = some e) :
    atlas.corners? name = some c ↔
      ∃ image, atlas.image = some image ∧ image.width ≠ 0 ∧ image.height ≠ 0 ∧
        c = .of e image := by
  rw [corners?, hregion]
  cases himage : atlas.image with
  | none => simp
  | some image =>
    by_cases harea : image.width = 0 ∨ image.height = 0
    · simp only [Option.bind_eq_bind, Option.bind_some, if_pos harea]
      constructor
      · exact fun h => nomatch h
      · rintro ⟨image', himage', hwidth, hheight, -⟩
        obtain rfl := Option.some.inj himage'
        exact (harea.elim hwidth hheight).elim
    · simp only [Option.bind_eq_bind, Option.bind_some, if_neg harea, Option.some.injEq]
      rw [not_or] at harea
      constructor
      · rintro rfl
        exact ⟨image, rfl, harea.1, harea.2, rfl⟩
      · rintro ⟨image', rfl, -, -, rfl⟩
        rfl

end Atlas

/-! ### Icons and their entries -/

namespace Icon

/-- The icon is the entry of that name in the atlas, and an icon that can be drawn. -/
structure Matches (icon : Icon) (e : SpriteEntry) (atlas : Atlas) : Prop where
  named : icon.name ≠ ""
  listed : atlas.entries.find? icon.name = some e
  place : icon.x = e.x ∧ icon.y = e.y
  size : icon.width = e.width ∧ icon.height = e.height
  kind : icon.pixelRatio = e.pixelRatio ∧ icon.sdf = e.sdf
  /-- The far edges are sums of natural numbers, so that no sum can wrap around. -/
  inside : ∀ image, atlas.image = some image →
    icon.x.toNat + icon.width.toNat ≤ image.width.toNat ∧
      icon.y.toNat + icon.height.toNat ≤ image.height.toNat
  /-- There are corners just if there is an image with an area. -/
  corners_isSome : icon.corners.isSome = true ↔
    ∃ image, atlas.image = some image ∧ image.width ≠ 0 ∧ image.height ≠ 0
  corners_eq : ∀ c image, icon.corners = some c → atlas.image = some image → c = .of e image

variable {atlas : Atlas} {name : String} {e : SpriteEntry} {icon : Icon}

/-- A name that is not empty gives the icon that matches an entry of that name, if one does. -/
theorem resolve?_eq_some_iff (hname : name ≠ "") :
    resolve? atlas name = some icon ↔ icon.name = name ∧ ∃ e, icon.Matches e atlas := by
  rw [resolve?]
  constructor
  · intro h
    obtain ⟨e, hregion, hicon⟩ := Option.bind_eq_some_iff.mp h
    obtain rfl := Option.some.inj hicon
    have hregion' := Atlas.region?_eq_some_iff.mp hregion
    refine ⟨rfl, e, hname, hregion'.1, ⟨rfl, rfl⟩, ⟨rfl, rfl⟩, ⟨rfl, rfl⟩, ?_, ?_, ?_⟩
    · exact fun image himage => SpriteEntry.fits_iff.mp (hregion'.2 image himage)
    · rw [Option.isSome_iff_exists]
      constructor
      · rintro ⟨c, hc⟩
        obtain ⟨image, himage, hwidth, hheight, -⟩ := (Atlas.corners?_eq_some_iff hregion).mp hc
        exact ⟨image, himage, hwidth, hheight⟩
      · rintro ⟨image, himage, hwidth, hheight⟩
        exact ⟨_, (Atlas.corners?_eq_some_iff hregion).mpr ⟨image, himage, hwidth, hheight, rfl⟩⟩
    · intro c image hc himage
      obtain ⟨image', himage', -, -, rfl⟩ := (Atlas.corners?_eq_some_iff hregion).mp hc
      rw [Option.some.inj (himage.symm.trans himage')]
  · rintro ⟨rfl, e, h⟩
    have hregion : atlas.region? icon.name = some e := by
      refine Atlas.region?_eq_some_iff.mpr
        ⟨h.listed, fun image himage => SpriteEntry.fits_iff.mpr ?_⟩
      rw [← h.place.1, ← h.place.2, ← h.size.1, ← h.size.2]
      exact h.inside image himage
    -- The two have the same corners, since each has them just if the image has an area.
    have hcorners : atlas.corners? icon.name = icon.corners := by
      refine Option.ext fun c => ?_
      rw [Atlas.corners?_eq_some_iff hregion]
      constructor
      · rintro ⟨image, himage, hwidth, hheight, rfl⟩
        obtain ⟨c, hc⟩ :=
          Option.isSome_iff_exists.mp (h.corners_isSome.mpr ⟨image, himage, hwidth, hheight⟩)
        rw [hc, h.corners_eq c image hc himage]
      · intro hc
        obtain ⟨image, himage, hwidth, hheight⟩ :=
          h.corners_isSome.mp (Option.isSome_iff_exists.mpr ⟨c, hc⟩)
        exact ⟨image, himage, hwidth, hheight, h.corners_eq c image hc himage⟩
    rw [hregion, Option.bind_eq_bind, Option.bind_some, hcorners, ← h.place.1, ← h.place.2,
      ← h.size.1, ← h.size.2, ← h.kind.1, ← h.kind.2]

end Icon

/-! ### The icons of a layer -/

namespace Layer

/-- The property that names an icon of the layer: its image, or the pattern of what it paints. -/
def iconProperty? (l : Layer) : Option String :=
  match l.type with
  | .symbol => some "icon-image"
  | .fill => some "fill-pattern"
  | .line => some "line-pattern"
  | _ => none

variable {l : Layer} {context : Context} {atlas : Atlas} {icon : Icon}

theorem icon?_eq_some_iff {name : String} :
    l.icon? context atlas name = some icon ↔
      l.label? context name = some icon.name ∧ ∃ e, icon.Matches e atlas := by
  rw [icon?]
  cases hlabel : l.label? context name with
  | none => simp
  | some text =>
    by_cases hempty : text = ""
    · simp only [Option.bind_eq_bind, Option.bind_some, if_pos hempty]
      constructor
      · exact fun h => nomatch h
      · rintro ⟨htext, e, h⟩
        exact absurd ((Option.some.inj htext).symm.trans hempty) h.named
    · simp only [Option.bind_eq_bind, Option.bind_some, if_neg hempty, Option.some.injEq]
      rw [Icon.resolve?_eq_some_iff hempty, eq_comm]

/-- The icons among the paints of a layer are the one that its property names. -/
theorem mem_paints_icons_iff :
    icon ∈ (l.paints context atlas).filterMap Paint.icon? ↔
      ∃ name, l.iconProperty? = some name ∧ l.icon? context atlas name = some icon := by
  have htext : (l.textPaints context).filterMap Paint.icon? = [] := by
    refine List.filterMap_eq_nil_iff.mpr fun p hp => ?_
    obtain ⟨text, -, rfl⟩ := List.mem_map.mp hp
    rfl
  have hicon : (l.iconPaints context atlas).filterMap Paint.icon? =
      (l.icon? context atlas "icon-image").toList := by
    rw [iconPaints]
    cases l.icon? context atlas "icon-image" <;> rfl
  rw [paints, iconProperty?]
  cases l.type <;>
    simp [List.filterMap_append, htext, hicon, Paint.icon?, fillPaint, linePaint, eq_comm]

/-- With the empty atlas a property names no icon. -/
theorem icon?_empty (name : String) : l.icon? context .empty name = none := by
  refine Option.eq_none_iff_forall_ne_some.mpr fun icon h => ?_
  obtain ⟨-, e, hmatches⟩ := icon?_eq_some_iff.mp h
  exact nomatch hmatches.listed

/-- Without its icons, a layer paints with any atlas what it paints with the empty one. -/
theorem paints_withoutIcons (l : Layer) (context : Context) (atlas : Atlas) :
    (l.paints context atlas).filterMap Paint.withoutIcons = l.paints context .empty := by
  have htext : (l.textPaints context).filterMap Paint.withoutIcons = l.textPaints context := by
    rw [textPaints, List.filterMap_map]
    exact congrFun List.filterMap_eq_map _
  have hicon : (l.iconPaints context atlas).filterMap Paint.withoutIcons = [] := by
    refine List.filterMap_eq_nil_iff.mpr fun p hp => ?_
    obtain ⟨icon, -, rfl⟩ := List.mem_map.mp hp
    rfl
  have hempty : l.iconPaints context .empty = [] := by
    rw [iconPaints, icon?_empty]
    rfl
  rw [paints, paints]
  cases l.type <;>
    simp [List.filterMap_append, htext, hicon, hempty, Paint.withoutIcons, fillPaint, linePaint,
      icon?_empty]

end Layer

/-! ### The icons of a style -/

/-- The instruction without what comes from a sprite, if anything is left. -/
def Instruction.withoutIcons (a : Instruction) : Option Instruction :=
  a.paint.withoutIcons.map fun p => { a with paint := p }

namespace Layer

variable {l : Layer} {index : Nat} {source : String} {atlas : Atlas} {feature : Feature}
  {zoom : Float}

theorem mem_instructions_icons_iff {icon : Icon} :
    icon ∈ (l.instructions index source atlas feature zoom).filterMap (·.paint.icon?) ↔
      l.Selected source feature zoom ∧
        ∃ name, l.iconProperty? = some name ∧
          l.icon? (.ofFeature feature zoom) atlas name = some icon := by
  rw [← mem_paints_icons_iff, instructions]
  split
  · next h =>
    rw [List.filterMap_map]
    exact (and_iff_right h).symm
  · next h => simp [h]

theorem instructions_withoutIcons :
    (l.instructions index source atlas feature zoom).filterMap Instruction.withoutIcons =
      l.instructions index source .empty feature zoom := by
  rw [instructions, instructions]
  split
  · rw [← paints_withoutIcons l _ atlas, List.filterMap_map, List.map_filterMap]
    rfl
  · rfl

end Layer

namespace Style

variable (style : Style) (source : String) (atlas : Atlas) (feature : Feature) (zoom : Float)

/-- **Every icon that is painted comes from the atlas.**  The icons among the instructions are
those that a selected layer names and that match an entry: not empty in name, with the data of
the entry, inside the image over the natural numbers, and with corners just if the image has
an area. -/
theorem mem_painted_icons_iff (icon : Icon) :
    icon ∈ (style.painted source atlas feature zoom).filterMap (·.paint.icon?) ↔
      (∃ l ∈ style.layers, l.Selected source feature zoom ∧
        ∃ name, l.iconProperty? = some name ∧
          l.label? (.ofFeature feature zoom) name = some icon.name) ∧
      ∃ e, icon.Matches e atlas := by
  rw [painted_eq_walk, walk, List.filterMap_flatMap, List.mem_flatMap]
  simp only [Layer.mem_instructions_icons_iff, Layer.icon?_eq_some_iff]
  constructor
  · rintro ⟨⟨l, i⟩, hl, hselected, name, hname, hlabel, hmatches⟩
    exact ⟨⟨l, List.fst_mem_of_mem_zipIdx hl, hselected, name, hname, hlabel⟩, hmatches⟩
  · rintro ⟨⟨l, hl, hselected, name, hname, hlabel⟩, hmatches⟩
    obtain ⟨i, hi⟩ := List.mem_iff_getElem?.mp hl
    exact ⟨(l, i), List.mk_mem_zipIdx_iff_getElem?.mpr hi, hselected, name, hname, hlabel, hmatches⟩

/-- **The sprite decides on icons only.** -/
theorem painted_without_icons :
    (∀ other : Atlas,
      (style.painted source atlas feature zoom).filterMap Instruction.withoutIcons =
        (style.painted source other feature zoom).filterMap Instruction.withoutIcons) ∧
    (style.painted source .empty feature zoom).filterMap (·.paint.icon?) = [] ∧
    (style.painted source atlas feature zoom).filterMap Instruction.withoutIcons =
      style.painted source .empty feature zoom := by
  have hwithout (atlas : Atlas) :
      (style.painted source atlas feature zoom).filterMap Instruction.withoutIcons =
        style.painted source .empty feature zoom := by
    simp only [painted_eq_walk, walk, List.filterMap_flatMap, Layer.instructions_withoutIcons]
  refine ⟨fun other => ?_, ?_, hwithout atlas⟩
  · rw [hwithout atlas, hwithout other]
  · rw [painted_eq_walk, walk, List.filterMap_flatMap, List.flatMap_eq_nil_iff]
    refine fun x _ => List.eq_nil_iff_forall_not_mem.mpr fun icon hicon => ?_
    obtain ⟨-, name, -, hname⟩ := Layer.mem_instructions_icons_iff.mp hicon
    rw [Layer.icon?_empty] at hname
    cases hname

end Style

end MapStyle
