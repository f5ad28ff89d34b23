/-
A bound style against its document.

Which layers paint a feature is decided in two places: once when a style is bound to
a source, and once more for every feature.  Here the document is read in a single walk
instead, layer by layer, and the two come to the same.

* `Layer.Selected` — all that it takes for a layer to paint a feature;
* `Style.walk` — the instructions of the selected layers, in the order of the document;
* `painted_eq_walk` — a bound style paints what the walk gives;
* `filter_index_zipIdx` — every selected layer paints, whatever the others do;
* `walk_pairwise` — the layers come in order, and an icon comes before its label;
* `walk_append` — the walk over two lists of layers, one behind the other.
-/
import MapStyle.BoundStyle

namespace MapStyle

namespace Layer

/-- The layer paints the features of `source` like this one, at this zoom. -/
structure Selected (l : Layer) (source : String) (feature : Feature) (zoom : Float) : Prop where
  /-- A background needs no source; any other layer is fed by the given one. -/
  fed : l.type = .background ∨ l.source = some source
  /-- Nothing but a visibility that is plainly `none` hides a layer. -/
  shown : l.layout.find? "visibility" ≠ some (.literal (.string "none"))
  least : ∀ z, l.minZoom = some z → z ≤ zoom
  greatest : ∀ z, l.maxZoom = some z → zoom < z
  /-- A background takes any feature. -/
  fits : l.type = .background ∨
    (∀ name, l.sourceLayer = some name → feature.sourceLayer = some name) ∧
      (Filter.ofJson l.filter).holds feature zoom = true

variable {l : Layer} {source : String} {feature : Feature} {zoom : Float}

theorem isBackground_iff : l.isBackground = true ↔ l.type = .background := by
  rw [isBackground, beq_iff_eq]

theorem isFedBy_iff :
    l.isFedBy source = true ↔ l.type = .background ∨ l.source = some source := by
  rw [isFedBy, Bool.or_eq_true, isBackground_iff, beq_iff_eq]

theorem isVisible_iff :
    l.isVisible = true ↔ l.layout.find? "visibility" ≠ some (.literal (.string "none")) := by
  rw [isVisible]
  split
  · next v h => rw [h]; simp
  · next h =>
    simp only [true_iff]
    intro hnone
    exact h _ hnone

theorem inZoomRange_iff :
    l.inZoomRange zoom = true ↔
      (∀ z, l.minZoom = some z → z ≤ zoom) ∧ ∀ z, l.maxZoom = some z → zoom < z := by
  rw [inZoomRange, Bool.and_eq_true]
  cases l.minZoom <;> cases l.maxZoom <;> simp

/-- A layer that declares no layer of the tile takes the features of all of them. -/
theorem takes_sourceLayer_iff :
    (l.sourceLayer.isNone || feature.sourceLayer == l.sourceLayer) = true ↔
      ∀ name, l.sourceLayer = some name → feature.sourceLayer = some name := by
  cases l.sourceLayer <;> simp

/-- The checks when a layer is bound and the checks for a feature, taken together. -/
theorem selected_iff (index : Nat) :
    l.Selected source feature zoom ↔
      (l.isFedBy source && l.isVisible) = true ∧
        BoundLayer.applies ⟨index, l, .ofJson l.filter⟩ feature zoom = true := by
  rw [BoundLayer.applies]
  simp only [Bool.and_eq_true, Bool.or_eq_true (isBackground l), isFedBy_iff, isVisible_iff,
    inZoomRange_iff, isBackground_iff, takes_sourceLayer_iff]
  constructor
  · intro h
    exact ⟨⟨h.fed, h.shown⟩, ⟨h.least, h.greatest⟩, h.fits⟩
  · rintro ⟨⟨hfed, hshown⟩, ⟨hleast, hgreatest⟩, hfits⟩
    exact ⟨hfed, hshown, hleast, hgreatest, hfits⟩

instance : Decidable (l.Selected source feature zoom) :=
  decidable_of_iff' _ (selected_iff 0)

/-- What the layer at place `index` of a style has painted. -/
def instructions (l : Layer) (index : Nat) (source : String) (atlas : Atlas) (feature : Feature)
    (zoom : Float) : List Instruction :=
  if l.Selected source feature zoom then
    (l.paints (.ofFeature feature zoom) atlas).map fun p => ⟨l.id, index, p⟩
  else []

variable {atlas : Atlas} {index : Nat}

/-- A layer that is bound has painted what its binding paints, and any other layer nothing. -/
theorem instructions_eq_paint :
    l.instructions index source atlas feature zoom =
      if (l.isFedBy source && l.isVisible) = true then
        BoundLayer.paint ⟨index, l, .ofJson l.filter⟩ atlas feature zoom
      else [] := by
  have hiff : l.Selected source feature zoom ↔ _ := selected_iff index
  rw [instructions, BoundLayer.paint]
  by_cases hbound : (l.isFedBy source && l.isVisible) = true
  · rw [if_pos hbound]
    simp only [hiff, hbound, true_and]
  · rw [if_neg hbound, if_neg fun h => hbound (hiff.mp h).1]

theorem index_of_mem_instructions {a : Instruction}
    (h : a ∈ l.instructions index source atlas feature zoom) : a.index = index := by
  rw [instructions] at h
  split at h
  · obtain ⟨p, -, rfl⟩ := List.mem_map.mp h
    rfl
  · exact absurd h List.not_mem_nil

/-- One layer paints one thing, or an icon and then a label. -/
theorem paints_pairwise (l : Layer) (context : Context) (atlas : Atlas) :
    (l.paints context atlas).Pairwise fun a b => (∃ p, a = .icon p) ∧ ∃ q, b = .text q := by
  have hicon : ∀ a ∈ l.iconPaints context atlas, ∃ p, a = Paint.icon p := by
    intro a ha
    obtain ⟨icon, -, rfl⟩ := List.mem_map.mp ha
    exact ⟨_, rfl⟩
  have htext : ∀ b ∈ l.textPaints context, ∃ q, b = Paint.text q := by
    intro b hb
    obtain ⟨text, -, rfl⟩ := List.mem_map.mp hb
    exact ⟨_, rfl⟩
  rw [paints]
  split
  -- A layer of symbols is the only one with two paints.
  case h_5 =>
    refine List.pairwise_append.mpr ⟨?_, ?_, fun a ha b hb => ⟨hicon a ha, htext b hb⟩⟩
    · rw [iconPaints]
      cases l.icon? context atlas "icon-image" <;> simp
    · rw [textPaints]
      cases (l.label? context "text-field").filter (· ≠ "") <;> simp
  all_goals simp

end Layer

/-- The place that one instruction has before another: its layer comes first, or it is
the icon and the other the label of one layer. -/
def Instruction.Precedes (a b : Instruction) : Prop :=
  a.index < b.index ∨ a.index = b.index ∧ (∃ p, a.paint = .icon p) ∧ ∃ q, b.paint = .text q

/-- The same instruction for a layer that stands `n` places further back. -/
def Instruction.raise (n : Nat) (a : Instruction) : Instruction := { a with index := n + a.index }

namespace Layer

variable {l : Layer} {source : String} {feature : Feature} {zoom : Float} {atlas : Atlas}
  {index : Nat}

theorem instructions_pairwise :
    (l.instructions index source atlas feature zoom).Pairwise Instruction.Precedes := by
  rw [instructions]
  split
  · rw [List.pairwise_map]
    exact (paints_pairwise l _ atlas).imp fun h => .inr ⟨rfl, h⟩
  · exact List.Pairwise.nil

theorem instructions_raise (n : Nat) :
    l.instructions (n + index) source atlas feature zoom =
      (l.instructions index source atlas feature zoom).map (Instruction.raise n) := by
  rw [instructions, instructions]
  split
  · rw [List.map_map]
    rfl
  · rfl

end Layer

/-! ### The walk over a document -/

namespace Style

/-- What the layers of a style paint for a feature of one source, read off one after another. -/
def walk (style : Style) (source : String) (atlas : Atlas) (feature : Feature) (zoom : Float) :
    List Instruction :=
  style.layers.zipIdx.flatMap fun x => x.1.instructions x.2 source atlas feature zoom

/-- What a style paints for a feature once it is bound to a source. -/
def painted (style : Style) (source : String) (atlas : Atlas) (feature : Feature) (zoom : Float) :
    List Instruction :=
  (BoundStyle.compile style source atlas).paintAt feature zoom

variable (source : String) (atlas : Atlas) (feature : Feature) (zoom : Float)

/-- The layers bound from place `index` on paint what the walk from there gives. -/
theorem flatMap_bind (layers : List Layer) (index : Nat) :
    ((BoundStyle.bind source index layers).flatMap fun b => b.paint atlas feature zoom) =
      (layers.zipIdx index).flatMap fun x => x.1.instructions x.2 source atlas feature zoom := by
  -- A layer that is left out of the binding has painted nothing in the walk either.
  induction layers generalizing index with
  | nil => rfl
  | cons l rest ih =>
    rw [List.zipIdx_cons, List.flatMap_cons, ← ih (index + 1), Layer.instructions_eq_paint,
      BoundStyle.bind]
    split
    · rw [List.flatMap_cons]
    · rw [List.nil_append]

theorem painted_eq_walk (style : Style) :
    style.painted source atlas feature zoom = style.walk source atlas feature zoom :=
  flatMap_bind source atlas feature zoom style.layers 0

/-- The instructions of one layer stand in the walk as they are. -/
theorem filter_index_zipIdx {layers : List Layer} {start i : Nat} {l : Layer}
    (h : layers[i]? = some l) :
    ((layers.zipIdx start).flatMap fun x => x.1.instructions x.2 source atlas feature zoom).filter
        (·.index = start + i) = l.instructions (start + i) source atlas feature zoom := by
  induction layers generalizing start i with
  | nil => exact absurd h (by simp)
  | cons first rest ih =>
    rw [List.zipIdx_cons, List.flatMap_cons, List.filter_append]
    cases i with
    | zero =>
      obtain rfl : first = l := by simpa using h
      have hfirst : ∀ a ∈ first.instructions start source atlas feature zoom,
          decide (a.index = start) = true :=
        fun a ha => decide_eq_true (Layer.index_of_mem_instructions ha)
      have hrest : ∀ a ∈ (rest.zipIdx (start + 1)).flatMap fun x =>
          x.1.instructions x.2 source atlas feature zoom, ¬ decide (a.index = start) = true := by
        intro a ha
        obtain ⟨⟨l, i⟩, hl, ha⟩ := List.mem_flatMap.mp ha
        have hi := List.le_snd_of_mem_zipIdx hl
        have := Layer.index_of_mem_instructions ha
        simp only [decide_eq_true_eq]
        omega
      rw [Nat.add_zero, List.filter_eq_self.mpr hfirst, List.filter_eq_nil_iff.mpr hrest,
        List.append_nil]
    | succ i =>
      have hfirst : ∀ a ∈ first.instructions start source atlas feature zoom,
          ¬ decide (a.index = start + (i + 1)) = true := by
        intro a ha
        have := Layer.index_of_mem_instructions ha
        simp only [decide_eq_true_eq]
        omega
      have hplace : start + (i + 1) = start + 1 + i := by omega
      rw [List.filter_eq_nil_iff.mpr hfirst, List.nil_append, hplace]
      exact ih (by simpa using h)

/-- **The walk is in order**: layer after layer, and an icon before its label. -/
theorem walk_pairwise (style : Style) :
    (style.walk source atlas feature zoom).Pairwise Instruction.Precedes := by
  rw [walk, List.pairwise_flatMap]
  refine ⟨fun _ _ => Layer.instructions_pairwise, ?_⟩
  -- Instructions of different layers are told apart by the places of the layers.
  have hplaces : style.layers.zipIdx.Pairwise fun a b => a.2 < b.2 := by
    rw [← List.pairwise_map, List.zipIdx_map_snd]
    exact List.pairwise_lt_range'
  refine hplaces.imp fun hlt a ha b hb => .inl ?_
  rw [Layer.index_of_mem_instructions ha, Layer.index_of_mem_instructions hb]
  exact hlt

theorem walk_append (style : Style) (front back : List Layer) :
    { style with layers := front ++ back }.walk source atlas feature zoom =
      { style with layers := front }.walk source atlas feature zoom ++
        ({ style with layers := back }.walk source atlas feature zoom).map
          (Instruction.raise front.length) := by
  have hraise : back.zipIdx front.length = back.zipIdx.map fun x => (x.1, front.length + x.2) :=
    List.zipIdx_eq_map_add
  simp only [walk, List.zipIdx_append, Nat.zero_add, List.flatMap_append, hraise, List.flatMap_map,
    List.map_flatMap, Layer.instructions_raise]

/-- **A style paints what its document says, in the order of the document.**  No layer keeps
another from painting, the places of the layers never go down, the only layer that paints twice
gives an icon and then its label, and layers behind others paint what they would paint alone. -/
theorem painted_document_order (style : Style) :
    style.painted source atlas feature zoom = style.walk source atlas feature zoom ∧
    (∀ i l, style.layers[i]? = some l →
      (style.painted source atlas feature zoom).filter (·.index = i) =
        l.instructions i source atlas feature zoom) ∧
    ((style.painted source atlas feature zoom).map (·.index)).Pairwise (· ≤ ·) ∧
    ((style.painted source atlas feature zoom).Pairwise fun a b =>
      a.index = b.index → (∃ p, a.paint = .icon p) ∧ ∃ q, b.paint = .text q) ∧
    ∀ front back : List Layer,
      { style with layers := front ++ back }.painted source atlas feature zoom =
        { style with layers := front }.painted source atlas feature zoom ++
          ({ style with layers := back }.painted source atlas feature zoom).map
            (Instruction.raise front.length) := by
  simp only [painted_eq_walk, true_and]
  have hwalk := walk_pairwise source atlas feature zoom style
  refine ⟨fun i l hl => ?_, ?_, ?_, walk_append source atlas feature zoom style⟩
  · have hplace : (style.walk source atlas feature zoom).filter (·.index = 0 + i) =
        l.instructions (0 + i) source atlas feature zoom :=
      filter_index_zipIdx source atlas feature zoom hl
    rwa [Nat.zero_add] at hplace
  · rw [List.pairwise_map]
    refine hwalk.imp fun h => ?_
    rcases h with hlt | ⟨heq, -⟩
    · exact Nat.le_of_lt hlt
    · exact Nat.le_of_eq heq
  · refine hwalk.imp fun h heq => ?_
    rcases h with hlt | ⟨-, hpaints⟩
    · exact absurd heq (Nat.ne_of_lt hlt)
    · exact hpaints

end Style

end MapStyle
