/-
What an expression may look at: the properties, the geometry and the id of a
feature, and the zoom of the view.
-/
import MapStyle.Feature

namespace MapStyle

/-- The surroundings of an evaluation. -/
structure Context where
  properties : Dictionary Json
  zoom : Float
  geometryType : Option String
  featureId : Option Json

namespace Context

/-- A context without a geometry or an id. -/
def ofProperties (properties : Dictionary Json) (zoom : Float) : Context :=
  ⟨properties, zoom, none, none⟩

/-- The context of a feature. -/
def ofFeature (feature : Feature) (zoom : Float) : Context :=
  ⟨feature.properties, zoom, feature.geometry.styleName?, feature.id⟩

end Context

end MapStyle
